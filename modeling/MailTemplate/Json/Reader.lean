import MailTemplate.Json.Token

/-!
# Reading JSON

The values of a text are put together by one fold over its tokens, with a stack of the arrays and
objects that are still open.

* `Json.Frame`: an array or object with the values read so far;
* `Json.Reading`: what may come next;
* `Json.read?`: the value of a text. Of two members of one name the later value counts, in the
  place of the earlier one.
-/

namespace MailTemplate.Json

/-- An array or an object that is still open. -/
inductive Frame
  /-- The items so far, the last one first. -/
  | array (items : List Json)
  /-- The members so far, and the name whose value comes next. -/
  | member (members : Object) (name : String)

/-- What may come next, and the frames around it, the innermost first. -/
inductive Reading
  /-- A value, or the end of an array that has just begun. -/
  | value (around : List Frame) (isFirst : Bool)
  /-- A name, or the end of an object that has just begun. -/
  | name (around : List Frame) (members : Object) (isFirst : Bool)
  /-- The colon after a name. -/
  | colon (around : List Frame) (members : Object) (name : String)
  /-- A separator or the end of the innermost frame: a value is complete. -/
  | complete (around : List Frame) (value : Json)

namespace Reading

/-- Read one token. -/
def step : Reading → Token → Option Reading
  | .value around _, .scalar v => some (.complete around v)
  | .value around _, .openArray => some (.value (.array [] :: around) true)
  | .value around _, .openObject => some (.name around [] true)
  | .value (.array _ :: around) true, .closeArray => some (.complete around (.arr []))
  | .name around members _, .scalar (.str s) => some (.colon around members s)
  | .name around _ true, .closeObject => some (.complete around (.obj []))
  | .colon around members s, .colon => some (.value (.member members s :: around) false)
  | .complete (.array items :: around) v, .comma =>
      some (.value (.array (v :: items) :: around) false)
  | .complete (.array items :: around) v, .closeArray =>
      some (.complete around (.arr (v :: items).reverse))
  | .complete (.member members s :: around) v, .comma =>
      some (.name around (members.put s v) false)
  | .complete (.member members s :: around) v, .closeObject =>
      some (.complete around (.obj (members.put s v)))
  | _, _ => none

/-- The value read, once everything is closed. -/
def finish : Reading → Option Json
  | .complete [] v => some v
  | _ => none

end Reading

/-- The value of a text, if the text is JSON. -/
def read? (s : String) : Option Json := do
  let tokens ← tokens? s.toList
  (← tokens.foldlM Reading.step (.value [] false)).finish

end MailTemplate.Json
