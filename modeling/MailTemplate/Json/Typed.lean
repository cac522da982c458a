import MailTemplate.Checked
import MailTemplate.Pixels
import MailTemplate.Text.WholeNumber

/-!
# Typed values in JSON

* `Json.asText`, `asInteger`, `asBoolean`, `asPixels`, `asTexts`, `asDictionary`, `asChoice`: a
  value of a type, or the faults that keep it from being one;
* `FieldName`: the two names of a field, on the wire and in programs;
* `Json.Object.required` and `optional`: the value of a field of an object.
-/

namespace MailTemplate
namespace Json

/-- A text as it is. -/
def asText : Json → Checked String
  | .str s => .ok s
  | _ => .fail .expectedText

/-- A text without blanks at its ends, of which something must be left. -/
def asTrimmedText (v : Json) : Checked String := do
  let s := Text.trim Text.isBlank (← v.asText)
  if s = "" then .fail .emptyText else .ok s

/-- The integer that a text writes. -/
def integerOfText (s : String) : Checked Int :=
  if Text.isOverlong s.toList then .fail .oversizedInteger
  else
    match Text.wholeNumber? s.toList with
    | some n => .ok n
    | none => .fail .unreadableInteger

/-- The integer that a floating-point number is, below `2 ^ 63` in size. -/
def integerOfFloat (x : Binary64) : Checked Int :=
  if !x.isFinite then .fail .infiniteInteger
  else
    match x.whole? with
    | none => .fail .fractionalInteger
    | some n => if n.natAbs < Binary64.twoTo 63 then .ok n else .fail .oversizedInteger

/-- An integer of any size; booleans count as 0 and 1, floats and texts if they are whole. -/
def asInteger : Json → Checked Int
  | .int n => .ok n
  | .bool b => .ok (if b then 1 else 0)
  | .float x => integerOfFloat x
  | .str s => integerOfText s
  | _ => .fail .expectedInteger

/-- The words for false, in lower case. -/
def falseWords : List String := ["0", "off", "f", "false", "n", "no"]

/-- The words for true, in lower case. -/
def trueWords : List String := ["1", "on", "t", "true", "y", "yes"]

/-- The boolean that an integer is. -/
def booleanOfInteger (n : Int) : Checked Bool :=
  if n = 0 then .ok false else if n = 1 then .ok true else .fail .unreadableBoolean

/-- Whether an integer is one of the signed 64-bit numbers. -/
def isWord (n : Int) : Bool := -(Binary64.twoTo 63 : Int) ≤ n && n < Binary64.twoTo 63

/-- A boolean, 0 or 1 in any kind of number, or a word in any case. -/
def asBoolean : Json → Checked Bool
  | .bool b => .ok b
  | .int n => if isWord n then booleanOfInteger n else .fail .expectedBoolean
  | .float x =>
      match integerOfFloat x with
      | .ok n => booleanOfInteger n
      | .error _ => .fail .expectedBoolean
  | .str s =>
      let word := String.ofList (s.toList.map Char.toLower)
      if falseWords.contains word then .ok false
      else if trueWords.contains word then .ok true
      else .fail .unreadableBoolean
  | _ => .fail .expectedBoolean

/-- A number or a text, kept as it is; a boolean counts as 0 or 1. -/
def asPixels : Json → Checked Pixels
  | .int n => .ok (.int n)
  | .bool b => .ok (.int (if b then 1 else 0))
  | .float x => .ok (.float x)
  | .str s => .ok (.text s)
  | _ => .error [⟨[.key "int"], .expectedInteger⟩, ⟨[.key "float"], .expectedNumber⟩,
      ⟨[.key "str"], .expectedText⟩]

/-- The items of an array, each read at its position. -/
def asItems {α : Type} (read : Json → Checked α) (items : List Json) : Checked (List α) :=
  .all (items.mapIdx fun i v => (read v).under (.index i))

/-- An array of texts. -/
def asTexts : Json → Checked (List String)
  | .arr items => asItems asText items
  | _ => .fail .expectedList

/-- An object with any members. -/
def asDictionary : Json → Checked Object
  | .obj members => .ok members
  | _ => .fail .expectedDictionary

/-- An object that is read as a model. -/
def asModel (model : String) : Json → Checked Object
  | .obj members => .ok members
  | _ => .fail (.expectedModel model)

/-- One of several named values. -/
def asChoice {α : Type} (name : α → String) (choices : List α) (v : Json) : Checked α :=
  match choices.find? fun a => v = .str (name a) with
  | some a => .ok a
  | none => .fail (.notAChoice (choices.map name))

/-- An object that names its own kind under `tagName`, among the named kinds. -/
def asTagged {α : Type} (tagName : String) (name : α → String) (kinds : List α) (v : Json) :
    Checked (α × Object) :=
  match v with
  | .obj members =>
      match Object.get? members tagName with
      | none => .fail (.missingTag tagName)
      | some tag =>
          match kinds.find? fun a => tag = .str (name a) with
          | some a => .ok (a, members)
          | none => .fail (.unknownTag tagName tag.display (kinds.map name))
  | _ => .fail .expectedTagged

end Json

/-- The names under which a field is found. -/
structure FieldName where
  wire : String
  /-- The name that is looked for where the name on the wire is absent. -/
  other : String := wire
  deriving DecidableEq

namespace Json.Object

/-- The member that holds a field, with its name: the one with the name on the wire if it is there,
even if its value is invalid. -/
def find? (o : Object) (field : FieldName) : Option (String × Json) :=
  match o.get? field.wire with
  | some v => some (field.wire, v)
  | none => (o.get? field.other).map fun v => (field.other, v)

/-- The value of a field that must be there. -/
def required {α : Type} (o : Object) (field : FieldName) (read : Json → Checked α) : Checked α :=
  match o.find? field with
  | some (name, v) => (read v).under (.key name)
  | none => Checked.under (.key field.wire) (.fail .missing)

/-- The value of a field with a default. -/
def optional {α : Type} (o : Object) (field : FieldName) (default : α)
    (read : Json → Checked α) : Checked α :=
  match o.find? field with
  | some (name, v) => (read v).under (.key name)
  | none => .ok default

end Json.Object
end MailTemplate
