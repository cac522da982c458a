import MailTemplate.Decimal.Shortest
import MailTemplate.Json.Basic
import MailTemplate.Text.Integer
import MailTemplate.Text.Quoted

/-!
# The displayed form of a JSON value

A value in which some integer has no text has no displayed form.

* `Json.numberLayout`: how floating-point numbers are displayed;
* `Json.literal?`: a value as it stands in a list, texts between quotes;
* `Json.display?`: a value on its own, a text as it is;
* `Json.display`: the same, for where a text is wanted in any case.
-/

namespace MailTemplate.Json

/-- Numbers from `10 ^ (-4)` up to `10 ^ 16` are written without an exponent; an exponent has a
sign and at least two digits. -/
def numberLayout : DecimalLayout where
  lowest := -4
  highest := 15
  exponentDigits := 2
  infinite := "inf"
  notANumber := "nan"

mutual

/-- A value as it stands in a list or an object. -/
def literal? : Json → Option String
  | .null => some "None"
  | .bool b => some (if b then "True" else "False")
  | .int n => Text.ofInteger? n
  | .float x => some (numberLayout.text x)
  | .str s => some (Text.quoted s)
  | .arr items => (literals? items).map fun texts => "[" ++ ", ".intercalate texts ++ "]"
  | .obj members =>
      (memberLiterals? members).map fun texts => "\x7b" ++ ", ".intercalate texts ++ "\x7d"

/-- The values of an array. -/
def literals? : List Json → Option (List String)
  | [] => some []
  | v :: vs => do some ((← literal? v) :: (← literals? vs))

/-- The members of an object, each with a colon after its name. -/
def memberLiterals? : List (String × Json) → Option (List String)
  | [] => some []
  | (name, v) :: ms => do
      some ((Text.quoted name ++ ": " ++ (← literal? v)) :: (← memberLiterals? ms))

end

/-- A value on its own. -/
def display? : Json → Option String
  | .str s => some s
  | v => v.literal?

/-- A value on its own, empty if it has no displayed form. -/
def display (v : Json) : String := v.display?.getD ""

end MailTemplate.Json
