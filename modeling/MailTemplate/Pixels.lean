import MailTemplate.Json.Display
import MailTemplate.Text.Blank
import MailTemplate.Text.Numeral

/-!
# Lengths in pixels

* `Pixels`: a number, or a text such as `100%`;
* `Pixels.css?`: the length in a style sheet. Numbers, and texts that write one, get the unit. An
  integer that has no text has no form there;
* `Json.css?`: the same for any value.
-/

namespace MailTemplate

/-- A length: a number of pixels, or a text for the style sheet. -/
inductive Pixels
  | int (n : Int)
  | float (x : Binary64)
  | text (s : String)
  deriving DecidableEq

namespace Pixels

/-- The unit after a number. -/
def unit : String := "px"

/-- A text without the gaps at its ends, and with the unit if it then writes a number. -/
def textCss (s : String) : String :=
  let body := Text.trim Text.isGap s
  if Text.isNumeral body.toList then body ++ unit else body

/-- The length in a style sheet, unless it is an integer that has no text. -/
def css? : Pixels → Option String
  | .int n => (Text.ofInteger? n).map (· ++ unit)
  | .float x => some (Json.numberLayout.text x ++ unit)
  | .text s => some (textCss s)

/-- The length as a JSON value. -/
def toJson : Pixels → Json
  | .int n => .int n
  | .float x => .float x
  | .text s => .str s

end Pixels

/-- The length that any value stands for in a style sheet, by its displayed form. -/
def Json.css? : Json → Option String
  | .str s => some (Pixels.textCss s)
  | .bool b => (Json.bool b).display?.map (· ++ Pixels.unit)
  | .int n => Pixels.css? (.int n)
  | .float x => Pixels.css? (.float x)
  | v => v.display?.map Pixels.textCss

/-- The length that any value stands for, empty if it stands for none. -/
def Json.css (v : Json) : String := v.css?.getD ""

end MailTemplate
