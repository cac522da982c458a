import MailTemplate.Json.Display

/-!
# Writing JSON

* `Json.write`: the text of a value, in ASCII and without spaces. Numbers have their displayed
  form; an infinity or a NaN, which JSON cannot write, is an object that names it.
-/

namespace MailTemplate.Json

/-- The escape of a UTF-16 unit by its number. -/
def unitEscape (u : Nat) : List Char := '\\' :: 'u' :: Text.hexPadded 4 u

/-- A character as it stands between quotes. -/
def writeChar (c : Char) : List Char :=
  let n := c.toNat
  if c = '"' || c = '\\' then ['\\', c]
  else if 0x20 ≤ n && n < 0x7F then [c]
  else if n < 0x10000 then unitEscape n
  else unitEscape (0xD800 + (n - 0x10000) / 0x400) ++ unitEscape (0xDC00 + (n - 0x10000) % 0x400)

/-- A text between quotes. -/
def writeText (s : String) : String :=
  String.ofList ('"' :: s.toList.flatMap writeChar ++ ['"'])

/-- A floating-point number, or an object with the name of one that has no digits. -/
def writeFloat (x : Binary64) : String :=
  let text := numberLayout.text x
  if x.isFinite then text else "\x7b\"$float\":" ++ writeText text ++ "\x7d"

mutual

/-- The text of a value. -/
def write : Json → String
  | .null => "null"
  | .bool b => if b then "true" else "false"
  | .int n => toString n
  | .float x => writeFloat x
  | .str s => writeText s
  | .arr items => "[" ++ ",".intercalate (writeItems items) ++ "]"
  | .obj members => "\x7b" ++ ",".intercalate (writeMembers members) ++ "\x7d"

/-- The texts of the items of an array. -/
def writeItems : List Json → List String
  | [] => []
  | v :: vs => write v :: writeItems vs

/-- The texts of the members of an object. -/
def writeMembers : List (String × Json) → List String
  | [] => []
  | (name, v) :: ms => (writeText name ++ ":" ++ write v) :: writeMembers ms

end

end MailTemplate.Json
