import MailTemplate.Text.Digit

/-!
# Numerals

Digits may be grouped by single underscores, as in `1_000`.

* `digitRun`: the digits at the start of a text, and what follows them;
* `isNumeral`: the written forms of a number, with a fraction, an exponent or neither, and the
  names of infinity and of what is not a number;
* `digitsValue`: the number that digits from 0 to 9 stand for.
-/

namespace MailTemplate.Text

/-- After a first digit: the further digits, and what follows them. An underscore belongs to the
run if a digit comes next. -/
def moreDigits (isDigit : Char → Bool) : List Char → List Char × List Char
  | [] => ([], [])
  | c :: cs =>
      if isDigit c then
        let (digits, rest) := moreDigits isDigit cs
        (c :: digits, rest)
      else
        match c, cs with
        | '_', d :: ds =>
            if isDigit d then
              let (digits, rest) := moreDigits isDigit ds
              (d :: digits, rest)
            else ([], '_' :: d :: ds)
        | _, _ => ([], c :: cs)

/-- The digits at the start of a text, and what follows them, if there is a digit. -/
def digitRun (isDigit : Char → Bool) : List Char → Option (List Char × List Char)
  | [] => none
  | c :: cs =>
      if isDigit c then
        let (digits, rest) := moreDigits isDigit cs
        some (c :: digits, rest)
      else none

/-- A text without the sign at its start. -/
def dropSign : List Char → List Char
  | '+' :: cs => cs
  | '-' :: cs => cs
  | cs => cs

/-- Nothing, or an exponent with an optional sign. -/
def isExponentPart : List Char → Bool
  | [] => true
  | c :: cs => (c = 'e' || c = 'E') && (digitRun isDecimalDigit (dropSign cs)).any (·.2.isEmpty)

/-- Digits with an optional point before, among or after them, and an optional exponent. -/
def isDecimalNumeral (cs : List Char) : Bool :=
  match digitRun isDecimalDigit cs with
  | some (_, '.' :: rest) =>
      isExponentPart (((digitRun isDecimalDigit rest).map (·.2)).getD rest)
  | some (_, rest) => isExponentPart rest
  | none =>
      match cs with
      | '.' :: rest => (digitRun isDecimalDigit rest).any (isExponentPart ·.2)
      | _ => false

/-- The names, in lower case, of the numbers that have no digits. -/
def namedNumbers : List String := ["inf", "infinity", "nan"]

/-- The written forms of a number: an optional sign, then digits of any script or a name. -/
def isNumeral (cs : List Char) : Bool :=
  let body := dropSign cs
  isDecimalNumeral body || namedNumbers.contains (String.ofList (body.map Char.toLower))

/-- The number that a list of digits stands for. -/
def digitsValue (digits : List Char) : Nat :=
  digits.foldl (fun n c => 10 * n + (c.toNat - '0'.toNat)) 0

end MailTemplate.Text
