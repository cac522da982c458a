import MailTemplate.Text.Blank
import MailTemplate.Text.Integer
import MailTemplate.Text.Numeral

/-!
# Whole numbers in texts

A whole number is written with the digits from 0 to 9. Blanks at its ends, a sign, needless zeros,
single underscores between digits and a fraction of zeros do not change it.

* `skipZeros`: a number without the needless zeros before it;
* `magnitude?`: digits and a fraction of zeros;
* `wholeNumber?`: the number that a text writes;
* `isOverlong`: whether a text starts with more digits than are read.
-/

namespace MailTemplate.Text

/-- After a zero: the rest of a number, without the further zeros and without underscores. The last
of them stays where no number follows, at the end and before a point. -/
def afterZero (last : Char) : List Char → List Char
  | [] => [last]
  | c :: cs =>
      if c = '0' || c = '_' then afterZero c cs
      else if c = '.' then last :: c :: cs
      else c :: cs

/-- A number without the needless zeros before it. -/
def skipZeros : List Char → List Char
  | '0' :: cs => afterZero '0' cs
  | cs => cs

/-- Nothing, or a point and at least one zero. -/
def isZeroFraction : List Char → Bool
  | [] => true
  | '.' :: zeros => !zeros.isEmpty && zeros.all (· = '0')
  | _ => false

/-- The number that digits stand for, unless they are too many or a needless zero is the first. -/
def digitsNumber? (digits : List Char) : Option Nat :=
  if digits.length ≤ digitsLimit && (digits.head? ≠ some '0' || digits.length = 1) then
    some (digitsValue digits)
  else none

/-- The number that digits and a fraction of zeros stand for. -/
def magnitude? (cs : List Char) : Option Nat :=
  match digitRun Char.isDigit cs with
  | some (digits, rest) => if isZeroFraction rest then digitsNumber? digits else none
  | none => none

/-- A number below zero or zero. -/
def negated? (cs : List Char) : Option Int := (magnitude? cs).map fun n => -(n : Int)

/-- A number after zeros, which may also stand before its minus. An underscore may follow that. -/
def magnitudeAfterZeros? : List Char → Option Int
  | '-' :: '_' :: cs => negated? cs
  | '-' :: cs => negated? cs
  | cs => (magnitude? cs).map fun n => (n : Int)

/-- A number without a minus before its zeros. -/
def unsigned? : List Char → Option Int
  | '0' :: cs => magnitudeAfterZeros? (afterZero '0' cs)
  | cs => (magnitude? cs).map fun n => (n : Int)

/-- The whole number that a text writes. -/
def wholeNumber? (cs : List Char) : Option Int :=
  match trimChars isBlank cs with
  | '-' :: body => negated? (skipZeros body)
  | '+' :: body => unsigned? body
  | body => unsigned? body

/-- Whether a text starts with a number of too many digits, with a minus or without a sign. The
digits after a first zero are not counted. -/
def isOverlong (cs : List Char) : Bool :=
  let digits := (if cs.head? = some '-' then cs.tail else cs).takeWhile Char.isDigit
  digits.head? ≠ some '0' && digitsLimit < digits.length

end MailTemplate.Text
