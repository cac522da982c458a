import MailTemplate.Decimal.Binary64

/-!
# The shortest decimal of a floating-point number

A positive finite word is the only one nearest to every number of an interval around it.

* `Binary64.inInterval`: membership in that interval, by exact integer comparison;
* `Binary64.shortest`: of the decimals in it with the fewest digits, the one nearest to the word;
* `DecimalLayout`: the choices left to a format, and `DecimalLayout.text`, the text of a word.
-/

namespace MailTemplate

/-- The number `mantissa · 10 ^ exponent`. -/
structure Decimal where
  mantissa : Nat
  exponent : Int
  deriving DecidableEq

namespace Decimal

/-- The digits of the mantissa, without the zeros at its end. -/
def digits (d : Decimal) : List Char :=
  ((Nat.toDigits 10 d.mantissa).reverse.dropWhile (· = '0')).reverse

/-- The place of the decimal point, counted from the first digit. -/
def point (d : Decimal) : Int := (Nat.toDigits 10 d.mantissa).length + d.exponent

end Decimal

namespace Binary64

/-- Four times the significand, the unit in which the ends of the interval are whole. -/
def quarters (x : Binary64) : Nat := 4 * x.significand

/-- The lower end of the interval, in quarters: half a step down, or a quarter of one where the
next smaller word has a smaller scale. -/
def lowQuarters (x : Binary64) : Nat :=
  if x.fractionField = 0 && 1 < x.exponentField then x.quarters - 1 else x.quarters - 2

/-- The upper end of the interval, in quarters. -/
def highQuarters (x : Binary64) : Nat := x.quarters + 2

/-- Numerators of `n · 2 ^ (scale - 2)` and of `10 ^ k` over a common denominator. -/
def onGrid (x : Binary64) (k : Int) (n : Nat) : Nat × Nat :=
  (n * twoTo (x.scale - 2).toNat * tenTo (-k).toNat, tenTo k.toNat * twoTo (2 - x.scale).toNat)

/-- Membership of `n · 10 ^ k` in the interval, whose ends count if the significand is even. -/
def inInterval (x : Binary64) (n : Nat) (k : Int) : Bool :=
  let low := (x.onGrid k x.lowQuarters).1
  let high := (x.onGrid k x.highQuarters).1
  let candidate := n * (x.onGrid k 0).2
  if x.significand % 2 = 0 then low ≤ candidate && candidate ≤ high
  else low < candidate && candidate < high

/-- The power of ten just above the word: `10 ^ (p - 1) ≤ x < 10 ^ p`. -/
def magnitude (x : Binary64) : Int :=
  let (numerator, denominator) := x.onGrid 0 x.quarters
  let p : Int := (Nat.toDigits 10 numerator).length - (Nat.toDigits 10 denominator).length
  if numerator * tenTo (-p).toNat < denominator * tenTo p.toNat then p else p + 1

/-- The multiple of `10 ^ k` in the interval that is nearest to the word, a tie going to the even
multiple; only the two multiples around the word can be the nearest. -/
def onGrid? (x : Binary64) (k : Int) : Option Decimal :=
  let (value, unit) := x.onGrid k x.quarters
  let below := value / unit
  let twice := 2 * (value % unit)
  let down : Option Decimal := if x.inInterval below k then some ⟨below, k⟩ else none
  let up : Option Decimal := if x.inInterval (below + 1) k then some ⟨below + 1, k⟩ else none
  if twice < unit || (twice = unit && below % 2 = 0) then down.or up else up.or down

/-- The shortest decimal that is read back as the word: seventeen digits always suffice. -/
def shortest (x : Binary64) : Decimal :=
  let p := x.magnitude
  (((List.range 17).map fun n : Nat => p - 1 - n).findSome? x.onGrid?).getD
    ⟨(x.onGrid 0 x.quarters).1 / (x.onGrid 0 x.quarters).2, 0⟩

end Binary64

/-- How a format writes a floating-point number. -/
structure DecimalLayout where
  /-- The least decimal exponent written without an exponent part. -/
  lowest : Int
  /-- The greatest decimal exponent written without an exponent part. -/
  highest : Int
  /-- The fewest digits of an exponent part. -/
  exponentDigits : Nat
  infinite : String
  notANumber : String

namespace DecimalLayout

/-- A list of digits, preceded by zeros up to a length. -/
def padded (width : Nat) (digits : List Char) : List Char :=
  List.replicate (width - digits.length) '0' ++ digits

/-- Digits with a point at the given place, and at least one digit on each side of it. -/
def positional (digits : List Char) (point : Int) : List Char :=
  if point ≤ 0 then ['0', '.'] ++ List.replicate (-point).toNat '0' ++ digits
  else
    let whole := digits.take point.toNat
    let rest := digits.drop point.toNat
    whole ++ List.replicate (point.toNat - whole.length) '0' ++
      '.' :: (if rest.isEmpty then ['0'] else rest)

/-- Digits with a point after the first, if more follow, and a signed exponent part. -/
def scientific (layout : DecimalLayout) (digits : List Char) (exponent : Int) : List Char :=
  let sign := if exponent < 0 then '-' else '+'
  let rest := digits.drop 1
  digits.take 1 ++ (if rest.isEmpty then [] else '.' :: rest) ++
    'e' :: sign :: padded layout.exponentDigits (Nat.toDigits 10 exponent.natAbs)

/-- The text of a word without its sign. -/
def unsignedText (layout : DecimalLayout) (x : Binary64) : List Char :=
  if x.isZero then ['0', '.', '0']
  else
    let d := x.shortest
    let exponent := d.point - 1
    if layout.lowest ≤ exponent && exponent ≤ layout.highest then positional d.digits d.point
    else layout.scientific d.digits exponent

/-- The text of a word. -/
def text (layout : DecimalLayout) (x : Binary64) : String :=
  if x.isNaN then layout.notANumber
  else
    let sign := if x.negative then "-" else ""
    sign ++ (if x.isFinite then String.ofList (layout.unsignedText x) else layout.infinite)

end DecimalLayout
end MailTemplate
