/-!
# Binary floating-point words

The 64-bit interchange format as raw words; every function here is exact integer arithmetic.

* `Binary64`, with its sign, exponent and fraction fields, `zero` and `infinity`;
* `Binary64.significand` and `Binary64.scale`: a finite word is `± significand · 2 ^ scale`;
* `Binary64.ofScientific`: the word nearest to a decimal, a tie going to the even significand;
* `Binary64.whole?`: the integer that a word is, if it is one.
-/

namespace MailTemplate

/-- A floating-point number, given by its 64-bit word. -/
structure Binary64 where
  bits : UInt64
  deriving DecidableEq

namespace Binary64

/-- A power of two. -/
def twoTo (n : Nat) : Nat := Nat.pow 2 n

/-- A power of ten. -/
def tenTo (n : Nat) : Nat := Nat.pow 10 n

/-- The sign bit: set for negative numbers and for negative zero. -/
def negative (x : Binary64) : Bool := twoTo 63 ≤ x.bits.toNat

/-- The biased exponent, between 0 and 2047. -/
def exponentField (x : Binary64) : Nat := x.bits.toNat / twoTo 52 % twoTo 11

/-- The 52 stored bits of the significand. -/
def fractionField (x : Binary64) : Nat := x.bits.toNat % twoTo 52

/-- Neither infinite nor a NaN. -/
def isFinite (x : Binary64) : Bool := x.exponentField < 2047

/-- One of the words that stand for no number. -/
def isNaN (x : Binary64) : Bool := x.exponentField = 2047 && x.fractionField != 0

/-- The integer factor of a finite word; it has 53 bits unless the number is subnormal. -/
def significand (x : Binary64) : Nat :=
  if x.exponentField = 0 then x.fractionField else twoTo 52 + x.fractionField

/-- The power of two that goes with `significand`. -/
def scale (x : Binary64) : Int :=
  if x.exponentField = 0 then -1074 else (x.exponentField : Int) - 1075

/-- One of the two zeros. -/
def isZero (x : Binary64) : Bool := x.isFinite && x.significand = 0

/-- The word with the given sign and the given lower 63 bits. -/
def ofMagnitude (negative : Bool) (magnitude : Nat) : Binary64 :=
  ⟨UInt64.ofNat ((if negative then twoTo 63 else 0) + magnitude)⟩

/-- Zero, with a sign. -/
def zero (negative : Bool) : Binary64 := ofMagnitude negative 0

/-- Infinity, with a sign. -/
def infinity (negative : Bool) : Binary64 := ofMagnitude negative (2047 * twoTo 52)

/-- The canonical NaN. -/
def nan : Binary64 := ofMagnitude false (2047 * twoTo 52 + twoTo 51)

/-- The whole number nearest to `numerator / denominator`, a tie going to the even one. -/
def roundedQuotient (numerator denominator : Nat) : Nat :=
  let quotient := numerator / denominator
  let twice := 2 * (numerator % denominator)
  if denominator < twice || (twice = denominator && quotient % 2 = 1) then quotient + 1
  else quotient

/-- The word nearest to `± numerator / denominator` for a positive quotient.

The scale is the least one at which the quotient stays below `2 ^ 53`, but at least -1074. A
significand that rounds up to `2 ^ 53` carries into the exponent field by the addition. -/
def ofQuotient (negative : Bool) (numerator denominator : Nat) : Binary64 :=
  let estimate : Int := (numerator.log2 : Int) - denominator.log2 - 52
  let scaled (e : Int) : Nat × Nat :=
    (numerator * twoTo (-e).toNat, denominator * twoTo e.toNat)
  let below := scaled (estimate - 1)
  let tight := if below.1 < below.2 * twoTo 53 then estimate - 1 else estimate
  let e := max tight (-1074)
  let rounded := roundedQuotient (scaled e).1 (scaled e).2
  let magnitude := (e + 1074).toNat * twoTo 52 + rounded
  if 2047 * twoTo 52 ≤ magnitude then infinity negative else ofMagnitude negative magnitude

/-- The word nearest to `± mantissa · 10 ^ exponent`.

Decimals of more than 310 integer digits are infinite and those below `10 ^ (-330)` are zero,
whatever their digits, so a huge exponent costs nothing. -/
def ofScientific (negative : Bool) (mantissa : Nat) (exponent : Int) : Binary64 :=
  if mantissa = 0 then zero negative
  else
    let magnitude : Int := (Nat.toDigits 10 mantissa).length + exponent
    if magnitude > 310 then infinity negative
    else if magnitude < -330 then zero negative
    else ofQuotient negative (mantissa * tenTo exponent.toNat) (tenTo (-exponent).toNat)

/-- The integer equal to a word, if there is one. -/
def whole? (x : Binary64) : Option Int :=
  if x.isFinite then
    let size := x.significand * twoTo x.scale.toNat
    let unit := twoTo (-x.scale).toNat
    if size % unit = 0 then
      some (if x.negative then -((size / unit : Nat) : Int) else ((size / unit : Nat) : Int))
    else none
  else none

end Binary64
end MailTemplate
