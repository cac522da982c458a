import Mathlib.Data.Rat.Cast.Order
import Mathlib.Tactic.Ring
import MailTemplate.Json.Typed
import MailTemplate.Proofs.Checked

/-!
# Numbers and the integers that they are read as

* `Binary64.value` and `whole?_eq_some_iff`: the number that a finite word stands for, and when it is
  an integer;
* `Json.rational?` and `Json.IsWhole`: the number that a value is, and whether it counts as an integer;
* `Json.asInteger_eq_ok_iff` and `isOk_asInteger_iff`: which numbers are read as integers, and as
  which.
-/

namespace MailTemplate

/-! ### Floating-point numbers -/

namespace Binary64

variable {x : Binary64}

/-- The number that a finite word stands for. -/
def value (x : Binary64) : ℚ :=
  (if x.negative then -1 else 1) * (x.significand * 2 ^ x.scale)

/-- A power of two with an integer exponent as a fraction, in which one of the two exponents is 0. -/
theorem two_zpow_eq (e : Int) : (2 : ℚ) ^ e = twoTo e.toNat / twoTo (-e).toNat := by
  have hsplit : (e.toNat : Int) - (-e).toNat = e := Int.toNat_sub_toNat_neg e
  rw [twoTo, twoTo, Nat.pow_eq, Nat.pow_eq, Nat.cast_pow, Nat.cast_pow, ← zpow_natCast,
    ← zpow_natCast, Nat.cast_ofNat, ← zpow_sub₀ two_ne_zero, hsplit]

/-- A fraction of naturals is an integer exactly if the division leaves no remainder. -/
theorem fraction_eq_iff {a b : Nat} (hb : 0 < b) (n : Int) :
    (a : ℚ) / b = n ↔ a % b = 0 ∧ ((a / b : Nat) : Int) = n := by
  have hb' : (b : ℚ) ≠ 0 := by exact_mod_cast hb.ne'
  rw [div_eq_iff hb']
  constructor
  · intro h
    have hint : (a : Int) = n * b := by exact_mod_cast h
    have hmod : (a : Int) % b = 0 := by rw [hint, Int.mul_emod_left]
    have hdiv : (a : Int) / b = n := by
      rw [hint, Int.mul_ediv_cancel _ (by omega)]
    exact ⟨by exact_mod_cast hmod, by exact_mod_cast hdiv⟩
  · rintro ⟨hmod, rfl⟩
    have hmul : a / b * b = a := Nat.div_mul_cancel (Nat.dvd_of_mod_eq_zero hmod)
    exact_mod_cast hmul.symm

/-- A finite word is an integer exactly if the number that it stands for is. -/
theorem whole?_eq_some_iff (h : x.isFinite = true) {n : Int} :
    x.whole? = some n ↔ x.value = n := by
  have hunit : 0 < twoTo (-x.scale).toNat := Nat.pow_pos two_pos
  have hsize := fraction_eq_iff (a := x.significand * twoTo x.scale.toNat) hunit
  have hvalue : x.value = (if x.negative then -1 else 1) *
      ((x.significand * twoTo x.scale.toNat : Nat) / twoTo (-x.scale).toNat : ℚ) := by
    rw [value, two_zpow_eq, Nat.cast_mul, mul_div_assoc]
  rw [hvalue]
  simp only [whole?, h, if_true, Option.ite_none_right_eq_some, Option.some.injEq]
  cases x.negative with
  | false => simp only [Bool.false_eq_true, if_false, one_mul, hsize]
  | true =>
    -- the sign goes over to the integer
    have hneg (q : ℚ) : -1 * q = n ↔ q = (-n : Int) := by
      rw [neg_one_mul, Int.cast_neg, neg_eq_iff_eq_neg]
    simp only [if_true, hneg, hsize, neg_eq_iff_eq_neg]

end Binary64

/-! ### Values -/

namespace Json

variable {v : Json} {q : ℚ} {n : Int}

/-- The number that a value is: an integer of any size, or a finite floating-point number. -/
def rational? : Json → Option ℚ
  | .int n => some n
  | .float x => if x.isFinite then some x.value else none
  | _ => none

/-- The values that count as integers among the numbers: those that are written as integers, and
floating-point numbers that are integers below `2 ^ 63` in size. -/
def IsWhole : Json → Prop
  | .int _ => True
  | .float x => ∃ n : Int, x.value = n ∧ n.natAbs < 2 ^ 63
  | _ => False

/-- A number is read as the integer that it is, if it counts as one. -/
theorem asInteger_eq_ok_iff (h : v.rational? = some q) :
    v.asInteger = .ok n ↔ q = n ∧ v.IsWhole := by
  cases v with
  | int m =>
    obtain rfl := Option.some.inj h
    simp [asInteger, IsWhole]
  | float x =>
    simp only [rational?, Option.ite_none_right_eq_some, Option.some.injEq] at h
    obtain ⟨hfinite, rfl⟩ := h
    have hwhole := @Binary64.whole?_eq_some_iff x hfinite
    simp only [asInteger, integerOfFloat, hfinite, Bool.not_true, Bool.false_eq_true, if_false,
      IsWhole]
    cases hx : x.whole? with
    | none =>
      refine iff_of_false Checked.fail_ne_ok ?_
      rintro ⟨-, m, hm, -⟩
      cases hx.symm.trans (hwhole.mpr hm)
    | some m =>
      have hm := hwhole.mp hx
      simp only [hm, Int.cast_inj]
      split
      · rename_i hsmall
        rw [Except.ok.injEq, and_iff_left]
        exact ⟨m, rfl, by simpa [Binary64.twoTo] using hsmall⟩
      · rename_i hlarge
        refine iff_of_false Checked.fail_ne_ok ?_
        rintro ⟨-, k, rfl, hk⟩
        exact hlarge (by simpa [Binary64.twoTo] using hk)
  | _ => cases h

theorem IsWhole.exists_eq (hwhole : v.IsWhole) (h : v.rational? = some q) : ∃ n : Int, q = n := by
  cases v with
  | int m => exact ⟨m, (Option.some.inj h).symm⟩
  | float x =>
    obtain ⟨m, hm, -⟩ := hwhole
    simp only [rational?, Option.ite_none_right_eq_some, Option.some.injEq] at h
    exact ⟨m, h.2.symm.trans hm⟩
  | _ => cases h

theorem isOk_asInteger_iff (h : v.rational? = some q) : v.asInteger.isOk = true ↔ v.IsWhole := by
  rw [isOk_iff]
  simp only [asInteger_eq_ok_iff h]
  constructor
  · rintro ⟨n, -, hwhole⟩
    exact hwhole
  · intro hwhole
    obtain ⟨n, hn⟩ := hwhole.exists_eq h
    exact ⟨n, hn, hwhole⟩

end Json
end MailTemplate
