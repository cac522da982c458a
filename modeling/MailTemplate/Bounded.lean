/-!
# Bounded integers

* `Bounds`: a lower and an upper limit;
* `Bounded`: an integer between them;
* `Bounded.clamp`: the bounded integer nearest to an integer.
-/

namespace MailTemplate

/-- A lower and an upper limit. -/
structure Bounds where
  low : Int
  high : Int
  low_le_high : low ≤ high := by decide

/-- An integer between two limits, which belong to it. -/
structure Bounded (bounds : Bounds) where
  val : Int
  low_le : bounds.low ≤ val
  le_high : val ≤ bounds.high
  deriving DecidableEq

namespace Bounded

variable {bounds : Bounds}

/-- The limit that an integer lies beyond, or the integer itself. -/
def clamp (bounds : Bounds) (n : Int) : Bounded bounds where
  val := min (max n bounds.low) bounds.high
  low_le := by have := bounds.low_le_high; omega
  le_high := by omega

@[simp] theorem clamp_val (n : Bounded bounds) : clamp bounds n.val = n := by
  obtain ⟨n, h, h'⟩ := n
  simp only [clamp, mk.injEq]
  omega

end Bounded
end MailTemplate
