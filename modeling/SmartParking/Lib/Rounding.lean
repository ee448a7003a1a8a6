import Mathlib.Algebra.Order.Floor.Ring
import Mathlib.Data.Rat.Floor

namespace SmartParking.Lib.Rounding

-- Python's `int` on a number: the fraction is cut off.
def truncate (q : ℚ) : Int := if 0 ≤ q then ⌊q⌋ else ⌈q⌉

variable {q : ℚ}

theorem truncate_floor (nonneg : 0 ≤ q) : truncate q = ⌊q⌋ := if_pos nonneg

theorem truncate_nonneg (nonneg : 0 ≤ q) : 0 ≤ truncate q := by
  rw [truncate_floor nonneg]
  exact Int.floor_nonneg.mpr nonneg

theorem truncate_le (nonneg : 0 ≤ q) : (truncate q : ℚ) ≤ q := by
  rw [truncate_floor nonneg]
  exact Int.floor_le q

theorem lt_truncate_add_one (nonneg : 0 ≤ q) : q < truncate q+1 := by
  rw [truncate_floor nonneg]
  exact Int.lt_floor_add_one q

-- Rounding to the nearest double, as far as it is used: it keeps the order, and
-- small multiples of 1/64 are doubles.
structure Nearest (round : ℚ → ℚ) : Prop where
  monotone : Monotone round
  doubles : ∀ k : Nat, k ≤ 2^53 → round (k/64) = k/64

theorem nearest_id : Nearest id := ⟨monotone_id,fun _ _ => rfl⟩

variable {round : ℚ → ℚ}

theorem Nearest.le_double (nearest : Nearest round) {k : Nat} (small : k ≤ 2^53) (bound : q ≤ k/64) : round q ≤ k/64 := by
  rw [← nearest.doubles k small]
  exact nearest.monotone bound

theorem Nearest.double_le (nearest : Nearest round) {k : Nat} (small : k ≤ 2^53) (bound : k/64 ≤ q) : k/64 ≤ round q := by
  rw [← nearest.doubles k small]
  exact nearest.monotone bound

theorem Nearest.nonneg (nearest : Nearest round) (nonneg : 0 ≤ q) : 0 ≤ round q := by
  simpa using nearest.double_le (k := 0) (by decide) (by simpa using nonneg)

end SmartParking.Lib.Rounding
