import Mathlib.Algebra.Order.Ring.Int
import Mathlib.Tactic.Common

/-!
Tasks with a fixed delay: the next release comes at least a period after the end of
the last one. What counts its own releases down measures time then: it never runs
faster than the clock.
-/

namespace TrafficLight.FixedDelay

/-- A countdown from `n` that began at the time `since` stands at `left`; the next
release is not before `next`, and the clock shows `clock`. -/
def Counts (period since : Nat) (n left : Int) (next clock : Nat) : Prop :=
  since + (n - left + 1) * period ≤ (max next clock : Nat)

variable {period since next next' clock clock' now : Nat} {n left left' : Int}

/-- The first release is a full period away. -/
theorem counts_full (h : next = since + period) : Counts period since n n next clock := by
  unfold Counts
  rw [sub_self, zero_add, one_mul, h, ← Nat.cast_add]
  exact Int.ofNat_le.mpr (Nat.le_max_left ..)

/-- The first release may come at once. -/
theorem counts_late (h : since ≤ clock) : Counts period since (n - 1) n next clock := by
  unfold Counts
  have hzero : n - 1 - n + 1 = 0 := by omega
  rw [hzero, zero_mul, add_zero]
  exact Int.ofNat_le.mpr (h.trans (Nat.le_max_right ..))

theorem Counts.mono (h : Counts period since n left next clock) (hleft : left ≤ left')
    (hmax : max next clock ≤ max next' clock') : Counts period since n left' next' clock' := by
  have hfactor : n - left' + 1 ≤ n - left + 1 := by omega
  have hless := Int.mul_le_mul_of_nonneg_right hfactor (Int.natCast_nonneg period)
  have hbound : (since : Int) + (n - left + 1) * period ≤ (max next clock : Nat) := h
  have hcast : ((max next clock : Nat) : Int) ≤ (max next' clock' : Nat) := Int.ofNat_le.mpr hmax
  unfold Counts
  omega

/-- A release spends at most one of what is left. -/
theorem Counts.release (h : Counts period since n left next clock)
    (hnow : max next clock ≤ now) (hleft : left ≤ left' + 1) (hafter : now ≤ clock') :
    Counts period since n left' (clock' + period) clock' := by
  have hfactor : n - left' + 1 ≤ n - left + 1 + 1 := by omega
  have hless := Int.mul_le_mul_of_nonneg_right hfactor (Int.natCast_nonneg period)
  rw [Int.add_mul (n - left + 1), one_mul] at hless
  have hbound : (since : Int) + (n - left + 1) * period ≤ (max next clock : Nat) := h
  have hcast : ((max next clock : Nat) : Int) ≤ clock' := Int.ofNat_le.mpr (hnow.trans hafter)
  have hmax : ((clock' + period : Nat) : Int) ≤ (max (clock' + period) clock' : Nat) :=
    Int.ofNat_le.mpr (Nat.le_max_left ..)
  rw [Nat.cast_add] at hmax
  unfold Counts
  omega

/-- The release that ends the countdown comes `n` periods after its begin. -/
theorem Counts.due (h : Counts period since n left next clock) (hnow : max next clock ≤ now)
    (hleft : left ≤ 1) : since + n * period ≤ now := by
  have hfactor : n ≤ n - left + 1 := by omega
  have hless := Int.mul_le_mul_of_nonneg_right hfactor (Int.natCast_nonneg period)
  have hbound : (since : Int) + (n - left + 1) * period ≤ (max next clock : Nat) := h
  have hcast : ((max next clock : Nat) : Int) ≤ now := Int.ofNat_le.mpr hnow
  omega

end TrafficLight.FixedDelay
