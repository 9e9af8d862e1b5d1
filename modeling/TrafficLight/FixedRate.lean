import Mathlib.Data.List.Perm.Subperm
import Mathlib.Data.List.Range
import Mathlib.Tactic.Common

/-!
Tasks released at a fixed rate. The releases lie on a grid of periods from the
start of the task; a task that is late skips the releases it has missed instead
of making up for them.
-/

namespace TrafficLight.FixedRate

/-- The first point of the grid after `now`, when the point `next` is due. -/
def following (period next now : Nat) : Nat := next + ((now - next) / period + 1) * period

/-- The times of the releases, newest first, and the point of the grid that
comes next. -/
structure OnGrid (period start next : Nat) (times : List Nat) : Prop where
  aligned : ∃ k, next = start + k * period
  past : ∀ time ∈ times, start ≤ time ∧ time < next
  soon : ∀ time ∈ times.head?, next ≤ time + period
  spaced : times.Pairwise fun later earlier =>
    (earlier - start) / period < (later - start) / period

variable {period start next now : Nat} {times : List Nat}

theorem onGrid_start (period start : Nat) : OnGrid period start start [] := by
  constructor
  · exact ⟨0, by omega⟩
  · exact fun _ h => absurd h List.not_mem_nil
  · exact fun _ h => absurd h (by simp)
  · exact List.Pairwise.nil

/-- The next release is after `now`, by no more than a period. -/
theorem following_bounds (hperiod : 0 < period) (hdue : next ≤ now) :
    now < following period next now ∧ following period next now ≤ now + period := by
  have hdivmod := Nat.div_add_mod (now - next) period
  have hlt := Nat.mod_lt (now - next) hperiod
  unfold following
  rw [Nat.add_mul, Nat.one_mul, Nat.mul_comm]
  generalize period * ((now - next) / period) = missed at hdivmod ⊢
  omega

theorem OnGrid.release (h : OnGrid period start next times) (hperiod : 0 < period)
    (hdue : next ≤ now) : OnGrid period start (following period next now) (now :: times) := by
  obtain ⟨k, hk⟩ := h.aligned
  obtain ⟨hafter, hsoon⟩ := following_bounds hperiod hdue
  constructor
  · refine ⟨k + ((now - next) / period + 1), ?_⟩
    rw [following, Nat.add_mul k, ← Nat.add_assoc, ← hk]
  · intro time htime
    rcases List.mem_cons.mp htime with rfl | hold
    · exact ⟨by omega, hafter⟩
    · obtain ⟨hstart, hlt⟩ := h.past time hold
      exact ⟨hstart, by omega⟩
  · intro time htime
    rw [List.head?_cons, Option.mem_some_iff] at htime
    exact htime ▸ hsoon
  · refine List.Pairwise.cons ?_ h.spaced
    intro time htime
    obtain ⟨hstart, hlt⟩ := h.past time htime
    have hbefore : (time - start) / period < k :=
      Nat.div_lt_of_lt_mul (by rw [Nat.mul_comm]; omega)
    have hnow : k ≤ (now - start) / period :=
      (Nat.le_div_iff_mul_le hperiod).mpr (by omega)
    exact Nat.lt_of_lt_of_le hbefore hnow

/-- A window of some periods holds at most one release more than periods. -/
theorem OnGrid.window (h : OnGrid period start next times) (hperiod : 0 < period)
    (since periods : Nat) :
    (times.filter fun time => since ≤ time ∧ time < since + periods * period).length ≤
      periods + 1 := by
  have hnodup : ((times.filter fun time => since ≤ time ∧ time < since + periods * period).map
      fun time => (time - start) / period).Nodup := by
    rw [List.Nodup, List.pairwise_map]
    exact (h.spaced.filter _).imp fun hcells heq => absurd hcells (by omega)
  have hsubset : ((times.filter fun time => since ≤ time ∧ time < since + periods * period).map
      fun time => (time - start) / period) ⊆
        List.range' ((since - start) / period) (periods + 1) := by
    intro cell hcell
    obtain ⟨time, htime, rfl⟩ := List.mem_map.mp hcell
    obtain ⟨hmem, hinside⟩ := List.mem_filter.mp htime
    obtain ⟨hsince, hbefore⟩ := of_decide_eq_true hinside
    have hstart := (h.past time hmem).1
    have hlow : (since - start) / period ≤ (time - start) / period :=
      Nat.div_le_div_right (by omega)
    have hhigh : (time - start) / period ≤ (since - start) / period + periods := by
      rw [← Nat.add_mul_div_right _ _ hperiod]
      exact Nat.div_le_div_right (by omega)
    rw [List.mem_range'_1]
    omega
  have hlength := (hnodup.subperm hsubset).length_le
  rwa [List.length_map, List.length_range'] at hlength

end TrafficLight.FixedRate
