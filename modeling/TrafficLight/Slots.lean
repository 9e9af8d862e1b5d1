import Mathlib.Algebra.BigOperators.Group.Finset.Piecewise
import Mathlib.Algebra.Order.BigOperators.Group.Finset
import Mathlib.Data.Fintype.Basic
import Mathlib.Data.List.FinRange
import Mathlib.Data.Multiset.Filter
import Mathlib.Tactic.Abel

/-!
A table of a fixed number of slots. A value is entered in the lowest free slot,
values are removed by a predicate, and a sweep visits the slots in order. What
the table holds is its bag of values; most invariants speak about the bag only
and do not see which slot a value went to.
-/

namespace TrafficLight.Slots

variable {n : Nat} {α : Type*}

/-- A table of `n` slots, each free or holding a value. -/
abbrev Table (n : Nat) (α : Type*) : Type _ := Fin n → Option α

/-- The table with every slot free. -/
def vacant : Table n α := fun _ => none

/-- The lowest free slot. -/
def firstFree (table : Table n α) : Option (Fin n) :=
  (List.finRange n).find? fun k => (table k).isNone

/-- The table with a slot overwritten. -/
def setSlot (table : Table n α) (k : Fin n) (value : Option α) : Table n α :=
  Function.update table k value

/-- Enters a value in the lowest free slot. -/
def push (table : Table n α) (a : α) : Option (Table n α) :=
  (firstFree table).map fun k => setSlot table k (some a)

/-- Frees the slots whose value satisfies the predicate. -/
def remove (p : α → Bool) (table : Table n α) : Table n α :=
  fun k => (table k).filter fun a => ! p a

/-- The number of free slots. -/
def freeSlots (table : Table n α) : Nat :=
  (Finset.univ.filter fun k => (table k).isNone).card

/-- Visits the slots from the lowest to the highest. -/
def sweep {S : Type*} (visit : S → Fin n → S) (s : S) : S :=
  (List.finRange n).foldl visit s

/-- The value of a slot, if any. -/
def held : Option α → Multiset α
  | none => 0
  | some a => {a}

/-- The values in the table. -/
def bag (table : Table n α) : Multiset α := ∑ k, held (table k)

theorem firstFree_free {table : Table n α} {k : Fin n} (h : firstFree table = some k) :
    table k = none := by
  have hfound := List.find?_some h
  simpa using hfound

theorem firstFree_eq_none {table : Table n α} :
    firstFree table = none ↔ ∀ k, table k ≠ none := by
  simp [firstFree, List.find?_eq_none]

theorem taken_of_lt_firstFree {table : Table n α} {j k : Fin n}
    (h : firstFree table = some k) (hlt : j < k) : table j ≠ none := by
  obtain ⟨-, i, hi, hk, htaken⟩ := List.find?_eq_some_iff_getElem.mp h
  have hindex : i = k := by
    rw [← hk, List.getElem_finRange]
    rfl
  have hj := htaken j (by omega)
  simpa [Option.isSome_iff_ne_none] using hj

theorem mem_held {a : α} {value : Option α} : a ∈ held value ↔ value = some a := by
  cases value <;> simp [held, eq_comm]

theorem mem_bag {table : Table n α} {a : α} : a ∈ bag table ↔ ∃ k, table k = some a := by
  simp [bag, Multiset.mem_sum, mem_held]

theorem bag_setSlot (table : Table n α) (k : Fin n) (value : Option α) :
    bag (setSlot table k value) + held (table k) = held value + bag table := by
  have hnew : bag (setSlot table k value) =
      held value + ∑ j ∈ Finset.univ \ {k}, held (table j) := by
    rw [← Finset.sum_update_of_mem (Finset.mem_univ k) (fun j => held (table j))]
    apply Finset.sum_congr rfl
    intro j _
    exact Function.apply_update (fun _ => held) table k value j
  have hold : bag table = held (table k) + ∑ j ∈ Finset.univ \ {k}, held (table j) := by
    rw [← Finset.sum_update_of_mem (Finset.mem_univ k) (fun j => held (table j)),
      Function.update_eq_self k (fun j => held (table j))]
    rfl
  rw [hnew, hold]
  abel

theorem bag_fill {table : Table n α} {k : Fin n} (h : table k = none) (a : α) :
    bag (setSlot table k (some a)) = a ::ₘ bag table := by
  have hset := bag_setSlot table k (some a)
  simpa [h, held] using hset

theorem bag_free {table : Table n α} {k : Fin n} {a : α} (h : table k = some a) :
    a ::ₘ bag (setSlot table k none) = bag table := by
  have hset := bag_setSlot table k none
  rw [h] at hset
  simpa [held, add_comm] using hset

theorem setSlot_self {table : Table n α} {k : Fin n} {value : Option α}
    (h : table k = value) : setSlot table k value = table := by
  rw [setSlot, ← h]
  exact Function.update_eq_self k table

theorem bag_remove (p : α → Bool) (table : Table n α) :
    bag (remove p table) = (bag table).filter fun a => p a = false := by
  have hadd : ∀ slots : Finset (Fin n), (∑ k ∈ slots, held (table k)).filter (p · = false) =
      ∑ k ∈ slots, (held (table k)).filter (p · = false) := by
    intro slots
    induction slots using Finset.induction with
    | empty => rfl
    | insert k slots hk ih =>
        rw [Finset.sum_insert hk, Finset.sum_insert hk, Multiset.filter_add, ih]
  rw [bag, bag, hadd]
  apply Finset.sum_congr rfl
  intro k _
  cases hk : table k with
  | none => rw [remove, hk]; rfl
  | some a =>
      rw [remove, hk, Option.filter_some]
      by_cases hp : p a <;> simp [hp, held, Multiset.filter_singleton]

@[simp] theorem bag_vacant : bag (vacant : Table n α) = 0 := by
  apply Multiset.eq_zero_of_forall_notMem
  intro a hmem
  obtain ⟨k, hk⟩ := mem_bag.mp hmem
  cases hk

theorem card_bag (table : Table n α) :
    Multiset.card (bag table) + freeSlots table = n := by
  have hcard : Multiset.card (bag table) = ∑ k, if (table k).isNone then 0 else 1 := by
    rw [bag, Multiset.card_sum]
    apply Finset.sum_congr rfl
    intro k _
    cases table k <;> rfl
  have hfree : freeSlots table = ∑ k, if (table k).isNone then 1 else 0 := by
    rw [freeSlots, Finset.card_filter]
  rw [hcard, hfree, ← Finset.sum_add_distrib]
  calc ∑ k, ((if (table k).isNone then 0 else 1) + if (table k).isNone then 1 else 0) =
        ∑ _k : Fin n, 1 := Finset.sum_congr rfl fun k _ => by split <;> rfl
    _ = n := by simp

theorem push_isSome {table : Table n α} {a : α} (h : Multiset.card (bag table) < n) :
    ∃ k, firstFree table = some k ∧ push table a = some (setSlot table k (some a)) := by
  cases hfree : firstFree table with
  | some k => exact ⟨k, rfl, by rw [push, hfree]; rfl⟩
  | none =>
      have hzero : freeSlots table = 0 := by
        rw [freeSlots, Finset.card_eq_zero, Finset.filter_eq_empty_iff]
        intro k _
        simpa using firstFree_eq_none.mp hfree k
      have hcard := card_bag table
      omega

theorem bag_push {table table' : Table n α} {a : α} (h : push table a = some table') :
    bag table' = a ::ₘ bag table := by
  obtain ⟨k, hfree, rfl⟩ := Option.map_eq_some_iff.mp h
  exact bag_fill (firstFree_free hfree) a

theorem push_taken {table table' : Table n α} {a b : α} {k : Fin n}
    (h : push table a = some table') (hk : table k = some b) : table' k = some b := by
  obtain ⟨j, hfree, rfl⟩ := Option.map_eq_some_iff.mp h
  have hne : k ≠ j := by
    rintro rfl
    rw [firstFree_free hfree] at hk
    cases hk
  rw [setSlot, Function.update_of_ne hne, hk]

theorem push_slot {table table' : Table n α} {a b : α} {j : Fin n}
    (h : push table a = some table') (hj : table' j = some b) : table j = some b ∨ b = a := by
  obtain ⟨k, hfree, rfl⟩ := Option.map_eq_some_iff.mp h
  by_cases hjk : j = k
  · rw [hjk, setSlot, Function.update_self] at hj
    exact .inr (Option.some.inj hj).symm
  · rw [setSlot, Function.update_of_ne hjk] at hj
    exact .inl hj

section Keys

variable {κ : Type*} [Fintype κ] [DecidableEq κ]

theorem countP_keyed (key : α → Option κ) (m : Multiset α) :
    m.countP (fun a => (key a).isSome) = ∑ x, m.countP (fun a => key a = some x) := by
  induction m using Multiset.induction with
  | empty => simp
  | cons a m ih =>
      simp only [Multiset.countP_cons, ih, Finset.sum_add_distrib]
      congr 1
      cases key a with
      | none => simp
      | some y => simp [Finset.sum_ite_eq]

/-- A key without a value leaves room for one more. -/
theorem countP_keyed_lt {key : α → Option κ} {m : Multiset α} {x : κ}
    (h : ∀ x, m.countP (fun a => key a = some x) ≤ 1)
    (hx : m.countP (fun a => key a = some x) = 0) :
    m.countP (fun a => (key a).isSome) < Fintype.card κ := by
  rw [countP_keyed]
  calc ∑ x, m.countP (fun a => key a = some x) < ∑ _x : κ, 1 :=
        Finset.sum_lt_sum (fun x _ => h x) ⟨x, Finset.mem_univ x, by rw [hx]; exact one_pos⟩
    _ = Fintype.card κ := by simp

end Keys

theorem sweep_invariant {S : Type*} {visit : S → Fin n → S} {I : S → Prop}
    (hvisit : ∀ s k, I s → I (visit s k)) {s : S} (hs : I s) : I (sweep visit s) := by
  unfold sweep
  generalize List.finRange n = slots
  induction slots generalizing s with
  | nil => exact hs
  | cons k slots ih => exact ih (hvisit s k hs)

theorem sweep_upto {S : Type*} {visit : S → Fin n → S} {I : Nat → S → Prop}
    (hvisit : ∀ s (k : Fin n), I k s → I (k + 1) (visit s k)) {s : S} (hs : I 0 s) :
    I n (sweep visit s) := by
  have hprefix : ∀ m ≤ n, I m (((List.finRange n).take m).foldl visit s) := by
    intro m hm
    induction m with
    | zero => exact hs
    | succ m ih =>
        have hlt : m < (List.finRange n).length := by rw [List.length_finRange]; exact hm
        rw [List.take_succ_eq_append_getElem hlt, List.foldl_append]
        have hk : (List.finRange n)[m] = ⟨m, hm⟩ := by simp
        rw [hk]
        exact hvisit _ ⟨m, hm⟩ (ih (by omega))
  have hall := hprefix n le_rfl
  rwa [List.take_of_length_le (by simp)] at hall

/-- The values that satisfy the predicate, in the order of their slots. -/
def row (p : α → Bool) (table : Table n α) : List α :=
  (List.finRange n).filterMap fun k => (table k).filter p

section Rows

variable {p : α → Bool} {table : Table n α}

theorem mem_row {a : α} : a ∈ row p table ↔ (∃ k, table k = some a) ∧ p a = true := by
  simp only [row, List.mem_filterMap, List.mem_finRange, true_and, Option.filter_eq_some_iff]
  constructor
  · rintro ⟨k, hk, hp⟩
    exact ⟨⟨k, hk⟩, hp⟩
  · rintro ⟨⟨k, hk⟩, hp⟩
    exact ⟨k, hk, hp⟩

theorem row_eq_nil : row p table = [] ↔ ∀ a ∈ bag table, p a = false := by
  rw [List.eq_nil_iff_forall_not_mem]
  constructor
  · intro h a ha
    by_contra hp
    exact h a (mem_row.mpr ⟨mem_bag.mp ha, by simpa using hp⟩)
  · intro h a ha
    obtain ⟨hk, hp⟩ := mem_row.mp ha
    rw [h a (mem_bag.mpr hk)] at hp
    cases hp

/-- A row around one slot: what stands before it comes from lower slots, what
stands after it from higher ones. -/
theorem row_split (p : α → Bool) (table : Table n α) (k : Fin n) :
    ∃ before after, (∀ value, row p (setSlot table k value) =
        before ++ ((value.filter p).toList ++ after)) ∧
      (∀ a ∈ before, ∃ j < k, table j = some a) ∧
      (∀ a ∈ after, ∃ j, k < j ∧ table j = some a) := by
  obtain ⟨low, high, hsplit⟩ := List.append_of_mem (List.mem_finRange k)
  have hsorted : (low ++ k :: high).Pairwise (· < ·) := hsplit ▸ List.pairwise_lt_finRange n
  rw [List.pairwise_append, List.pairwise_cons] at hsorted
  obtain ⟨-, ⟨hhigh, -⟩, hlow⟩ := hsorted
  have hother : ∀ value, ∀ slots : List (Fin n), (∀ j ∈ slots, j ≠ k) →
      (slots.filterMap fun j => (setSlot table k value j).filter p) =
        slots.filterMap fun j => (table j).filter p := by
    intro value slots hne
    apply List.filterMap_congr
    intro j hj
    rw [setSlot, Function.update_of_ne (hne j hj)]
  refine ⟨low.filterMap fun j => (table j).filter p, high.filterMap fun j => (table j).filter p,
    ?_, ?_, ?_⟩
  · intro value
    rw [row, hsplit, List.filterMap_append, List.filterMap_cons,
      hother value low fun j hj => (hlow j hj k List.mem_cons_self).ne,
      hother value high fun j hj => (hhigh j hj).ne']
    congr 1
    rw [show setSlot table k value k = value from Function.update_self _ _ _]
    cases value.filter p <;> rfl
  · intro a ha
    obtain ⟨j, hj, hsome⟩ := List.mem_filterMap.mp ha
    exact ⟨j, hlow j hj k List.mem_cons_self, (Option.filter_eq_some_iff.mp hsome).1⟩
  · intro a ha
    obtain ⟨j, hj, hsome⟩ := List.mem_filterMap.mp ha
    exact ⟨j, hhigh j hj, (Option.filter_eq_some_iff.mp hsome).1⟩

theorem row_free {k : Fin n} {a : α} (hk : table k = some a) (hp : p a = true) :
    ∃ before after, row p table = before ++ a :: after ∧
      row p (setSlot table k none) = before ++ after ∧
      ∀ b ∈ before, ∃ j < k, table j = some b := by
  obtain ⟨before, after, hrow, hbefore, -⟩ := row_split p table k
  refine ⟨before, after, ?_, ?_, hbefore⟩
  · have hself := hrow (some a)
    rw [setSlot_self hk] at hself
    simpa [Option.filter_some, hp] using hself
  · simpa using hrow none

theorem row_setSlot_other {k : Fin n} {value : Option α}
    (hold : (table k).filter p = none) (hnew : value.filter p = none) :
    row p (setSlot table k value) = row p table := by
  obtain ⟨before, after, hrow, -⟩ := row_split p table k
  have hself := hrow (table k)
  rw [setSlot_self rfl, hold] at hself
  rw [hrow, hself, hnew]

theorem row_remove {q : α → Bool} (h : ∀ a, q a = true → p a = false) :
    row p (remove q table) = row p table := by
  apply List.filterMap_congr
  intro k _
  cases hk : table k with
  | none => simp [remove, hk]
  | some a =>
      by_cases hq : q a = true
      · simp [remove, hk, Option.filter_some, hq, h a hq]
      · simp [remove, hk, Option.filter_some, hq]

theorem row_push_other {table' : Table n α} {a : α} (h : push table a = some table')
    (hp : p a = false) : row p table' = row p table := by
  obtain ⟨k, hfree, rfl⟩ := Option.map_eq_some_iff.mp h
  apply row_setSlot_other
  · rw [firstFree_free hfree]
    rfl
  · simp [Option.filter_some, hp]

/-- All values of the row stand below the lowest free slot. -/
def Packed (p : α → Bool) (table : Table n α) : Prop :=
  ∀ j a k, table j = some a → p a = true → firstFree table = some k → j < k

theorem packed_push {table' : Table n α} {a : α} (h : push table a = some table')
    (hpacked : Packed p table) :
    row p table' = row p table ++ ((some a).filter p).toList ∧ Packed p table' := by
  obtain ⟨k, hfree, rfl⟩ := Option.map_eq_some_iff.mp h
  constructor
  · obtain ⟨before, after, hrow, -, hafter⟩ := row_split p table k
    have hself := hrow none
    rw [setSlot_self (firstFree_free hfree)] at hself
    have hnil : after = [] := by
      rw [List.eq_nil_iff_forall_not_mem]
      intro b hb
      obtain ⟨j, hkj, hj⟩ := hafter b hb
      have hmem : b ∈ row p table := by
        rw [hself]
        simp [hb]
      exact absurd (hpacked j b k hj (mem_row.mp hmem).2 hfree) hkj.not_gt
    rw [hrow, hself, hnil]
    simp
  · intro j b k' hj hb hfree'
    -- the next free slot lies above the one just taken
    have hnext : k < k' := by
      by_contra hle
      rcases lt_or_eq_of_le (not_lt.mp hle) with hlt | heq
      · have htaken := taken_of_lt_firstFree hfree hlt
        have hk' := firstFree_free hfree'
        rw [setSlot, Function.update_of_ne hlt.ne] at hk'
        exact htaken hk'
      · have hk' := firstFree_free hfree'
        rw [heq, setSlot, Function.update_self] at hk'
        cases hk'
    by_cases hjk : j = k
    · rw [hjk]
      exact hnext
    · rw [setSlot, Function.update_of_ne hjk] at hj
      exact (hpacked j b k hj hb hfree).trans hnext

end Rows

end TrafficLight.Slots
