import Mathlib.Data.List.FinRange
import Mathlib.Data.Nat.ModEq
import Mathlib.Logic.Function.Basic
import Mathlib.Tactic.Common

/-!
A ring that keeps the last entries written to it, each new entry over the
oldest one, and the choice of an entry by the least key above a mark.
-/

namespace TrafficLight.HistoryRing

/-- The slots and the number of the slot that is written next. -/
structure History (n : Nat) (α : Type*) where
  slots : Fin n → α
  next : Nat

variable {n : Nat} [NeZero n] {α : Type*}

namespace History

/-- Every slot has the same contents, and the first is written next. -/
def blank (a : α) : History n α := { slots := fun _ => a, next := 0 }

/-- The slot that was written last. -/
def newest (h : History n α) : α := h.slots (Fin.ofNat n (h.next + n - 1))

def record (h : History n α) (a : α) : History n α :=
  { slots := Function.update h.slots (Fin.ofNat n h.next) a
    next := (h.next + 1) % n }

/-- The ring after the given entries, the oldest first, over blank slots. -/
structure Keeps (h : History n α) (a : α) (entries : List α) : Prop where
  next : h.next = entries.length % n
  held : ∀ k (hk : k < entries.length), entries.length ≤ k + n →
    h.slots (Fin.ofNat n k) = entries[k]
  blank : ∀ i : Fin n, entries.length ≤ i.val → h.slots i = a

theorem keeps_blank (a : α) : (blank a : History n α).Keeps a [] :=
  ⟨(Nat.zero_mod n).symm, fun _ hk => absurd hk (Nat.not_lt_zero _), fun _ _ => rfl⟩

theorem slot_ne {j k : Nat} (hlt : k < j) (hround : j < k + n) :
    Fin.ofNat n k ≠ Fin.ofNat n j := by
  intro h
  have hmod : k ≡ j [MOD n] := congrArg Fin.val h
  have hdvd : n ∣ j - k := (Nat.modEq_iff_dvd' hlt.le).mp hmod
  exact absurd (Nat.le_of_dvd (by omega) hdvd) (by omega)

variable {h : History n α} {a : α} {entries : List α}

theorem Keeps.record (hkeeps : h.Keeps a entries) (b : α) :
    (h.record b).Keeps a (entries ++ [b]) := by
  have hpos : 0 < n := Nat.pos_of_ne_zero (NeZero.ne n)
  have hslot : Fin.ofNat n h.next = Fin.ofNat n entries.length := by
    apply Fin.ext
    show h.next % n = entries.length % n
    rw [hkeeps.next, Nat.mod_mod]
  constructor
  · show (h.next + 1) % n = (entries ++ [b]).length % n
    rw [hkeeps.next, Nat.mod_add_mod, List.length_append, List.length_singleton]
  · intro k hk hrecent
    rw [List.length_append, List.length_singleton] at hk hrecent
    show Function.update h.slots (Fin.ofNat n h.next) b (Fin.ofNat n k) = _
    rw [hslot]
    by_cases hlast : k = entries.length
    · subst hlast
      rw [Function.update_self, List.getElem_concat_length rfl]
    · have hold : k < entries.length := by omega
      rw [Function.update_of_ne (slot_ne hold (by omega)), List.getElem_append_left hold]
      exact hkeeps.held k hold (by omega)
  · intro i hi
    rw [List.length_append, List.length_singleton] at hi
    have hne : i ≠ Fin.ofNat n entries.length := by
      intro heq
      have hval : i.val = entries.length % n := congrArg Fin.val heq
      rw [Nat.mod_eq_of_lt (by omega)] at hval
      omega
    show Function.update h.slots (Fin.ofNat n h.next) b i = a
    rw [hslot, Function.update_of_ne hne]
    exact hkeeps.blank i (by omega)

theorem newest_record (h : History n α) (b : α) : (h.record b).newest = b := by
  have hpos : 0 < n := Nat.pos_of_ne_zero (NeZero.ne n)
  have hslot : Fin.ofNat n ((h.next + 1) % n + n - 1) = Fin.ofNat n h.next := by
    apply Fin.ext
    show ((h.next + 1) % n + n - 1) % n = h.next % n
    have hmod : (h.next + 1) % n + n - 1 ≡ h.next [MOD n] := by
      apply Nat.ModEq.add_right_cancel' 1
      rw [Nat.sub_add_cancel (by omega)]
      show ((h.next + 1) % n + n) % n = (h.next + 1) % n
      rw [Nat.add_mod_right, Nat.mod_mod]
    exact hmod
  show Function.update h.slots _ b (Fin.ofNat n ((h.next + 1) % n + n - 1)) = b
  rw [hslot, Function.update_self]

theorem Keeps.slots_eq (hkeeps : h.Keeps a entries) (i : Fin n) :
    h.slots i = a ∨ ∃ k, ∃ hk : k < entries.length, entries.length ≤ k + n ∧
      h.slots i = entries[k] := by
  by_cases hi : entries.length ≤ i.val
  · exact Or.inl (hkeeps.blank i hi)
  · -- the last number below the length that belongs to the slot
    have hlt := i.isLt
    refine Or.inr ⟨entries.length - 1 - (entries.length - 1 - i.val) % n, ?_, ?_, ?_⟩
    · omega
    · have := Nat.mod_lt (entries.length - 1 - i.val) (by omega : 0 < n)
      omega
    · rw [← hkeeps.held _ (by omega) ?_]
      · congr 1
        apply Fin.ext
        show i.val = (entries.length - 1 - (entries.length - 1 - i.val) % n) % n
        have hmod : (entries.length - 1 - (entries.length - 1 - i.val) % n) ≡ i.val [MOD n] := by
          have hle := Nat.mod_le (entries.length - 1 - i.val) n
          apply Nat.ModEq.add_right_cancel (Nat.mod_modEq (entries.length - 1 - i.val) n)
          rw [Nat.sub_add_cancel (by omega), Nat.add_sub_cancel' (by omega)]
        exact (Nat.mod_eq_of_lt hlt).symm.trans hmod.symm
      · have := Nat.mod_lt (entries.length - 1 - i.val) (by omega : 0 < n)
        omega

end History

/-- The first candidate of the least key above the mark, if that key is below the
key of `first`. -/
def leastAbove (key : α → Nat) (mark : Nat) (first : α) (candidates : List α) : α :=
  candidates.foldl (fun selected candidate =>
    if mark < key candidate ∧ key candidate < key selected then candidate else selected) first

variable {key : α → Nat} {mark : Nat} {first : α} {candidates : List α}

theorem leastAbove_cons (candidate : α) :
    leastAbove key mark first (candidate :: candidates) =
      leastAbove key mark (if mark < key candidate ∧ key candidate < key first then candidate
        else first) candidates := rfl

theorem leastAbove_cases : leastAbove key mark first candidates = first ∨
    leastAbove key mark first candidates ∈ candidates ∧
      mark < key (leastAbove key mark first candidates) := by
  induction candidates generalizing first with
  | nil => exact Or.inl rfl
  | cons candidate candidates ih =>
      rw [leastAbove_cons]
      split
      · rename_i hcandidate
        rcases @ih candidate with heq | ⟨hmem, hmark⟩
        · rw [heq]
          exact Or.inr ⟨List.mem_cons_self, hcandidate.1⟩
        · exact Or.inr ⟨List.mem_cons_of_mem _ hmem, hmark⟩
      · exact (@ih first).imp_right (And.imp_left (List.mem_cons_of_mem _))

theorem leastAbove_le_first : key (leastAbove key mark first candidates) ≤ key first := by
  induction candidates generalizing first with
  | nil => exact le_rfl
  | cons candidate candidates ih =>
      rw [leastAbove_cons]
      refine ih.trans ?_
      split
      · rename_i hcandidate
        exact hcandidate.2.le
      · exact le_rfl

theorem leastAbove_le {candidate : α} (hmem : candidate ∈ candidates)
    (hmark : mark < key candidate) :
    key (leastAbove key mark first candidates) ≤ key candidate := by
  induction candidates generalizing first with
  | nil => cases hmem
  | cons other candidates ih =>
      rw [leastAbove_cons]
      rcases List.mem_cons.mp hmem with rfl | hmem
      · refine leastAbove_le_first.trans ?_
        split
        · exact le_rfl
        · rename_i hother
          exact not_lt.mp fun hlt => hother ⟨hmark, hlt⟩
      · exact ih hmem

end TrafficLight.HistoryRing
