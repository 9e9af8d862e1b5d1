import Mathlib.Data.List.GetD
import Mathlib.Data.List.Perm.Basic
import Mathlib.Data.List.Range
import Mathlib.Data.Nat.ModEq
import Mathlib.Logic.Function.Basic
import Mathlib.Tactic.Common

/-!
Ring queues: an array, the position of its first entry and the number of
entries, with positions taken modulo the size. The operations are written on
the array; each is the expected operation on the list of entries in order.
-/

namespace TrafficLight.RingQueue

/-- The head is any number; it is reduced modulo the size where it is used. -/
structure Ring (n : Nat) (α : Type) where
  slots : Fin n → α
  head : Nat
  count : Nat

variable {n : Nat} [NeZero n] {α : Type}

namespace Ring

/-- The entry at a distance from the head. -/
def get (r : Ring n α) (i : Nat) : α := r.slots (Fin.ofNat n (r.head + i))

def set (r : Ring n α) (i : Nat) (x : α) : Ring n α :=
  { r with slots := Function.update r.slots (Fin.ofNat n (r.head + i)) x }

/-- The entries in order. -/
def view (r : Ring n α) : List α := (List.range r.count).map r.get

def append (r : Ring n α) (x : α) : Ring n α := { r.set r.count x with count := r.count + 1 }

/-- Drops the first entry. -/
def pop (r : Ring n α) : Ring n α := { r with head := r.head + 1, count := r.count - 1 }

/-- Moves the entries behind a position forward by one. -/
def shift : Nat → Nat → Ring n α → Ring n α
  | 0, _, r => r
  | moves + 1, i, r => shift moves (i + 1) (r.set i (r.get (i + 1)))

/-- Closes the gap at a position. -/
def eraseAt (r : Ring n α) (i : Nat) : Ring n α :=
  { shift (r.count - 1 - i) i r with count := r.count - 1 }

/-- The position of the first entry with a property. -/
def position (p : α → Bool) (r : Ring n α) : Option Nat :=
  (List.range r.count).find? fun i => p (r.get i)

/-- One step of a compaction: an entry is dropped, or written behind those kept so far. -/
def keepStep (keep : α → Bool) (s : Ring n α × Nat) (i : Nat) : Ring n α × Nat :=
  if keep (s.1.get i) then (s.1.set s.2 (s.1.get i), s.2 + 1) else s

/-- Compaction in place. -/
def compact (keep : α → Bool) (r : Ring n α) : Ring n α :=
  let (kept, count) := (List.range r.count).foldl (keepStep keep) (r, 0)
  { kept with count }

theorem index_inj {head i j : Nat} (hi : i < n) (hj : j < n)
    (h : Fin.ofNat n (head + i) = Fin.ofNat n (head + j)) : i = j := by
  have hmod := congrArg Fin.val h
  simp only [Fin.ofNat] at hmod
  have hcancel : i % n = j % n := Nat.ModEq.add_left_cancel' head hmod
  rwa [Nat.mod_eq_of_lt hi, Nat.mod_eq_of_lt hj] at hcancel

@[simp] theorem set_head (r : Ring n α) (i : Nat) (x : α) : (r.set i x).head = r.head := rfl

@[simp] theorem set_count (r : Ring n α) (i : Nat) (x : α) : (r.set i x).count = r.count := rfl

@[simp] theorem get_set_self (r : Ring n α) (i : Nat) (x : α) : (r.set i x).get i = x :=
  Function.update_self ..

theorem get_set_of_ne {r : Ring n α} {i j : Nat} {x : α} (hi : i < n) (hj : j < n)
    (h : j ≠ i) : (r.set i x).get j = r.get j :=
  Function.update_of_ne (fun heq => h (index_inj hj hi heq)) ..

theorem set_get (r : Ring n α) (i : Nat) : r.set i (r.get i) = r := by
  simp [set, get]

theorem length_view (r : Ring n α) : r.view.length = r.count := by
  simp [view]

theorem getElem_view {r : Ring n α} {i : Nat} (h : i < r.view.length) : r.view[i] = r.get i := by
  simp [view]

theorem view_append {r : Ring n α} (x : α) (h : r.count < n) :
    (r.append x).view = r.view ++ [x] := by
  have hold : ∀ i ∈ List.range r.count, (r.append x).get i = r.get i := by
    intro i hi
    have hlt := List.mem_range.mp hi
    show (r.set r.count x).get i = r.get i
    exact get_set_of_ne h (by omega) (by omega)
  show (List.range (r.count + 1)).map (r.append x).get = _
  rw [List.range_succ, List.map_append, List.map_congr_left hold]
  congr 1
  exact congrArg (fun y => [y]) (get_set_self r r.count x)

@[simp] theorem append_count (r : Ring n α) (x : α) : (r.append x).count = r.count + 1 := rfl

theorem get_pop (r : Ring n α) (i : Nat) : r.pop.get i = r.get (i + 1) := by
  unfold get pop
  rw [Nat.add_assoc, Nat.add_comm 1 i]

theorem view_pop {r : Ring n α} (h : 0 < r.count) : r.view = r.get 0 :: r.pop.view := by
  obtain ⟨rest, hrest⟩ : ∃ rest, r.count = rest + 1 := ⟨r.count - 1, by omega⟩
  show (List.range r.count).map r.get = r.get 0 :: (List.range (r.count - 1)).map r.pop.get
  rw [hrest, Nat.add_sub_cancel, List.range_succ_eq_map, List.map_cons, List.map_map]
  congr 1
  apply List.map_congr_left
  exact fun i _ => (get_pop r i).symm

@[simp] theorem shift_head (moves i : Nat) (r : Ring n α) : (shift moves i r).head = r.head := by
  induction moves generalizing i r with
  | zero => rfl
  | succ moves ih => exact ih ..

theorem get_shift {moves i k : Nat} {r : Ring n α} (h : i + moves < n) (hk : k < n) :
    (shift moves i r).get k = if i ≤ k ∧ k < i + moves then r.get (k + 1) else r.get k := by
  induction moves generalizing i r with
  | zero =>
      rw [if_neg (by omega)]
      rfl
  | succ moves ih =>
      rw [shift, ih (by omega)]
      by_cases hki : k = i
      · rw [if_neg (by omega), if_pos (by omega), hki, get_set_self]
      · by_cases hin : i + 1 ≤ k ∧ k < i + 1 + moves
        · rw [if_pos hin, if_pos (by omega), get_set_of_ne (by omega) (by omega) (by omega)]
        · rw [if_neg hin, if_neg (by omega), get_set_of_ne (by omega) hk hki]

theorem view_eraseAt {r : Ring n α} {i : Nat} (hi : i < r.count) (hcount : r.count ≤ n) :
    (r.eraseAt i).view = r.view.eraseIdx i := by
  apply List.ext_getElem
  · rw [length_view, List.length_eraseIdx_of_lt (by rwa [length_view]), length_view]
    rfl
  · intro k hk hk'
    rw [length_view] at hk
    have hlt : k < r.count - 1 := hk
    rw [getElem_view, List.getElem_eraseIdx]
    show (shift (r.count - 1 - i) i r).get k = _
    rw [get_shift (by omega) (by omega)]
    by_cases hik : i ≤ k
    · rw [if_pos (by omega), dif_neg (by omega), getElem_view]
    · rw [if_neg (by omega), dif_pos (by omega), getElem_view]

theorem position_some {p : α → Bool} {r : Ring n α} {i : Nat} (h : r.position p = some i) :
    i < r.count ∧ p (r.get i) = true ∧ ∀ j < i, p (r.get j) = false := by
  obtain ⟨hp, as, bs, hsplit, hbefore⟩ := List.find?_eq_some_iff_append.mp h
  have hlength : as.length = i := by
    have hget : (List.range r.count)[as.length]? = some i := by simp [hsplit]
    rw [List.getElem?_range] at hget
    · exact Option.some.inj hget
    · have hlen := congrArg List.length hsplit
      simp at hlen
      omega
  refine ⟨List.mem_range.mp (by rw [hsplit]; simp), hp, ?_⟩
  intro j hj
  have hmem : j ∈ as := by
    have hget : (List.range r.count)[j]? = as[j]? := by
      rw [hsplit, List.getElem?_append_left (by omega)]
    have hlen := congrArg List.length hsplit
    simp at hlen
    rw [List.getElem?_range (by omega)] at hget
    exact List.mem_of_getElem? hget.symm
  simpa using hbefore j hmem

theorem find_view_of_position {p : α → Bool} {r : Ring n α} {i : Nat}
    (h : r.position p = some i) : r.view.find? p = some (r.get i) := by
  obtain ⟨hi, hp, hbefore⟩ := position_some h
  apply List.find?_eq_some_iff_getElem.mpr
  refine ⟨hp, i, by rwa [length_view], getElem_view _, ?_⟩
  intro j hj
  rw [getElem_view, hbefore j hj]
  rfl

/-- Removing at the position found is removing the first entry with the property. -/
theorem view_eraseAt_position {p : α → Bool} {r : Ring n α} {i : Nat} (hcount : r.count ≤ n)
    (h : r.position p = some i) : (r.eraseAt i).view = r.view.eraseP p := by
  obtain ⟨hi, hp, hbefore⟩ := position_some h
  have hindex : r.view.findIdx? p = some i := by
    apply List.findIdx?_eq_some_iff_getElem.mpr
    refine ⟨by rwa [length_view], by rwa [getElem_view], ?_⟩
    intro j hj
    rw [getElem_view, hbefore j hj]
    decide
  rw [view_eraseAt hi hcount, List.eraseP_eq_eraseIdx, hindex]

theorem position_none {p : α → Bool} {r : Ring n α} (h : r.position p = none) :
    ∀ x ∈ r.view, p x = false := by
  intro x hx
  obtain ⟨i, hi, rfl⟩ := List.mem_map.mp hx
  simpa using List.find?_eq_none.mp h i hi

/-- After some steps of a compaction the entries kept so far stand at the front
and those not yet visited are where they were. -/
structure Compacting (keep : α → Bool) (r : Ring n α) (visited : Nat) (s : Ring n α × Nat) :
    Prop where
  head : s.1.head = r.head
  count : s.1.count = r.count
  le : s.2 ≤ visited
  kept : (List.range s.2).map s.1.get = ((List.range visited).map r.get).filter keep
  rest : ∀ i, visited ≤ i → i < n → s.1.get i = r.get i

theorem Compacting.step {keep : α → Bool} {r : Ring n α} {visited : Nat} {s : Ring n α × Nat}
    (h : Compacting keep r visited s) (hvisited : visited < n) :
    Compacting keep r (visited + 1) (keepStep keep s visited) := by
  have hle := h.le
  have hentry := h.rest visited (Nat.le_refl _) hvisited
  have hfilter : ((List.range (visited + 1)).map r.get).filter keep =
      ((List.range visited).map r.get).filter keep ++ [r.get visited].filter keep := by
    rw [List.range_succ, List.map_append, List.filter_append]
    rfl
  unfold keepStep
  rw [hentry]
  split
  · rename_i hkeep
    have hother : ∀ i < n, i ≠ s.2 → (s.1.set s.2 (r.get visited)).get i = s.1.get i :=
      fun i hi hne => get_set_of_ne (by omega) hi hne
    constructor
    · exact h.head
    · exact h.count
    · exact Nat.succ_le_succ hle
    · have hfront : ∀ i ∈ List.range s.2,
          (s.1.set s.2 (r.get visited)).get i = s.1.get i := by
        intro i hi
        have hlt := List.mem_range.mp hi
        exact hother i (by omega) (by omega)
      rw [hfilter, List.range_succ, List.map_append, List.map_congr_left hfront, h.kept]
      simp [hkeep]
    · intro i hi hin
      show (s.1.set s.2 (r.get visited)).get i = r.get i
      rw [hother i hin (by omega)]
      exact h.rest i (by omega) hin
  · rename_i hdrop
    constructor
    · exact h.head
    · exact h.count
    · exact Nat.le_succ_of_le hle
    · rw [hfilter, h.kept]
      simp [hdrop]
    · intro i hi hin
      exact h.rest i (by omega) hin

theorem compacting {keep : α → Bool} {r : Ring n α} {visited : Nat} (h : visited ≤ n) :
    Compacting keep r visited ((List.range visited).foldl (keepStep keep) (r, 0)) := by
  induction visited with
  | zero => exact ⟨rfl, rfl, Nat.le_refl _, rfl, fun _ _ _ => rfl⟩
  | succ visited ih =>
      rw [List.range_succ, List.foldl_append]
      exact (ih (by omega)).step h

theorem view_compact {keep : α → Bool} {r : Ring n α} (h : r.count ≤ n) :
    (r.compact keep).view = r.view.filter keep :=
  (compacting h).kept

theorem compact_eq_self {keep : α → Bool} {r : Ring n α} (h : ∀ x ∈ r.view, keep x = true) :
    r.compact keep = r := by
  have hfold : ∀ visited ≤ r.count,
      (List.range visited).foldl (keepStep keep) (r, 0) = (r, visited) := by
    intro visited
    induction visited with
    | zero => exact fun _ => rfl
    | succ visited ih =>
        intro hvisited
        have hkeep : keep (r.get visited) = true :=
          h _ (List.mem_map.mpr ⟨visited, List.mem_range.mpr hvisited, rfl⟩)
        rw [List.range_succ, List.foldl_append, ih (by omega)]
        show keepStep keep (r, visited) visited = _
        rw [keepStep, if_pos hkeep, set_get]
  unfold compact
  rw [hfold r.count (Nat.le_refl _)]

theorem compact_count_le {keep : α → Bool} {r : Ring n α} (h : r.count ≤ n) :
    (r.compact keep).count ≤ r.count :=
  (compacting h).le

end Ring

/-- The operations on the list of entries. -/
inductive ListOp (α : Type)
  | append (xs : List α)
  | take (p : α → Bool)
  | keep (q : α → Bool)

def listStep (l : List α) : ListOp α → List α
  | .append xs => l ++ xs
  | .take p => l.eraseP p
  | .keep q => l.filter q

/-- What went into a queue and what came out of it. -/
structure Ledger (α : Type) where
  appended : List α
  taken : List α
  dropped : List α

def listRecord (l : List α) (g : Ledger α) : ListOp α → Ledger α
  | .append xs => { g with appended := g.appended ++ xs }
  | .take p => { g with taken := g.taken ++ (l.find? p).toList }
  | .keep q => { g with dropped := g.dropped ++ l.filter fun x => ! q x }

/-- The list and the ledger after a list of operations. -/
def listRun : List α → Ledger α → List (ListOp α) → List α × Ledger α
  | l, g, [] => (l, g)
  | l, g, op :: ops => listRun (listStep l op) (listRecord l g op) ops

/-- The entries of a queue are in the order they went in, and what went in is
still there or came out once. -/
structure Accounted (start l : List α) (g : Ledger α) : Prop where
  ordered : l.Sublist (start ++ g.appended)
  conserved : (start ++ g.appended).Perm (l ++ (g.taken ++ g.dropped))

theorem perm_eraseP (p : α → Bool) (l : List α) :
    l.Perm (l.eraseP p ++ (l.find? p).toList) := by
  induction l with
  | nil => rfl
  | cons x l ih =>
      cases hp : p x with
      | true =>
          rw [List.eraseP_cons_of_pos hp, List.find?_cons_of_pos hp]
          exact (List.perm_append_singleton x l).symm
      | false =>
          rw [List.eraseP_cons_of_neg (by simp [hp]), List.find?_cons_of_neg (by simp [hp])]
          exact ih.cons x

theorem perm_filter (q : α → Bool) (l : List α) :
    l.Perm (l.filter q ++ l.filter fun x => ! q x) :=
  (List.filter_append_perm q l).symm

theorem Accounted.step {start l : List α} {g : Ledger α} (h : Accounted start l g)
    (op : ListOp α) : Accounted start (listStep l op) (listRecord l g op) := by
  obtain ⟨hordered, hconserved⟩ := h
  cases op with
  | append xs =>
      constructor
      · show (l ++ xs).Sublist (start ++ (g.appended ++ xs))
        rw [← List.append_assoc]
        exact hordered.append (List.Sublist.refl xs)
      · show (start ++ (g.appended ++ xs)).Perm (l ++ xs ++ (g.taken ++ g.dropped))
        rw [← List.append_assoc, List.append_assoc l]
        refine (hconserved.append_right xs).trans ?_
        rw [List.append_assoc]
        exact List.Perm.append_left l List.perm_append_comm
  | take p =>
      constructor
      · exact (List.eraseP_sublist).trans hordered
      · show (start ++ g.appended).Perm
          (l.eraseP p ++ (g.taken ++ (l.find? p).toList ++ g.dropped))
        refine hconserved.trans ?_
        refine ((perm_eraseP p l).append_right _).trans ?_
        rw [List.append_assoc]
        apply List.Perm.append_left
        rw [← List.append_assoc]
        exact List.perm_append_comm.append_right _
  | keep q =>
      constructor
      · exact List.filter_sublist.trans hordered
      · show (start ++ g.appended).Perm
          (l.filter q ++ (g.taken ++ (g.dropped ++ l.filter fun x => ! q x)))
        refine hconserved.trans ?_
        refine ((perm_filter q l).append_right _).trans ?_
        rw [List.append_assoc]
        apply List.Perm.append_left
        refine List.perm_append_comm.trans ?_
        rw [List.append_assoc]

theorem accounted_listRun {start l : List α} {g : Ledger α} (h : Accounted start l g)
    (ops : List (ListOp α)) :
    Accounted start (listRun l g ops).1 (listRun l g ops).2 := by
  induction ops generalizing l g with
  | nil => exact h
  | cons op ops ih => exact ih (h.step op)

theorem accounted_start (l : List α) : Accounted l l ⟨[], [], []⟩ := by
  constructor
  · rw [List.append_nil]
  · rw [List.append_nil, List.append_nil, List.append_nil]

end TrafficLight.RingQueue
