import Mathlib.Data.List.Nodup
import Mathlib.Tactic.Common

/-!
Tables of distinct names. A name is looked up and appended if it is not there; its
index never changes, and two indices are equal exactly when their names are.
-/

namespace TrafficLight.NameTable

variable {α : Type*} {table : List α} {name : α}

theorem get_of_prefix {longer : List α} (h : table <+: longer) {i : Nat}
    (hi : table[i]? = some name) : longer[i]? = some name := by
  obtain ⟨rest, rfl⟩ := h
  obtain ⟨hlt, hget⟩ := List.getElem?_eq_some_iff.mp hi
  rw [List.getElem?_append_left hlt, List.getElem?_eq_getElem hlt, hget]

theorem index_eq_iff (h : table.Nodup) {i j : Nat} {a b : α} (hi : table[i]? = some a)
    (hj : table[j]? = some b) : i = j ↔ a = b := by
  obtain ⟨hilt, hia⟩ := List.getElem?_eq_some_iff.mp hi
  obtain ⟨hjlt, hjb⟩ := List.getElem?_eq_some_iff.mp hj
  rw [← hia, ← hjb]
  exact h.getElem_inj_iff.symm

variable [DecidableEq α]

/-- The table with the name in it, and the index of the name. -/
def register (table : List α) (name : α) : List α × Nat :=
  if table.idxOf name = table.length then (table ++ [name], table.length)
  else (table, table.idxOf name)

theorem register_prefix (table : List α) (name : α) : table <+: (register table name).1 := by
  unfold register
  split
  · exact List.prefix_append table [name]
  · exact List.prefix_rfl

theorem register_length (table : List α) (name : α) :
    (register table name).1.length ≤ table.length + 1 := by
  unfold register
  split
  · exact Nat.le_of_eq (List.length_append ..)
  · exact Nat.le_succ _

theorem register_get (table : List α) (name : α) :
    (register table name).1[(register table name).2]? = some name := by
  unfold register
  split
  · exact List.getElem?_concat_length
  · rename_i hfound
    have hlt := Nat.lt_of_le_of_ne List.idxOf_le_length hfound
    rw [List.getElem?_eq_getElem hlt, List.getElem_idxOf hlt]

theorem register_nodup (h : table.Nodup) : (register table name).1.Nodup := by
  unfold register
  split
  · rename_i hnew
    have hnew : name ∉ table := List.idxOf_eq_length_iff.mp hnew
    apply List.Nodup.append h (List.nodup_singleton name)
    exact fun a ha hname => hnew (List.mem_singleton.mp hname ▸ ha)
  · exact h

end TrafficLight.NameTable
