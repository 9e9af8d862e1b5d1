import Mathlib.Data.List.Induction

/-!
Histories as lists, the last event at the end: something happened, and only things
of one kind have happened since.
-/

namespace TrafficLight.Histories

variable {α : Type*} {P Q : α → Prop}

/-- An event with `P`, and nothing but `Q` after it. -/
def Since (P Q : α → Prop) (history : List α) : Prop :=
  ∃ before x after, history = before ++ x :: after ∧ P x ∧ ∀ y ∈ after, Q y

theorem not_since_nil : ¬ Since P Q [] := by
  rintro ⟨before, x, after, hhistory, _⟩
  exact absurd hhistory (by simp)

/-- The last event either is the one with `P` or comes after it. -/
theorem since_append_singleton {history : List α} {x : α} :
    Since P Q (history ++ [x]) ↔ P x ∨ Q x ∧ Since P Q history := by
  constructor
  · rintro ⟨before, y, after, hhistory, hy, hafter⟩
    rcases List.eq_nil_or_concat after with rfl | ⟨after, z, rfl⟩
    · obtain ⟨rfl, hx⟩ := List.append_inj' hhistory rfl
      obtain rfl := List.head_eq_of_cons_eq hx
      exact .inl hy
    · rw [List.concat_eq_append, ← List.cons_append, ← List.append_assoc] at hhistory
      obtain ⟨rfl, hx⟩ := List.append_inj' hhistory rfl
      obtain rfl := List.head_eq_of_cons_eq hx
      exact .inr ⟨hafter x (by simp), before, y, after, rfl, hy,
        fun w hw => hafter w (by simp [hw])⟩
  · rintro (hx | ⟨hx, before, y, after, rfl, hy, hafter⟩)
    · exact ⟨history, x, [], rfl, hx, nofun⟩
    · refine ⟨before, y, after ++ [x], by simp, hy, ?_⟩
      intro w hw
      rcases List.mem_append.mp hw with hw | hw
      · exact hafter w hw
      · exact List.mem_singleton.mp hw ▸ hx

/-- Of the events with `P` there is a last one. -/
theorem since_last {history : List α} {x : α} (hmem : x ∈ history) (hx : P x) :
    Since P (fun y => ¬ P y) history := by
  induction history using List.reverseRecOn with
  | nil => exact absurd hmem List.not_mem_nil
  | append_singleton history y ih =>
      rw [since_append_singleton]
      by_cases hy : P y
      · exact .inl hy
      · refine .inr ⟨hy, ih ?_⟩
        rcases List.mem_append.mp hmem with hmem | hmem
        · exact hmem
        · exact absurd (List.mem_singleton.mp hmem ▸ hx) hy

theorem Since.exists_mem {history : List α} (h : Since P Q history) : ∃ x ∈ history, P x := by
  obtain ⟨before, x, after, rfl, hx, _⟩ := h
  exact ⟨x, by simp, hx⟩

end TrafficLight.Histories
