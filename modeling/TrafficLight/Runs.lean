import Mathlib.Data.List.Basic

/-!
Runs of a deterministic machine that is driven by a list of actions. A machine
is a step function `S → A → S`; every nondeterministic choice (a message, an
input, a random draw) is part of the action. The rules below lift facts about
one step to whole runs.
-/

namespace TrafficLight.Runs

variable {S A G : Type*}

/-- The state after all actions of a list. -/
def run (step : S → A → S) (s : S) (as : List A) : S :=
  as.foldl step s

@[simp] theorem run_nil (step : S → A → S) (s : S) : run step s [] = s := rfl

@[simp] theorem run_cons (step : S → A → S) (s : S) (a : A) (as : List A) :
    run step s (a :: as) = run step (step s a) as := rfl

@[simp] theorem run_append (step : S → A → S) (s : S) (as bs : List A) :
    run step s (as ++ bs) = run step (run step s as) bs :=
  List.foldl_append

/-- Every action of the run satisfies `P` in the state it is taken from. -/
def Along (step : S → A → S) (P : S → A → Prop) : S → List A → Prop
  | _, [] => True
  | s, a :: as => P s a ∧ Along step P (step s a) as

instance Along.decidable (step : S → A → S) (P : S → A → Prop)
    [∀ s a, Decidable (P s a)] : ∀ s as, Decidable (Along step P s as)
  | _, [] => inferInstanceAs (Decidable True)
  | s, a :: as =>
      have := Along.decidable step P (step s a) as
      inferInstanceAs (Decidable (P s a ∧ Along step P (step s a) as))

@[simp] theorem along_nil (step : S → A → S) (P : S → A → Prop) (s : S) :
    Along step P s [] := trivial

@[simp] theorem along_cons (step : S → A → S) (P : S → A → Prop) (s : S)
    (a : A) (as : List A) :
    Along step P s (a :: as) ↔ P s a ∧ Along step P (step s a) as := Iff.rfl

theorem along_append (step : S → A → S) (P : S → A → Prop) (s : S)
    (as bs : List A) :
    Along step P s (as ++ bs) ↔
      Along step P s as ∧ Along step P (run step s as) bs := by
  induction as generalizing s with
  | nil => simp
  | cons a as ih => simp only [List.cons_append, along_cons, run_cons, ih, and_assoc]

theorem along_and (step : S → A → S) (P Q : S → A → Prop) (s : S) (as : List A) :
    Along step (fun s a => P s a ∧ Q s a) s as ↔ Along step P s as ∧ Along step Q s as := by
  induction as generalizing s with
  | nil => simp
  | cons a as ih =>
      simp only [along_cons, ih]
      exact and_and_and_comm

/-- A property of the actions alone. -/
theorem along_forall (step : S → A → S) (P : A → Prop) (s : S) (as : List A) :
    Along step (fun _ a => P a) s as ↔ ∀ a ∈ as, P a := by
  induction as generalizing s with
  | nil => simp
  | cons a as ih => simp only [along_cons, ih, List.forall_mem_cons]

/-- The invariant rule: what every permitted step preserves holds at the end
of every permitted run. -/
theorem Along.invariant {step : S → A → S} {P : S → A → Prop} {I : S → Prop}
    (hstep : ∀ s a, I s → P s a → I (step s a)) {s : S} {as : List A}
    (hs : I s) (h : Along step P s as) : I (run step s as) := by
  induction as generalizing s with
  | nil => exact hs
  | cons a as ih => exact ih (hstep s a hs h.1) h.2

/-- The invariant rule for unrestricted runs. -/
theorem run_invariant {step : S → A → S} {I : S → Prop}
    (hstep : ∀ s a, I s → I (step s a)) {s : S} (hs : I s) (as : List A) :
    I (run step s as) := by
  induction as generalizing s with
  | nil => exact hs
  | cons a as ih => exact ih (hstep s a hs)

/-- Along a permitted run the invariant may be used at every step. -/
theorem Along.of_invariant {step : S → A → S} {P Q : S → A → Prop}
    {I : S → Prop} (hstep : ∀ s a, I s → P s a → I (step s a))
    (hQ : ∀ s a, I s → P s a → Q s a) {s : S} {as : List A}
    (hs : I s) (h : Along step P s as) : Along step Q s as := by
  induction as generalizing s with
  | nil => trivial
  | cons a as ih => exact ⟨hQ s a hs h.1, ih (hstep s a hs h.1) h.2⟩

/-- Two step properties that agree wherever the invariant holds select the
same runs, provided the steps they select preserve the invariant. -/
theorem along_iff_of_invariant {step : S → A → S} {R P Q : S → A → Prop}
    {I : S → Prop} (hstep : ∀ s a, I s → R s a → P s a → I (step s a))
    (hPQ : ∀ s a, I s → R s a → (Q s a ↔ P s a)) {s : S} {as : List A}
    (hs : I s) (hR : Along step R s as) :
    Along step Q s as ↔ Along step P s as := by
  induction as generalizing s with
  | nil => simp
  | cons a as ih =>
      simp only [along_cons, hPQ s a hs hR.1]
      constructor
      · rintro ⟨hp, hrest⟩
        exact ⟨hp, (ih (hstep s a hs hR.1 hp) hR.2).mp hrest⟩
      · rintro ⟨hp, hrest⟩
        exact ⟨hp, (ih (hstep s a hs hR.1 hp) hR.2).mpr hrest⟩

/-- `I` holds in every state of the run, the first and the last included. -/
def Throughout (step : S → A → S) (I : S → Prop) : S → List A → Prop
  | s, [] => I s
  | s, a :: as => I s ∧ Throughout step I (step s a) as

instance Throughout.decidable (step : S → A → S) (I : S → Prop)
    [∀ s, Decidable (I s)] : ∀ s as, Decidable (Throughout step I s as)
  | s, [] => inferInstanceAs (Decidable (I s))
  | s, a :: as =>
      have := Throughout.decidable step I (step s a) as
      inferInstanceAs (Decidable (I s ∧ Throughout step I (step s a) as))

theorem throughout_iff_along (step : S → A → S) (I : S → Prop) (s : S)
    (as : List A) :
    Throughout step I s as ↔ I s ∧ Along step (fun s a => I (step s a)) s as := by
  induction as generalizing s with
  | nil => simp [Throughout]
  | cons a as ih => simp only [Throughout, along_cons, ih]

theorem throughout_append (step : S → A → S) (I : S → Prop) (s : S) (as bs : List A) :
    Throughout step I s (as ++ bs) ↔
      Throughout step I s as ∧ Throughout step I (run step s as) bs := by
  induction as generalizing s with
  | nil => cases bs <;> simp [Throughout]
  | cons a as ih => simp only [List.cons_append, Throughout, run_cons, ih, and_assoc]

/-- What holds throughout a run holds at its end. -/
theorem Throughout.last {step : S → A → S} {I : S → Prop} {s : S} {as : List A}
    (h : Throughout step I s as) : I (run step s as) := by
  induction as generalizing s with
  | nil => exact h
  | cons a as ih => exact ih h.2

theorem Throughout.mono {step : S → A → S} {I J : S → Prop} (hIJ : ∀ s, I s → J s) {s : S}
    {as : List A} (h : Throughout step I s as) : Throughout step J s as := by
  induction as generalizing s with
  | nil => exact hIJ s h
  | cons a as ih => exact ⟨hIJ s h.1, ih h.2⟩

/-- The invariant rule for every state of a permitted run. -/
theorem Along.throughout {step : S → A → S} {P : S → A → Prop} {I J : S → Prop}
    (hstep : ∀ s a, J s → P s a → J (step s a)) (hI : ∀ s, J s → I s) {s : S}
    {as : List A} (hs : J s) (h : Along step P s as) : Throughout step I s as := by
  rw [throughout_iff_along]
  exact ⟨hI s hs, h.of_invariant hstep (fun s a hJ hP => hI _ (hstep s a hJ hP)) hs⟩

/-- The invariant rule for every state of an unrestricted run. -/
theorem throughout_of_invariant {step : S → A → S} {I J : S → Prop}
    (hstep : ∀ s a, J s → J (step s a)) (hI : ∀ s, J s → I s) {s : S} (hs : J s)
    (as : List A) : Throughout step I s as := by
  induction as generalizing s with
  | nil => exact hI s hs
  | cons a as ih => exact ⟨hI s hs, ih (hstep s a hs)⟩

/-- Among the runs that `R` permits, exactly those along the condition `C` keep
`I`: steps that meet the condition preserve the invariant, and a step that does
not breaks `I` at once. -/
theorem throughout_iff_of_invariant {step : S → A → S} {R C : S → A → Prop}
    {I J : S → Prop} (hstep : ∀ s a, J s → R s a → C s a → J (step s a))
    (hI : ∀ s, J s → I s) (hC : ∀ s a, J s → R s a → I (step s a) → C s a)
    {s : S} {as : List A} (hs : J s) (hR : Along step R s as) :
    Throughout step I s as ↔ Along step C s as := by
  rw [throughout_iff_along, and_iff_right (hI s hs)]
  refine along_iff_of_invariant hstep (fun s a hJ hR => ?_) hs hR
  exact ⟨hC s a hJ hR, fun hCa => hI _ (hstep s a hJ hR hCa)⟩

/-- A machine together with an observer that keeps a record of the run. The
observer sees the state before the step, the action and the state after it. -/
def watch (step : S → A → S) (observe : S → A → S → G → G) :
    S × G → A → S × G :=
  fun sg a => (step sg.1 a, observe sg.1 a (step sg.1 a) sg.2)

@[simp] theorem watch_fst (step : S → A → S) (observe : S → A → S → G → G)
    (sg : S × G) (a : A) : (watch step observe sg a).1 = step sg.1 a := rfl

@[simp] theorem watch_snd (step : S → A → S) (observe : S → A → S → G → G)
    (sg : S × G) (a : A) :
    (watch step observe sg a).2 = observe sg.1 a (step sg.1 a) sg.2 := rfl

theorem along_watch (step : S → A → S) (observe : S → A → S → G → G)
    (P : S → A → Prop) (sg : S × G) (as : List A) :
    Along (watch step observe) (fun sg a => P sg.1 a) sg as ↔
      Along step P sg.1 as := by
  induction as generalizing sg with
  | nil => simp
  | cons a as ih => simp only [along_cons, ih, watch_fst]

/-- The states some run reaches from an initial state. -/
def Reachable (init : S → Prop) (step : S → A → S) (s : S) : Prop :=
  ∃ s₀ as, init s₀ ∧ s = run step s₀ as

theorem Reachable.init {init : S → Prop} {step : S → A → S} {s : S}
    (h : init s) : Reachable init step s :=
  ⟨s, [], h, rfl⟩

theorem Reachable.run {init : S → Prop} {step : S → A → S} {s : S}
    (h : Reachable init step s) (as : List A) :
    Reachable init step (run step s as) := by
  obtain ⟨s₀, bs, hinit, rfl⟩ := h
  exact ⟨s₀, bs ++ as, hinit, (run_append step s₀ bs as).symm⟩

theorem Reachable.step {init : S → Prop} {step : S → A → S} {s : S}
    (h : Reachable init step s) (a : A) : Reachable init step (step s a) :=
  h.run [a]

theorem Reachable.invariant {init : S → Prop} {step : S → A → S}
    {I : S → Prop} (hinit : ∀ s, init s → I s)
    (hstep : ∀ s a, I s → I (step s a)) {s : S}
    (h : Reachable init step s) : I s := by
  obtain ⟨s₀, as, hs₀, rfl⟩ := h
  exact run_invariant hstep (hinit s₀ hs₀) as

/-- A coarse machine whose every step is a list of fine steps runs as the fine
machine on the concatenated lists. -/
theorem run_flatMap {B : Type*} {coarse : S → B → S} {fine : S → A → S}
    {expand : B → List A} (h : ∀ s b, coarse s b = run fine s (expand b))
    (s : S) (bs : List B) :
    run coarse s bs = run fine s (bs.flatMap expand) := by
  induction bs generalizing s with
  | nil => rfl
  | cons b bs ih => rw [run_cons, ih, h, List.flatMap_cons, run_append]

/-- A property of coarse steps that each step shows on its fine steps. -/
theorem along_flatMap {B : Type*} {coarse : S → B → S} {fine : S → A → S}
    {expand : B → List A} (h : ∀ s b, coarse s b = run fine s (expand b)) {I : S → Prop}
    {R : B → Prop} {P : S → B → Prop} {Q : S → A → Prop} (hI : ∀ s a, I s → I (fine s a))
    (hPQ : ∀ s b, I s → R b → (P s b ↔ Along fine Q s (expand b))) {s : S} {bs : List B}
    (hs : I s) (hR : ∀ b ∈ bs, R b) :
    Along coarse P s bs ↔ Along fine Q s (bs.flatMap expand) := by
  induction bs generalizing s with
  | nil => simp
  | cons b bs ih =>
      rw [List.forall_mem_cons] at hR
      have hnext : I (coarse s b) := by
        rw [h]
        exact run_invariant hI hs _
      rw [along_cons, List.flatMap_cons, along_append, hPQ s b hs hR.1, ih hnext hR.2, h]

end TrafficLight.Runs
