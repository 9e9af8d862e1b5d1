import Mathlib.Tactic.Common
import TrafficLight.Runs

/-!
Lines read one element at a time into a buffer of bounded size. What does not fit is
dropped and the line is marked; the next line starts over. A program that acts on whole
lines does the same whatever the pieces are in which its input comes.
-/

namespace TrafficLight.LineEditor

open TrafficLight.Runs

variable {α S P A : Type*}

/-- The part of a line that is kept, and whether more has come. -/
structure Line (α : Type*) where
  used : List α
  overflow : Bool

def Line.empty : Line α := ⟨[], false⟩

/-- The line that is kept of a text. -/
def cut (capacity : Nat) (text : List α) : Line α :=
  ⟨text.take capacity, decide (capacity < text.length)⟩

/-- One more element of the same line. -/
def Line.type (capacity : Nat) (line : Line α) (c : α) : Line α :=
  if line.used.length < capacity then { line with used := line.used ++ [c] }
  else { line with overflow := true }

theorem cut_nil (capacity : Nat) : cut capacity ([] : List α) = Line.empty := by
  rw [cut, List.take_nil]
  rfl

theorem type_cut (capacity : Nat) (text : List α) (c : α) :
    (cut capacity text).type capacity c = cut capacity (text ++ [c]) := by
  unfold Line.type cut
  dsimp only
  rw [List.length_take, List.length_append, List.length_singleton]
  by_cases hroom : text.length < capacity
  · rw [if_pos (by omega), List.take_of_length_le (by omega),
      List.take_of_length_le (by rw [List.length_append, List.length_singleton]; omega)]
    congr 1
    rw [decide_eq_decide]
    omega
  · rw [if_neg (by omega), List.take_append_of_le_length (by omega)]
    congr 1
    rw [eq_comm, decide_eq_true_eq]
    omega

/-- What a program does with a line, and when it reads no more. -/
structure Program (S α : Type*) where
  enter : S → Line α → S
  stopped : S → Bool

variable [DecidableEq α] (newline : α) (capacity : Nat)

/-- The next element of the input. -/
def Program.feed (program : Program S α) (s : S × Line α) (c : α) : S × Line α :=
  if program.stopped s.1 then s
  else if c = newline then (program.enter s.1 s.2, Line.empty)
  else (s.1, s.2.type capacity c)

/-- A whole line, unless the program has stopped. -/
def Program.enterLine (program : Program S α) (s : S) (line : Line α) : S :=
  if program.stopped s then s else program.enter s line

/-- The lines that a text completes. -/
def completeLines (text : List α) : List (Line α) :=
  ((text.splitOn newline).dropLast).map (cut capacity)

theorem completeLines_open {text : List α} (h : newline ∉ text) :
    completeLines newline capacity text = [] := by
  rw [completeLines, List.splitOn_eq_singleton h]
  rfl

theorem completeLines_cons {first : List α} (h : newline ∉ first) (text : List α) :
    completeLines newline capacity (first ++ newline :: text) =
      cut capacity first :: completeLines newline capacity text := by
  rw [completeLines, List.splitOn_append_cons_self_of_not_mem h,
    List.dropLast_cons_of_ne_nil (List.splitOn_ne_nil _ _), List.map_cons]
  rfl

variable (program : Program S α)

theorem run_feed_stopped {s : S × Line α} (h : program.stopped s.1 = true) (text : List α) :
    run (program.feed newline capacity) s text = s := by
  induction text with
  | nil => rfl
  | cons c text ih =>
      have hstep : program.feed newline capacity s c = s := if_pos h
      rw [run_cons, hstep, ih]

omit [DecidableEq α] in
theorem run_enterLine_stopped {s : S} (h : program.stopped s = true) (lines : List (Line α)) :
    run program.enterLine s lines = s := by
  induction lines with
  | nil => rfl
  | cons line lines ih =>
      have hstep : program.enterLine s line = s := if_pos h
      rw [run_cons, hstep, ih]

theorem run_feed_open {s : S} {first : List α} (hfirst : newline ∉ first) (text : List α) :
    (run (program.feed newline capacity) (s, cut capacity first) text).1 =
      run program.enterLine s (completeLines newline capacity (first ++ text)) := by
  induction text generalizing s first with
  | nil =>
      rw [List.append_nil, completeLines_open newline capacity hfirst]
      rfl
  | cons c text ih =>
      by_cases hstopped : program.stopped s = true
      · rw [run_feed_stopped newline capacity program hstopped,
          run_enterLine_stopped program hstopped]
      rw [run_cons, Program.feed, if_neg hstopped]
      by_cases hline : c = newline
      · subst hline
        have hempty := ih (s := program.enter s (cut capacity first)) (List.not_mem_nil (a := c))
        rw [cut_nil, List.nil_append] at hempty
        rw [if_pos rfl, completeLines_cons _ _ hfirst, run_cons, Program.enterLine,
          if_neg hstopped]
        exact hempty
      · have hlonger : newline ∉ first ++ [c] := by
          rw [List.mem_append, List.mem_singleton]
          exact fun hmem => hmem.elim hfirst fun heq => hline heq.symm
        rw [if_neg hline, type_cut, ih hlonger, List.append_assoc, List.singleton_append]

theorem run_feed (s : S) (text : List α) :
    (run (program.feed newline capacity) (s, Line.empty) text).1 =
      run program.enterLine s (completeLines newline capacity text) := by
  rw [← cut_nil capacity]
  exact run_feed_open newline capacity program List.not_mem_nil text

/-- The lines change a part of the state as another program says. -/
structure Image (program : Program S α) (part : S → P) (image : Program P α) : Prop where
  enter : ∀ s line, part (program.enter s line) = image.enter (part s) line
  stopped : ∀ s, image.stopped (part s) = program.stopped s

theorem Image.feed {program : Program S α} {part : S → P} {image : Program P α}
    (h : Image program part image) (s : S × Line α) (c : α) :
    (part (program.feed newline capacity s c).1, (program.feed newline capacity s c).2) =
      image.feed newline capacity (part s.1, s.2) c := by
  unfold Program.feed
  dsimp only
  rw [h.stopped]
  split
  · rfl
  · split
    · rw [h.enter]
    · rfl

theorem Image.run {program : Program S α} {part : S → P} {image : Program P α}
    (h : Image program part image) (s : S × Line α) (text : List α) :
    (part (run (program.feed newline capacity) s text).1,
        (run (program.feed newline capacity) s text).2) =
      run (image.feed newline capacity) (part s.1, s.2) text := by
  induction text generalizing s with
  | nil => rfl
  | cons c text ih => rw [run_cons, ih, h.feed, run_cons]

/-- A machine whose every step feeds a piece of input to the program, seen through a
part of its state, has done by the end of a run what the program does with the lines of
the whole input. -/
theorem run_pieces (program : Program P α) {step : S → A → S} (part : S → P × Line α)
    (pieces : A → List α)
    (hstep : ∀ s a, part (step s a) = run (program.feed newline capacity) (part s) (pieces a))
    {s : S} {p : P} (hs : part s = (p, Line.empty)) (as : List A) :
    (part (run step s as)).1 =
      run program.enterLine p (completeLines newline capacity (as.flatMap pieces)) := by
  have hrun : ∀ (as : List A) (s : S), part (run step s as) =
      run (program.feed newline capacity) (part s) (as.flatMap pieces) := by
    intro as
    induction as with
    | nil => exact fun s => rfl
    | cons a as ih =>
        intro s
        rw [run_cons, ih, hstep, List.flatMap_cons, run_append]
  rw [hrun, hs, run_feed]

end TrafficLight.LineEditor
