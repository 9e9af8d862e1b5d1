import TrafficLight.OperatorConsole

/-!
The separate display of Central, from `central_ui.c`: the loop that reads the terminal and
refreshes a live view, and the shortcuts of the operator. A shortcut stands for a line
that Central understands, and only where the line itself means nothing to Central.
-/

namespace TrafficLight.OperatorTerminal

open TrafficLight.Runs
open TrafficLight.Protocol
open TrafficLight.Decimal
open TrafficLight.CentralCommands
open TrafficLight.SimCommands
open TrafficLight.TrainCommands
open TrafficLight.OperatorRequests
open TrafficLight.OperatorCommands
open TrafficLight.DisplayLink
open TrafficLight.LineEditor
open TrafficLight.OperatorConsole

inductive Watching
  | off
  | map
  | detailed
  deriving DecidableEq

/-- What `translate_shortcut` makes of a line. -/
inductive Shortcut
  | forward
  | send (text : List UInt8)
  | watch (view : Watching)
  | menu
  | quit
  deriving DecidableEq

/-- `toupper` in the C locale. -/
def upper (c : UInt8) : UInt8 := if 97 ≤ c ∧ c ≤ 122 then c - 32 else c

def allWord : List UInt8 := ascii ['a', 'l', 'l']

def fixedPrefix : List UInt8 := ascii ['m', 'o', 'd', 'e', '-', 'f', 'i', 'x', 'e', 'd', ' ']
def sensorPrefix : List UInt8 :=
  ascii ['m', 'o', 'd', 'e', '-', 's', 'e', 'n', 's', 'o', 'r', ' ']
def startPrefix : List UInt8 := ascii ['s', 'i', 'm', '-', 's', 't', 'a', 'r', 't', ' ']
def stopPrefix : List UInt8 := ascii ['s', 'i', 'm', '-', 's', 't', 'o', 'p', ' ']

/-- The command of a letter that goes with a target. -/
def letterPrefix (c : UInt8) : Option (List UInt8) :=
  if c = 70 then some fixedPrefix
  else if c = 83 then some sensorPrefix
  else if c = 65 then some startPrefix
  else if c = 88 then some stopPrefix
  else none

/-- The keys of one letter or digit. -/
def singleKey (c : UInt8) : Shortcut :=
  if c = 76 ∨ c = 49 then .watch .map
  else if c = 68 then .watch .detailed
  else if c = 83 ∨ c = 50 then .send (viewWord .status)
  else if c = 69 ∨ c = 51 then .send (viewWord .events)
  else if c = 70 ∨ c = 52 then .send (viewWord .faults)
  else if c = 67 ∨ c = 53 then .send (viewWord .commands)
  else if c = 72 then .send (viewWord .help)
  else if c = 77 then .menu
  else if c = 48 ∨ c = 81 then .quit
  else .forward

/-- The keys of two characters, of which the second is a target or belongs to the Train. -/
def doubleKey (c d : UInt8) : Shortcut :=
  if c = 84 then
    if d = 85 then .send (trainPrefix ++ ascii ['t', 'r', 'a', 'i', 'n', '-', 'u', 'p'])
    else if d = 68 then
      .send (trainPrefix ++ ascii ['t', 'r', 'a', 'i', 'n', '-', 'd', 'o', 'w', 'n'])
    else if d = 83 then .send (trainPrefix ++ ascii ['s', 't', 'a', 't', 'u', 's'])
    else .forward
  else
    match letterPrefix c with
    | none => .forward
    | some command =>
        if d = 65 then .send (command ++ allWord)
        else if 49 ≤ d ∧ d ≤ 54 then .send (command ++ [73, d])
        else .forward

/-- `translate_shortcut` -/
def translateShortcut (input : List UInt8) : Shortcut :=
  match input.map upper with
  | [c] => singleKey c
  | [c, d] => doubleKey c d
  | _ => .forward

inductive Request
  | operator (text : List UInt8)
  | refresh (view : View)

/-- The variables of the loop but for the line, with the requests made. -/
structure Terminal where
  watching : Watching
  mapFrameDrawn : Bool
  nextRefresh : Nat
  interrupted : Bool
  requests : List Request

/-- The request for the dashboard comes before the loop. -/
def terminalStart : Terminal := ⟨.off, false, 0, false, [.refresh .status]⟩

/-- `request_core` for the operator, after which a live view is drawn at once. -/
def ask (s : Terminal) (text : List UInt8) : Terminal :=
  { s with
    mapFrameDrawn := s.mapFrameDrawn && s.watching = .off
    nextRefresh := if s.watching = .off then s.nextRefresh else 0
    requests := s.requests ++ [.operator text] }

def startView (s : Terminal) (view : Watching) : Terminal :=
  { s with
    watching := view
    mapFrameDrawn := false
    nextRefresh := 0 }

def endView (s : Terminal) : Terminal :=
  { s with
    watching := .off
    mapFrameDrawn := false }

/-- The end of a line. -/
def terminalLine (s : Terminal) (line : Line UInt8) : Terminal :=
  let command := commandText line
  if line.overflow then s
  else if command = [] then if s.watching = .off then s else endView s
  else
    match translateShortcut command with
    | .quit => { s with interrupted := true }
    | .menu => endView s
    | .watch view => startView s view
    | .send text => ask s text
    | .forward =>
        if command = quitWord then { s with interrupted := true }
        else if command = watchWord then startView s .detailed
        else ask s command

def mapInterval : Nat := 500000000
def detailedInterval : Nat := 1000000000

/-- The top of the loop, at a reading of the clock; the second reading is taken when the
view has been drawn. -/
def refresh (s : Terminal) (now drawn : Nat) : Terminal :=
  if s.interrupted = false ∧ s.watching ≠ .off ∧ s.nextRefresh ≤ now then
    { s with
      mapFrameDrawn := decide (s.watching = .map)
      nextRefresh := drawn + if s.watching = .map then mapInterval else detailedInterval
      requests := s.requests ++ [.refresh (if s.watching = .map then .map else .status)] }
  else s

def terminalProgram : Program Terminal UInt8 where
  enter := terminalLine
  stopped := Terminal.interrupted

/-- What happens in the loop; a signal, the end of the input or a failed call ends it. -/
inductive TerminalStep
  | refresh (now drawn : Nat)
  | read (chunk : List UInt8)
  | stop

def terminalStep (s : Terminal × Line UInt8) : TerminalStep → Terminal × Line UInt8
  | .refresh now drawn => (refresh s.1 now drawn, s.2)
  | .read chunk => run (terminalProgram.feed newline lineRoom) s chunk
  | .stop => ({ s.1 with interrupted := true }, s.2)

/-- The request of a line, whatever the view. -/
def asks (line : Line UInt8) : Option (List UInt8) :=
  let command := commandText line
  if line.overflow ∨ command = [] then none
  else
    match translateShortcut command with
    | .send text => some text
    | .forward => if command = quitWord ∨ command = watchWord then none else some command
    | _ => none

/-- The line closes the terminal. -/
def quits (line : Line UInt8) : Bool :=
  let command := commandText line
  line.overflow = false && (translateShortcut command = .quit || command = quitWord)

def operatorTexts (requests : List Request) : List (List UInt8) :=
  requests.filterMap fun request =>
    match request with
    | .operator text => some text
    | .refresh _ => none

theorem operatorTexts_append (requests more : List Request) :
    operatorTexts (requests ++ more) = operatorTexts requests ++ operatorTexts more :=
  List.filterMap_append

theorem forward_words :
    translateShortcut quitWord = .forward ∧ translateShortcut watchWord = .forward ∧
      translateShortcut [] = .forward := by
  decide

/-- What a line adds to the requests, and whether it closes the terminal. -/
structure Adds (s s' : Terminal) (text : Option (List UInt8)) (closes : Bool) : Prop where
  texts : operatorTexts s'.requests = operatorTexts s.requests ++ text.toList
  interrupted : s'.interrupted = (s.interrupted || closes)

theorem adds_nothing {s s' : Terminal} (hrequests : s'.requests = s.requests)
    (hinterrupted : s'.interrupted = s.interrupted) : Adds s s' none false where
  texts := by rw [hrequests, Option.toList_none, List.append_nil]
  interrupted := by rw [hinterrupted, Bool.or_false]

theorem adds_ask (s : Terminal) (text : List UInt8) : Adds s (ask s text) (some text) false where
  texts := operatorTexts_append s.requests [.operator text]
  interrupted := (Bool.or_false _).symm

theorem adds_quit (s : Terminal) : Adds s { s with interrupted := true } none true where
  texts := (List.append_nil _).symm
  interrupted := (Bool.or_true _).symm

theorem terminalLine_adds (s : Terminal) (line : Line UInt8) :
    Adds s (terminalLine s line) (asks line) (quits line) := by
  obtain ⟨hquit, hwatch, hempty⟩ := forward_words
  unfold terminalLine asks quits
  dsimp only
  cases line.overflow with
  | true => exact adds_nothing rfl rfl
  | false =>
      generalize commandText line = command
      by_cases hblank : command = []
      · subst hblank
        rw [hempty]
        by_cases hoff : s.watching = .off
        · rw [if_neg Bool.false_ne_true, if_pos rfl, if_pos hoff]
          exact adds_nothing rfl rfl
        · rw [if_neg Bool.false_ne_true, if_pos rfl, if_neg hoff]
          exact adds_nothing rfl rfl
      rw [if_neg Bool.false_ne_true, if_neg hblank,
        if_neg (not_or.mpr ⟨Bool.false_ne_true, hblank⟩)]
      have hkept : translateShortcut command ≠ .forward → command ≠ quitWord := by
        rintro hshortcut rfl
        exact hshortcut hquit
      cases hshortcut : translateShortcut command with
      | quit => exact adds_quit s
      | menu =>
          rw [decide_eq_false (hkept (by rw [hshortcut]; exact Shortcut.noConfusion))]
          exact adds_nothing rfl rfl
      | watch view =>
          rw [decide_eq_false (hkept (by rw [hshortcut]; exact Shortcut.noConfusion))]
          exact adds_nothing rfl rfl
      | send text =>
          rw [decide_eq_false (hkept (by rw [hshortcut]; exact Shortcut.noConfusion))]
          exact adds_ask s text
      | forward =>
          dsimp only
          by_cases hne : command = quitWord
          · rw [if_pos hne, if_pos (Or.inl hne), decide_eq_true hne]
            exact adds_quit s
          · rw [if_neg hne, decide_eq_false hne]
            by_cases heq : command = watchWord
            · rw [if_pos heq, if_pos (Or.inr heq)]
              exact adds_nothing rfl rfl
            · rw [if_neg heq, if_neg (not_or.mpr ⟨hne, heq⟩)]
              exact adds_ask s command

/-- The requests of the operator's alone, and whether the terminal has closed. -/
def requestProgram : Program (List (List UInt8) × Bool) UInt8 where
  enter s line := (s.1 ++ (asks line).toList, s.2 || quits line)
  stopped := Prod.snd

def requestsOf (s : Terminal × Line UInt8) : (List (List UInt8) × Bool) × Line UInt8 :=
  ((operatorTexts s.1.requests, s.1.interrupted), s.2)

theorem image_requests : Image terminalProgram
    (fun s => (operatorTexts s.requests, s.interrupted)) requestProgram where
  enter s line := Prod.ext (terminalLine_adds s line).texts (terminalLine_adds s line).interrupted
  stopped _ := rfl

theorem requestsOf_refresh (s : Terminal × Line UInt8) (now drawn : Nat) :
    requestsOf (refresh s.1 now drawn, s.2) = requestsOf s := by
  unfold refresh
  split
  · have htexts := operatorTexts_append s.1.requests
      [.refresh (if s.1.watching = .map then .map else .status)]
    exact Prod.ext (Prod.ext (htexts.trans (List.append_nil _)) rfl) rfl
  · rfl

/-- The input of the loop up to its end. -/
def typed : List TerminalStep → List UInt8
  | [] => []
  | .refresh _ _ :: steps => typed steps
  | .read chunk :: steps => chunk ++ typed steps
  | .stop :: _ => []

theorem run_closed {s : Terminal × Line UInt8} (h : s.1.interrupted = true)
    (steps : List TerminalStep) :
    operatorTexts (run terminalStep s steps).1.requests = operatorTexts s.1.requests := by
  induction steps generalizing s with
  | nil => rfl
  | cons step steps ih =>
      have hstep : requestsOf (terminalStep s step) = requestsOf s := by
        cases step with
        | refresh now drawn => exact requestsOf_refresh s now drawn
        | read chunk =>
            show requestsOf (run (terminalProgram.feed newline lineRoom) s chunk) = requestsOf s
            rw [run_feed_stopped newline lineRoom terminalProgram h]
        | stop => exact Prod.ext (Prod.ext rfl h.symm) rfl
      have hclosed : (terminalStep s step).1.interrupted = true :=
        (congrArg (fun r => r.1.2) hstep).trans h
      rw [run_cons, ih hclosed]
      exact congrArg (fun r => r.1.1) hstep

theorem run_typed (s : Terminal × Line UInt8) (steps : List TerminalStep) :
    operatorTexts (run terminalStep s steps).1.requests =
      (run (requestProgram.feed newline lineRoom) (requestsOf s) (typed steps)).1.1 := by
  induction steps generalizing s with
  | nil => rfl
  | cons step steps ih =>
      cases step with
      | refresh now drawn =>
          rw [run_cons, ih]
          exact congrArg (fun r => (run (requestProgram.feed newline lineRoom) r _).1.1)
            (requestsOf_refresh s now drawn)
      | read chunk =>
          rw [run_cons, ih, typed, run_append]
          exact congrArg (fun r => (run (requestProgram.feed newline lineRoom) r _).1.1)
            (image_requests.run newline lineRoom s chunk)
      | stop =>
          rw [run_cons, run_closed rfl]
          rfl

theorem asks_of_quits {line : Line UInt8} (h : quits line = true) : asks line = none := by
  obtain ⟨hquit, -, -⟩ := forward_words
  unfold quits at h
  unfold asks
  dsimp only at h ⊢
  rw [Bool.and_eq_true, Bool.or_eq_true, decide_eq_true_eq, decide_eq_true_eq] at h
  split
  · rfl
  · rcases h.2 with hshortcut | hword
    · rw [hshortcut]
    · rw [of_decide_eq_true hword, hquit]
      exact if_pos (Or.inl rfl)

theorem run_requests (texts : List (List UInt8)) (lines : List (Line UInt8)) :
    (run requestProgram.enterLine (texts, false) lines).1 =
      texts ++ (lines.takeWhile fun line => ! quits line).filterMap asks := by
  induction lines generalizing texts with
  | nil => exact (List.append_nil texts).symm
  | cons line lines ih =>
      have hstep : requestProgram.enterLine (texts, false) line =
          (texts ++ (asks line).toList, quits line) := rfl
      rw [run_cons, hstep]
      cases hquits : quits line with
      | true =>
          rw [run_enterLine_stopped requestProgram rfl, asks_of_quits hquits,
            List.takeWhile_cons_of_neg (by simp [hquits])]
          rfl
      | false =>
          rw [ih, List.takeWhile_cons_of_pos (by simp [hquits]), List.append_assoc]
          congr 1
          cases hasks : asks line with
          | none => exact (List.filterMap_cons_none hasks).symm
          | some text => exact (List.filterMap_cons_some hasks).symm

/-- What a shortcut can send. -/
inductive ShortcutText : List UInt8 → Prop
  | view (view : View) : ShortcutText (viewWord view)
  | train {op : TrainOperation} (hop : op = .line .up ∨ op = .line .down ∨ op = .status) :
      ShortcutText (trainPrefix ++ op.text)
  | all {c : UInt8} {command : List UInt8} (hcommand : letterPrefix c = some command) :
      ShortcutText (command ++ allWord)
  | one {c : UInt8} {command : List UInt8} (hcommand : letterPrefix c = some command)
      (i : Fin 6) : ShortcutText (command ++ [73, UInt8.ofNat (49 + i)])

theorem targetDigit {d : UInt8} (h : 49 ≤ d ∧ d ≤ 54) :
    ∃ i : Fin 6, d = UInt8.ofNat (49 + i) := by
  obtain ⟨hlow, hhigh⟩ := h
  rw [UInt8.le_iff_toNat_le] at hlow hhigh
  have hone : (49 : UInt8).toNat = 49 := rfl
  have hsix : (54 : UInt8).toNat = 54 := rfl
  refine ⟨⟨d.toNat - 49, by omega⟩, ?_⟩
  have hsum : 49 + (d.toNat - 49) = d.toNat := by omega
  show d = UInt8.ofNat (49 + (d.toNat - 49))
  rw [hsum, UInt8.ofNat_toNat]

theorem send_of_ite {p : Prop} [Decidable p] {a b : Shortcut} {text : List UInt8}
    (h : (if p then a else b) = .send text) : a = .send text ∨ b = .send text := by
  split at h
  · exact .inl h
  · exact .inr h

theorem shortcutText_of_single {c : UInt8} {text : List UInt8} (h : singleKey c = .send text) :
    ShortcutText text := by
  unfold singleKey at h
  rcases send_of_ite h with h | h
  · cases h
  rcases send_of_ite h with h | h
  · cases h
  rcases send_of_ite h with h | h
  · exact Shortcut.send.inj h ▸ .view .status
  rcases send_of_ite h with h | h
  · exact Shortcut.send.inj h ▸ .view .events
  rcases send_of_ite h with h | h
  · exact Shortcut.send.inj h ▸ .view .faults
  rcases send_of_ite h with h | h
  · exact Shortcut.send.inj h ▸ .view .commands
  rcases send_of_ite h with h | h
  · exact Shortcut.send.inj h ▸ .view .help
  rcases send_of_ite h with h | h
  · cases h
  rcases send_of_ite h with h | h
  · cases h
  · cases h

theorem shortcutText_of_double {c d : UInt8} {text : List UInt8}
    (h : doubleKey c d = .send text) : ShortcutText text := by
  unfold doubleKey at h
  rcases send_of_ite h with h | h
  · rcases send_of_ite h with h | h
    · exact Shortcut.send.inj h ▸ .train (Or.inl rfl)
    rcases send_of_ite h with h | h
    · exact Shortcut.send.inj h ▸ .train (Or.inr (Or.inl rfl))
    rcases send_of_ite h with h | h
    · exact Shortcut.send.inj h ▸ .train (Or.inr (Or.inr rfl))
    · cases h
  · cases hcommand : letterPrefix c with
    | none =>
        rw [hcommand] at h
        cases h
    | some command =>
        rw [hcommand] at h
        rcases send_of_ite h with h | h
        · exact Shortcut.send.inj h ▸ .all hcommand
        · by_cases htarget : 49 ≤ d ∧ d ≤ 54
          · rw [if_pos htarget] at h
            obtain ⟨i, rfl⟩ := targetDigit htarget
            exact Shortcut.send.inj h ▸ .one hcommand i
          · rw [if_neg htarget] at h
            cases h

theorem shortcutText_of_send {input text : List UInt8}
    (h : translateShortcut input = .send text) : ShortcutText text := by
  unfold translateShortcut at h
  split at h
  · exact shortcutText_of_single h
  · exact shortcutText_of_double h
  · cases h

theorem letterPrefix_cases {c : UInt8} {command : List UInt8}
    (h : letterPrefix c = some command) :
    command = fixedPrefix ∨ command = sensorPrefix ∨ command = startPrefix ∨
      command = stopPrefix := by
  unfold letterPrefix at h
  split_ifs at h
  · exact .inl (Option.some.inj h).symm
  · exact .inr (.inl (Option.some.inj h).symm)
  · exact .inr (.inr (.inl (Option.some.inj h).symm))
  · exact .inr (.inr (.inr (Option.some.inj h).symm))

/-- A text that fits into a request of the link. The client still refuses bytes that do
not print. -/
def Sendable (text : List UInt8) : Prop :=
  text ≠ [] ∧ text.length < requestSize ∧ ∀ c ∈ text, c ≠ 0

def targetWord : Option (Fin 6) → List UInt8
  | none => allWord
  | some i => [73, UInt8.ofNat (49 + i)]

theorem targetWord_plain (target : Option (Fin 6)) :
    (2 ≤ (targetWord target).length ∧ (targetWord target).length ≤ 3) ∧
      ∀ c ∈ targetWord target, c ≠ 0 ∧ isSpace c = false := by
  cases target with
  | none => decide +kernel
  | some i =>
      revert i
      decide +kernel

theorem sendable_letter {c : UInt8} {command : List UInt8} (h : letterPrefix c = some command)
    (target : Option (Fin 6)) : Sendable (command ++ targetWord target) := by
  have hcommand : command ≠ [] ∧ command.length ≤ 12 ∧ ∀ c ∈ command, c ≠ 0 := by
    rcases letterPrefix_cases h with rfl | rfl | rfl | rfl <;> decide +kernel
  obtain ⟨⟨-, hlength⟩, htarget⟩ := targetWord_plain target
  refine ⟨List.append_ne_nil_of_left_ne_nil hcommand.1 _, ?_, ?_⟩
  · rw [List.length_append]
    exact (Nat.add_le_add hcommand.2.1 hlength).trans_lt (by decide)
  · intro c hc
    exact (List.mem_append.mp hc).elim (hcommand.2.2 c) fun hc => (htarget c hc).1

theorem sendable_of_shortcut {text : List UInt8} (h : ShortcutText text) : Sendable text := by
  cases h with
  | view view =>
      unfold Sendable
      cases view <;> decide +kernel
  | train hop =>
      unfold Sendable
      rcases hop with rfl | rfl | rfl <;> decide +kernel
  | all hcommand => exact sendable_letter hcommand none
  | one hcommand i => exact sendable_letter hcommand (some i)

theorem trimCommand_sublist (text : List UInt8) : (trimCommand text).Sublist text :=
  (List.rdropWhile_prefix _ _).sublist.trans (List.dropWhile_suffix _).sublist

theorem sendable_of_asks {line : Line UInt8} {text : List UInt8}
    (hlength : line.used.length ≤ lineRoom) (h : asks line = some text) : Sendable text := by
  have hsublist := trimCommand_sublist (line.used.takeWhile (· ≠ 0))
  unfold asks at h
  dsimp only at h
  split at h
  · cases h
  · rename_i hopen
    split at h
    · rename_i hshortcut
      exact Option.some.inj h ▸ sendable_of_shortcut (shortcutText_of_send hshortcut)
    · split at h
      · cases h
      · obtain rfl := Option.some.inj h
        refine ⟨(not_or.mp hopen).2, ?_, ?_⟩
        · have hshort := hsublist.length_le.trans (List.takeWhile_sublist _).length_le
          exact Nat.lt_of_le_of_lt (hshort.trans hlength) (by decide)
        · intro c hc
          have hkept := List.mem_takeWhile_imp (hsublist.subset hc)
          exact of_decide_eq_true hkept
    · cases h

/-- Whatever refreshes of a live view come between, and in whatever pieces the input
comes: the terminal makes the requests of the complete lines that are typed before it is
closed, in order, and every one of them fits into a message. -/
theorem terminal_sends_lines (steps : List TerminalStep) :
    let requests := operatorTexts
      (run terminalStep (terminalStart, Line.empty) steps).1.requests
    requests = ((completeLines newline lineRoom (typed steps)).takeWhile
        fun line => ! quits line).filterMap asks ∧
      ∀ text ∈ requests, Sendable text := by
  intro requests
  have hrequests : requests = ((completeLines newline lineRoom (typed steps)).takeWhile
      fun line => ! quits line).filterMap asks := by
    have hlines := run_feed newline lineRoom requestProgram ([], false) (typed steps)
    have htexts := run_requests [] (completeLines newline lineRoom (typed steps))
    rw [List.nil_append] at htexts
    exact (run_typed _ steps).trans ((congrArg Prod.fst hlines).trans htexts)
  refine ⟨hrequests, fun text htext => ?_⟩
  rw [hrequests] at htext
  obtain ⟨line, hline, hasks⟩ := List.mem_filterMap.mp htext
  obtain ⟨typedText, -, rfl⟩ := List.mem_map.mp ((List.takeWhile_sublist _).subset hline)
  exact sendable_of_asks (List.length_take_le _ _) hasks

theorem commandWords_length {slots : Nat} {text : List UInt8} {parsed : List (List UInt8)}
    (h : commandWords slots text = some parsed) : ∀ word ∈ parsed, word.length ≤ text.length := by
  induction slots generalizing text parsed with
  | zero =>
      unfold commandWords at h
      split at h
      · obtain rfl := Option.some.inj h
        exact fun word hword => absurd hword List.not_mem_nil
      · cases h
  | succ slots ih =>
      unfold commandWords at h
      dsimp only at h
      split at h
      · obtain rfl := Option.some.inj h
        exact fun word hword => absurd hword List.not_mem_nil
      · obtain ⟨rest, hrest, rfl⟩ := Option.map_eq_some_iff.mp h
        have hdrop : (text.dropWhile isSpace).length ≤ text.length :=
          (List.dropWhile_suffix _).length_le
        intro word hword
        rcases List.mem_cons.mp hword with rfl | hword
        · exact (List.takeWhile_sublist _).length_le.trans hdrop
        · refine (ih hrest word hword).trans (le_trans ?_ hdrop)
          rw [List.length_drop]
          exact Nat.sub_le _ _

theorem long_of_denotes {parsed : List (List UInt8)} {command : OperatorCommand}
    {target : Option (Fin 6)} (h : Denotes parsed command target) :
    ∃ word ∈ parsed, 8 ≤ word.length := by
  cases h with
  | setAll hmode => rcases hmode with rfl | rfl <;> exact ⟨_, List.mem_cons_self, by decide⟩
  | set hmode _ => rcases hmode with rfl | rfl <;> exact ⟨_, List.mem_cons_self, by decide⟩
  | _ => exact ⟨_, List.mem_cons_self, by decide⟩

theorem long_of_parse {line : List UInt8} {parsed : TestMessage × Option (Fin 6)}
    (h : centralParseCommand line = some parsed) : 8 ≤ line.length := by
  unfold centralParseCommand at h
  dsimp only at h
  split at h
  · cases h
  · obtain ⟨tokens, hwords, hcommand⟩ := Option.bind_eq_some_iff.mp h
    obtain ⟨command, hdenotes, -⟩ := denotes_of_commandOf hcommand
    obtain ⟨word, hword, hlong⟩ := long_of_denotes hdenotes
    have hshort := commandWords_length hwords word hword
    exact hlong.trans (hshort.trans (List.takeWhile_sublist _).length_le)

theorem short_rejected (scheduleEnabled : Bool) {line : List UInt8} (hne : line ≠ [])
    (hshort : line.length ≤ 2) : entryOf scheduleEnabled line = .rejected .line := by
  have hword : ∀ {word : List UInt8}, 2 < word.length → line ≠ word := by
    rintro word hlong rfl
    omega
  have hlonger : ∀ {word : List UInt8}, 2 < word.length → ¬ word.isPrefixOf line = true := by
    intro word hlong h
    have hle := (List.isPrefixOf_iff_prefix.mp h).length_le
    omega
  have hview : (views.find? fun view => line = viewWord view) = none := by
    apply List.find?_eq_none.mpr
    intro view _
    rw [decide_eq_true_eq]
    cases view <;> exact hword (by decide)
  have hparse : centralParseCommand line = none := by
    cases hparse : centralParseCommand line with
    | none => rfl
    | some parsed =>
        have hlong := long_of_parse hparse
        omega
  unfold entryOf
  rw [if_neg hne, hview]
  dsimp only
  rw [if_neg (hword (by decide)), if_neg (not_or.mpr ⟨hword (by decide), hword (by decide)⟩),
    if_neg (hlonger (by decide)), if_neg (hlonger (by decide)), if_neg (hlonger (by decide)),
    hparse]

theorem short_of_shortcut {input : List UInt8} (h : translateShortcut input ≠ .forward) :
    0 < input.length ∧ input.length ≤ 2 := by
  have hlength : (input.map upper).length = input.length := List.length_map _
  rw [← hlength]
  unfold translateShortcut at h
  split at h
  · rename_i hmap
    rw [hmap]
    exact ⟨Nat.one_pos, Nat.le_succ 1⟩
  · rename_i hmap
    rw [hmap]
    exact ⟨Nat.two_pos, le_rfl⟩
  · exact absurd rfl h

/-- The command of a letter in front of a target. -/
def letterCommand (c : UInt8) : Option OperatorCommand :=
  if c = 70 then some (.set .fixed)
  else if c = 83 then some (.set .sensor)
  else if c = 65 then some (.simulate .start 0)
  else if c = 88 then some (.simulate .stop 0)
  else none

/-- The target of the second key. -/
inductive KeyTarget : UInt8 → Option (Fin 6) → Prop
  | all : KeyTarget 65 none
  | one (i : Fin 6) : KeyTarget (UInt8.ofNat (49 + i)) (some i)

theorem isTarget_targetWord : ∀ target, IsTarget (targetWord target) target
  | none => .all
  | some i => .one i

theorem doubleKey_target {c d : UInt8} {command : List UInt8} {target : Option (Fin 6)}
    (hcommand : letterPrefix c = some command) (h : KeyTarget d target) :
    doubleKey c d = .send (command ++ targetWord target) := by
  have hne : c ≠ 84 := by
    rintro rfl
    cases hcommand
  unfold doubleKey
  rw [if_neg hne, hcommand]
  cases h with
  | all => rfl
  | one i =>
      have hall : ∀ i : Fin 6, UInt8.ofNat (49 + i) ≠ 65 := by decide
      have hdigit : ∀ i : Fin 6, 49 ≤ UInt8.ofNat (49 + i) ∧ UInt8.ofNat (49 + i) ≤ 54 := by decide
      dsimp only
      rw [if_neg (hall i), if_pos (hdigit i)]
      rfl

/-- Central understands the line of a letter and a target as the command of the letter. -/
def Expands (scheduleEnabled : Bool) (line : List UInt8) (command : OperatorCommand)
    (target : Option (Fin 6)) : Prop :=
  ∃ message, entryOf scheduleEnabled line = .request message target ∧
    Denotes (words line) command target ∧ Prepared message target command

/-- Central takes a line as a command and reads a word and a target in it. -/
def Reads (line word : List UInt8) (target : Option (Fin 6)) : Prop :=
  (line.takeWhile (· ≠ 0) = line ∧ 8 < line.length ∧ line.length < 256) ∧
    (resumePrefix.isPrefixOf line = false ∧ trainPrefix.isPrefixOf line = false ∧
      delayPrefix.isPrefixOf line = false) ∧
    commandWords 4 line = some [word, targetWord target]

theorem commandWords_word {slots : Nat} {word rest : List UInt8} (hne : word ≠ [])
    (hword : ∀ c ∈ word, isSpace c = false) (hrest : ∀ c ∈ rest.head?, isSpace c = true) :
    commandWords (slots + 1) (word ++ rest) = (commandWords slots rest).map (word :: ·) := by
  have hdrop : (word ++ rest).dropWhile isSpace = word ++ rest := by
    cases word with
    | nil => exact absurd rfl hne
    | cons c word =>
        exact List.dropWhile_cons_of_neg (by simp [hword c List.mem_cons_self])
  have htake : (word ++ rest).takeWhile (fun c => ! isSpace c) = word := by
    rw [List.takeWhile_append_of_pos fun c hc => by simp [hword c hc]]
    cases rest with
    | nil => rw [List.takeWhile_nil, List.append_nil]
    | cons c rest =>
        rw [List.takeWhile_cons_of_neg (by simp [hrest c rfl]), List.append_nil]
  rw [commandWords]
  dsimp only
  rw [hdrop, if_neg (List.append_ne_nil_of_left_ne_nil hne _), htake, List.drop_left]

theorem commandWords_blank {slots : Nat} {text : List UInt8} :
    commandWords slots (32 :: text) = commandWords slots text := by
  have hdrop : (32 :: text).dropWhile isSpace = text.dropWhile isSpace :=
    List.dropWhile_cons_of_pos rfl
  cases slots with
  | zero => simp only [commandWords, hdrop]
  | succ slots => simp only [commandWords, hdrop]

theorem reads_word {word : List UInt8} {target : Option (Fin 6)}
    (hlength : 8 ≤ word.length ∧ word.length ≤ 11)
    (hword : ∀ c ∈ word, c ≠ 0 ∧ isSpace c = false)
    (hdistinct : resumePrefix.isPrefixOf (word ++ 32 :: targetWord target) = false ∧
      trainPrefix.isPrefixOf (word ++ 32 :: targetWord target) = false ∧
      delayPrefix.isPrefixOf (word ++ 32 :: targetWord target) = false) :
    Reads (word ++ 32 :: targetWord target) word target := by
  obtain ⟨⟨hmin, hmax⟩, htarget⟩ := targetWord_plain target
  have hne : word ≠ [] := List.ne_nil_of_length_pos (by omega)
  have hnonempty : targetWord target ≠ [] := List.ne_nil_of_length_pos (by omega)
  refine ⟨⟨?_, ?_, ?_⟩, hdistinct, ?_⟩
  · rw [List.takeWhile_eq_self_iff]
    intro c hc
    rw [decide_eq_true_eq]
    rcases List.mem_append.mp hc with hc | hc
    · exact (hword c hc).1
    · rcases List.mem_cons.mp hc with rfl | hc
      · decide
      · exact (htarget c hc).1
  · rw [List.length_append, List.length_cons]
    omega
  · rw [List.length_append, List.length_cons]
    omega
  · have hlast := @commandWords_word 2 (targetWord target) [] hnonempty
      (fun c hc => (htarget c hc).2) (fun c hc => by cases hc)
    rw [List.append_nil] at hlast
    rw [commandWords_word hne (fun c hc => (hword c hc).2) (by rintro c ⟨⟩; rfl),
      commandWords_blank, hlast]
    rfl

theorem reads_letters (target : Option (Fin 6)) :
    Reads (fixedPrefix ++ targetWord target) (setWord .fixed) target ∧
      Reads (sensorPrefix ++ targetWord target) (setWord .sensor) target ∧
      Reads (startPrefix ++ targetWord target)
        (ascii ['s', 'i', 'm', '-', 's', 't', 'a', 'r', 't']) target ∧
      Reads (stopPrefix ++ targetWord target)
        (ascii ['s', 'i', 'm', '-', 's', 't', 'o', 'p']) target := by
  have hfixed : ∀ c ∈ setWord .fixed, c ≠ 0 ∧ isSpace c = false := by decide +kernel
  have hsensor : ∀ c ∈ setWord .sensor, c ≠ 0 ∧ isSpace c = false := by decide +kernel
  have hstart : ∀ c ∈ ascii ['s', 'i', 'm', '-', 's', 't', 'a', 'r', 't'],
      c ≠ 0 ∧ isSpace c = false := by decide +kernel
  have hstop : ∀ c ∈ ascii ['s', 'i', 'm', '-', 's', 't', 'o', 'p'],
      c ≠ 0 ∧ isSpace c = false := by decide +kernel
  exact ⟨reads_word (by decide) hfixed ⟨rfl, rfl, rfl⟩,
    reads_word (by decide) hsensor ⟨rfl, rfl, rfl⟩,
    reads_word (by decide) hstart ⟨rfl, rfl, rfl⟩, reads_word (by decide) hstop ⟨rfl, rfl, rfl⟩⟩

theorem entryOf_command (scheduleEnabled : Bool) {line word : List UInt8}
    {target : Option (Fin 6)} (h : Reads line word target) :
    entryOf scheduleEnabled line =
      match commandOf [word, targetWord target] with
      | some (message, target) => .request message target
      | none => .rejected .line := by
  obtain ⟨⟨htext, hlong, hshort⟩, ⟨hresume, htrain, hdelay⟩, hwords⟩ := h
  have hword : ∀ {word : List UInt8}, word.length ≤ 8 → line ≠ word := by
    rintro word hle rfl
    omega
  have hview : (views.find? fun view => line = viewWord view) = none := by
    apply List.find?_eq_none.mpr
    intro view _
    rw [decide_eq_true_eq]
    cases view <;> exact hword (by decide)
  have hparse : centralParseCommand line = commandOf [word, targetWord target] := by
    unfold centralParseCommand
    dsimp only
    rw [htext, if_neg (not_le.mpr hshort), hwords, Option.bind_some]
  unfold entryOf
  rw [if_neg (hword (by decide)), hview]
  dsimp only
  rw [if_neg (hword (by decide)), if_neg (not_or.mpr ⟨hword (by decide), hword (by decide)⟩),
    hresume, htrain, hdelay, hparse]
  rfl

theorem parseTarget_targetWord (target : Option (Fin 6)) :
    parseTarget (targetWord target) = some target := by
  cases target with
  | none => decide
  | some i =>
      revert i
      decide

theorem expands_of_reads (scheduleEnabled : Bool) {line word : List UInt8}
    {target : Option (Fin 6)} {command : OperatorCommand} (make : Option (Fin 6) → TestMessage)
    (h : Reads line word target)
    (hcommand : commandOf [word, targetWord target] =
      (parseTarget (targetWord target)).map fun target => (make target, target))
    (hdenotes : Denotes [word, targetWord target] command target)
    (hprepared : Prepared (make target) target command) :
    Expands scheduleEnabled line command target := by
  have hentry := entryOf_command scheduleEnabled h
  rw [hcommand, parseTarget_targetWord] at hentry
  exact ⟨make target, hentry, (words_of_commandWords h.2.2).symm ▸ hdenotes, hprepared⟩

theorem prepared_set (mode : TrafficLightMode) (target : Option (Fin 6)) :
    Prepared (modeMessage mode.toByte cmdSetMode 0) target (.set mode) :=
  ⟨toLocal_commandMessage _ _, contentOf_modeMessage _ _ _⟩

theorem prepared_simulate {action : CentralSimAction} (target : Option (Fin 6)) :
    Prepared (simulationMessage target action 0) target (.simulate action 0) :=
  ⟨toLocal_commandMessage _ _, contentOf_simulationMessage target (Nat.zero_le _) fun _ => rfl⟩

theorem expands_letter (scheduleEnabled : Bool) {c : UInt8} {command : OperatorCommand}
    (h : letterCommand c = some command) (target : Option (Fin 6)) :
    ∃ text, letterPrefix c = some text ∧
      Expands scheduleEnabled (text ++ targetWord target) command target := by
  obtain ⟨hfixed, hsensor, hstart, hstop⟩ := reads_letters target
  have htarget := isTarget_targetWord target
  unfold letterCommand at h
  split_ifs at h with hF hS hA hX
  · obtain rfl := Option.some.inj h
    subst hF
    exact ⟨fixedPrefix, rfl, expands_of_reads scheduleEnabled
      (fun _ => modeMessage TrafficLightMode.fixed.toByte cmdSetMode 0) hfixed rfl
      (.set (Or.inl rfl) htarget) (prepared_set .fixed _)⟩
  · obtain rfl := Option.some.inj h
    subst hS
    exact ⟨sensorPrefix, rfl, expands_of_reads scheduleEnabled
      (fun _ => modeMessage TrafficLightMode.sensor.toByte cmdSetMode 0) hsensor rfl
      (.set (Or.inr rfl) htarget) (prepared_set .sensor _)⟩
  · obtain rfl := Option.some.inj h
    subst hA
    exact ⟨startPrefix, rfl, expands_of_reads scheduleEnabled
      (fun target => simulationMessage target .start 0) hstart rfl (.simStart htarget)
      (prepared_simulate _)⟩
  · obtain rfl := Option.some.inj h
    subst hX
    exact ⟨stopPrefix, rfl, expands_of_reads scheduleEnabled
      (fun target => simulationMessage target .stop 0) hstop rfl (.simStop htarget)
      (prepared_simulate _)⟩

/-! ### Shortcuts extend the commands -/

/-- A line that shows something, asks the Train or is a request for Locals. -/
inductive Understood : Entry → Prop
  | view (view : View) : Understood (.view view)
  | train (payload : Data) : Understood (.train payload)
  | request (message : TestMessage) (target : Option (Fin 6)) :
      Understood (.request message target)

theorem understood_letter (scheduleEnabled : Bool) {c : UInt8} {text : List UInt8}
    (h : letterPrefix c = some text) (target : Option (Fin 6)) :
    Understood (entryOf scheduleEnabled (text ++ targetWord target)) := by
  have hcommand : ∃ command, letterCommand c = some command := by
    unfold letterPrefix at h
    unfold letterCommand
    split_ifs at h ⊢ <;> exact ⟨_, rfl⟩
  obtain ⟨command, hcommand⟩ := hcommand
  obtain ⟨text', htext', message, hentry, -⟩ := expands_letter scheduleEnabled hcommand target
  obtain rfl := Option.some.inj (htext'.symm.trans h)
  rw [hentry]
  exact .request message target

theorem understood_train (scheduleEnabled : Bool) {op : TrainOperation}
    (htokens : tokenize false op.text = some [op.text]) (hnames : Names [op.text] op)
    (hfault : ∀ i, op ≠ .fault i) :
    Understood (entryOf scheduleEnabled (trainPrefix ++ op.text)) := by
  have hguard : ¬ injectsFault (dataOfBytes op.text) = true := by
    rw [injectsFault_iff (valid_of_names hnames)]
    exact fun ⟨i, hop⟩ => hfault i hop
  rw [entryOf_train, trainEntry_of_names htokens hnames, if_neg hguard]
  exact .train _

theorem understood_of_shortcut (scheduleEnabled : Bool) {text : List UInt8}
    (h : ShortcutText text) : Understood (entryOf scheduleEnabled text) := by
  cases h with
  | view view => cases view <;> exact .view _
  | train hop =>
      rcases hop with rfl | rfl | rfl
      · exact understood_train scheduleEnabled (by decide) (.line .up) (by simp)
      · exact understood_train scheduleEnabled (by decide) (.line .down) (by simp)
      · exact understood_train scheduleEnabled (by decide) .status (by simp)
  | all hcommand => exact understood_letter scheduleEnabled hcommand none
  | one hcommand i => exact understood_letter scheduleEnabled hcommand (some i)

/-- No shortcut hides a line that means something to Central. What a shortcut sends Central
understands, and a letter with a target as the command of the letter for that target. -/
theorem shortcuts_extend_commands (scheduleEnabled : Bool) :
    (∀ line, entryOf scheduleEnabled line ≠ .rejected .line →
      translateShortcut line = .forward) ∧
    (∀ line text, translateShortcut line = .send text →
      Understood (entryOf scheduleEnabled text)) ∧
    ∀ c d command target, letterCommand (upper c) = some command → KeyTarget (upper d) target →
      ∃ text, translateShortcut [c, d] = .send text ∧
        Expands scheduleEnabled text command target := by
  refine ⟨?_, fun line text h => understood_of_shortcut scheduleEnabled (shortcutText_of_send h),
    ?_⟩
  · intro line h
    by_contra hshortcut
    obtain ⟨hpos, hshort⟩ := short_of_shortcut hshortcut
    exact h (short_rejected scheduleEnabled (List.ne_nil_of_length_pos hpos) hshort)
  · intro c d command target hcommand htarget
    obtain ⟨text, htext, hexpands⟩ := expands_letter scheduleEnabled hcommand target
    exact ⟨text ++ targetWord target, doubleKey_target htext htarget, hexpands⟩

end TrafficLight.OperatorTerminal
