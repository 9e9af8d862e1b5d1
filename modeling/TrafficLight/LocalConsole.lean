import TrafficLight.Decimal
import TrafficLight.Runs

/-!
The console for the Locals, from `local_ui.c` with `core_call` and `exchange` of
`local_process.c`. Processes come and go under the name of a core; the console sends an
input only over a connection on which a process has just named itself as the one that is
selected, and never again when no answer comes.
-/

namespace TrafficLight.LocalConsole

open TrafficLight.Runs
open TrafficLight.Decimal

/-- How a call goes: the process behind the name if it has to be opened, whether the time
limit of the request can be set, and the status in the answer if one comes. -/
structure Call (P : Type) where
  opened : Option P
  limited : Bool
  answered : Option Int

section Calls

variable {P : Type}

/-- The process that a request goes to. Without a time limit nothing is sent. -/
def reached (connection : Option P) (call : Call P) : Option P :=
  if call.limited then connection <|> call.opened else none

/-- The connection after `core_call`. Only a request that was sent and is not answered
closes it. -/
def coreCall (connection : Option P) (call : Call P) : Option P :=
  if call.limited = true ∧ call.answered = none then none else connection <|> call.opened

/-- The answer to a snapshot request is accepted, with the number it must carry. -/
def accepted (identity : P → Nat) (i : Fin 6) (connection : Option P) (call : Call P) : Bool :=
  match reached connection call, call.answered with
  | some process, some status => status = 0 && identity process = i.val
  | _, _ => false

end Calls

/-- An input that was sent, whether or not an answer came. -/
structure SentInput (P : Type) where
  process : P
  text : List UInt8
  target : Fin 6

/-- `console_t`, with the variables of the loop and the inputs that were sent. -/
structure Console (P : Type) where
  selected : Option (Fin 6)
  connections : Fin 6 → Option P
  online : Fin 6 → Bool
  input : List UInt8
  nextRefresh : Nat
  running : Bool
  stopping : Bool
  sent : List (SentInput P)

def consoleStart {P : Type} (selected : Option (Fin 6)) : Console P :=
  { selected
    connections := fun _ => none
    online := fun _ => false
    input := []
    nextRefresh := 0
    running := true
    stopping := false
    sent := [] }

/-- A round of snapshots: how the calls go, and how many turns the loop makes before a
signal ends it. -/
structure Round (P : Type) where
  call : Fin 6 → Call P
  turns : Nat

/-- One turn of the main loop: the clock at its top and after the snapshots, the character
that is read, the calls of a command, and whether the loop is told to end. -/
structure Turn (P : Type) where
  now : Nat
  later : Nat
  snapshots : Round P
  read : Option UInt8
  check : Round P
  inputCall : Call P
  ends : Bool

def inputSize : Nat := 64

def viewPrefix : List UInt8 := ascii ['v', 'i', 'e', 'w', ' ']

/-- `local_ui_parse_view` -/
def parseView (command : List UInt8) : Option (Option (Fin 6)) :=
  if command = viewPrefix ++ ascii ['a', 'l', 'l'] then some none
  else
    match command with
    | [v, i, e, w, blank, letter, number] =>
        if h : [v, i, e, w, blank] = viewPrefix ∧ (letter = 73 ∨ letter = 105) ∧
            49 ≤ number.toNat ∧ number.toNat ≤ 54 then
          some (some ⟨number.toNat - 49, by omega⟩)
        else none
    | _ => none

/-- `valid_input` -/
def validInput : List UInt8 → Bool
  | [key] => key ∈ ascii ['m', 'n', 'e', 'x', 'z', '1', '2', 'c', 'r', 'p', 'o', 'l']
  | _ => false

def quitWords : List (List UInt8) :=
  [ascii ['q'], ascii ['q', 'u', 'i', 't'], ascii ['e', 'x', 'i', 't']]

section Loop

variable {P : Type} (identity : P → Nat)

/-- The turn of a round for a Local is made, and the Local is shown. -/
def polled (s : Console P) (round : Round P) (i : Fin 6) : Prop :=
  s.stopping = false ∧ i.val < round.turns ∧ (s.selected = none ∨ s.selected = some i)

instance (s : Console P) (round : Round P) (i : Fin 6) : Decidable (polled s round i) :=
  inferInstanceAs (Decidable (_ ∧ _ ∧ _))

/-- `refresh_snapshots` -/
def refreshSnapshots (s : Console P) (round : Round P) : Console P :=
  { s with
    connections := fun i =>
      if polled s round i then coreCall (s.connections i) (round.call i) else s.connections i
    online := fun i =>
      if polled s round i then accepted identity i (s.connections i) (round.call i)
      else s.online i
    stopping := s.stopping || decide (round.turns < 6) }

/-- The end of `submit_command`. -/
def sendInput (s : Console P) (target : Fin 6) (call : Call P) : Console P :=
  { s with
    connections :=
      Function.update s.connections target (coreCall (s.connections target) call)
    sent :=
      match reached (s.connections target) call with
      | some process => s.sent ++ [⟨process, s.input, target⟩]
      | none => s.sent }

/-- `submit_command` -/
def submitCommand (s : Console P) (check : Round P) (inputCall : Call P) : Console P :=
  if s.input ∈ quitWords then { s with running := false }
  else
    match parseView s.input with
    | some selected => { s with selected }
    | none =>
        if validInput s.input = false then s
        else
          match s.selected with
          | none => s
          | some target =>
              let s := refreshSnapshots identity s check
              if s.online target then sendInput s target inputCall else s

/-- A character that was read. -/
def character (s : Console P) (turn : Turn P) (c : UInt8) : Console P :=
  if c = 10 ∨ c = 13 then
    { submitCommand identity s turn.check turn.inputCall with
      input := []
      nextRefresh := 0 }
  else if c = 4 ∧ s.input = [] then { s with running := false }
  else if c = 8 ∨ c = 127 then { s with input := s.input.dropLast }
  else if 32 ≤ c ∧ c ≤ 126 ∧ s.input.length + 1 < inputSize then
    { s with input := s.input ++ [c] }
  else s

/-- The top of the loop. -/
def refreshWhenDue (s : Console P) (turn : Turn P) : Console P :=
  if s.nextRefresh ≤ turn.now then
    { refreshSnapshots identity s turn.snapshots with nextRefresh := turn.later }
  else s

/-- One turn of the loop of `run_ui`. -/
def consoleTurn (s : Console P) (turn : Turn P) : Console P :=
  if s.running = false ∨ s.stopping = true then s
  else
    let s := refreshWhenDue identity s turn
    let s :=
      match turn.read with
      | some c => character identity s turn c
      | none => s
    { s with stopping := s.stopping || turn.ends }

/-- The connection leads to the process with the number of the Local. -/
def Verified (s : Console P) (i : Fin 6) : Prop :=
  ∃ process, s.connections i = some process ∧ identity process = i.val

/-- Every Local that counts as online is connected. -/
def Steady (s : Console P) : Prop := ∀ i, s.online i = true → Verified identity s i

/-- An input was not answered: its Local is polled again before a character is read. -/
structure Pending (s : Console P) : Prop where
  input : s.input = []
  due : s.nextRefresh = 0
  others : ∃ target, s.selected = some target ∧
    ∀ i, i ≠ target → s.online i = true → Verified identity s i

/-- What holds between two turns of the loop. -/
structure Sound (s : Console P) : Prop where
  sent : ∀ input ∈ s.sent, identity input.process = input.target.val ∧
    validInput input.text = true
  state : s.stopping = true ∨ Steady identity s ∨ Pending identity s

variable {identity}

theorem verified_of_accepted {i : Fin 6} {connection : Option P} {call : Call P}
    (h : accepted identity i connection call = true) :
    ∃ process, coreCall connection call = some process ∧ identity process = i.val := by
  unfold accepted at h
  split at h
  · rename_i process status hreached hanswered
    rw [Bool.and_eq_true, decide_eq_true_eq, decide_eq_true_eq] at h
    refine ⟨process, ?_, h.2⟩
    have hopen : ¬(call.limited = true ∧ call.answered = none) := by
      rw [hanswered]
      exact fun hlost => Option.some_ne_none status hlost.2
    rw [coreCall, if_neg hopen]
    unfold reached at hreached
    split at hreached
    · exact hreached
    · cases hreached
  · cases h

theorem verified_refresh {s : Console P} {round : Round P} {i : Fin 6}
    (h : polled s round i ∨ (s.online i = true → Verified identity s i))
    (honline : (refreshSnapshots identity s round).online i = true) :
    Verified identity (refreshSnapshots identity s round) i := by
  unfold refreshSnapshots Verified at *
  dsimp only at honline ⊢
  by_cases hpolled : polled s round i
  · rw [if_pos hpolled] at honline ⊢
    exact verified_of_accepted honline
  · rw [if_neg hpolled] at honline ⊢
    exact (h.resolve_left hpolled) honline

theorem steady_refresh {s : Console P} (h : Steady identity s) (round : Round P) :
    Steady identity (refreshSnapshots identity s round) := fun i honline =>
  verified_refresh (Or.inr (h i)) honline

theorem Steady.congr {s s' : Console P} (h : Steady identity s)
    (hconnections : s'.connections = s.connections) (honline : s'.online = s.online) :
    Steady identity s' := by
  unfold Steady Verified at *
  rw [hconnections, honline]
  exact h

/-- The inputs that were sent have arrived where they should. -/
def SentRight (identity : P → Nat) (sent : List (SentInput P)) : Prop :=
  ∀ input ∈ sent, identity input.process = input.target.val ∧ validInput input.text = true

theorem sendInput_right {s : Console P} {target : Fin 6} (hsent : SentRight identity s.sent)
    (htarget : Verified identity s target) (hvalid : validInput s.input = true)
    (call : Call P) : SentRight identity (sendInput s target call).sent := by
  obtain ⟨process, hconnection, hidentity⟩ := htarget
  unfold sendInput reached
  dsimp only
  rw [hconnection]
  cases call.limited with
  | false => exact hsent
  | true =>
      intro input hinput
      rcases List.mem_append.mp hinput with hold | hnew
      · exact hsent input hold
      · rw [List.mem_singleton.mp hnew]
        exact ⟨hidentity, hvalid⟩

theorem submitCommand_right {s : Console P} (hsent : SentRight identity s.sent)
    (h : Steady identity s) (check : Round P) (inputCall : Call P) :
    SentRight identity (submitCommand identity s check inputCall).sent ∧
      (Steady identity (submitCommand identity s check inputCall) ∨
        ∃ target, (submitCommand identity s check inputCall).selected = some target ∧
          ∀ i, i ≠ target → (submitCommand identity s check inputCall).online i = true →
            Verified identity (submitCommand identity s check inputCall) i) := by
  unfold submitCommand
  split
  · exact ⟨hsent, .inl (h.congr rfl rfl)⟩
  split
  · exact ⟨hsent, .inl (h.congr rfl rfl)⟩
  split
  · exact ⟨hsent, .inl h⟩
  rename_i hvalid
  rw [Bool.not_eq_false] at hvalid
  split
  · exact ⟨hsent, .inl h⟩
  rename_i target hselected
  have hchecked := steady_refresh h check
  dsimp only
  split
  · rename_i honline
    have hkept : SentRight identity (refreshSnapshots identity s check).sent := hsent
    refine ⟨sendInput_right hkept (hchecked target honline) hvalid inputCall,
      .inr ⟨target, hselected, ?_⟩⟩
    intro i hi hother
    obtain ⟨process, hconnection, hidentity⟩ := hchecked i hother
    refine ⟨process, ?_, hidentity⟩
    unfold sendInput
    dsimp only
    rw [Function.update_of_ne hi]
    exact hconnection
  · exact ⟨hsent, .inl hchecked⟩

theorem submitCommand_empty {s : Console P} (h : s.input = []) (check : Round P)
    (inputCall : Call P) : submitCommand identity s check inputCall = s := by
  unfold submitCommand
  rw [h]
  rfl

theorem character_right {s : Console P} (hsent : SentRight identity s.sent)
    (h : Steady identity s) (turn : Turn P) (c : UInt8) :
    SentRight identity (character identity s turn c).sent ∧
      (Steady identity (character identity s turn c) ∨
        Pending identity (character identity s turn c)) := by
  unfold character
  split
  · obtain ⟨hright, hstate⟩ := submitCommand_right hsent h turn.check turn.inputCall
    exact ⟨hright, hstate.imp (fun hsteady => hsteady.congr rfl rfl)
      fun hothers => ⟨rfl, rfl, hothers⟩⟩
  split
  · exact ⟨hsent, .inl (h.congr rfl rfl)⟩
  split
  · exact ⟨hsent, .inl (h.congr rfl rfl)⟩
  split
  · exact ⟨hsent, .inl (h.congr rfl rfl)⟩
  · exact ⟨hsent, .inl h⟩

theorem character_empty {s : Console P} (h : s.input = []) (turn : Turn P) (c : UInt8) :
    (character identity s turn c).sent = s.sent ∧
      (character identity s turn c).stopping = s.stopping := by
  unfold character
  rw [submitCommand_empty h]
  split
  · exact ⟨rfl, rfl⟩
  split
  · exact ⟨rfl, rfl⟩
  split
  · exact ⟨rfl, rfl⟩
  split
  · exact ⟨rfl, rfl⟩
  · exact ⟨rfl, rfl⟩

/-- After the top of the loop nothing is in doubt, unless the loop is about to end with no
input typed. -/
theorem refreshWhenDue_state {s : Console P} (hrunning : s.stopping = false)
    (h : Steady identity s ∨ Pending identity s) (turn : Turn P) :
    Steady identity (refreshWhenDue identity s turn) ∨
      (refreshWhenDue identity s turn).input = [] ∧
        (refreshWhenDue identity s turn).stopping = true := by
  unfold refreshWhenDue
  rcases h with hsteady | hpending
  · split
    · exact .inl ((steady_refresh hsteady turn.snapshots).congr rfl rfl)
    · exact .inl hsteady
  · obtain ⟨target, hselected, hothers⟩ := hpending.others
    rw [if_pos (hpending.due ▸ Nat.zero_le _)]
    by_cases hpolled : target.val < turn.snapshots.turns
    · left
      have hsteady : Steady identity (refreshSnapshots identity s turn.snapshots) := by
        intro i honline
        refine verified_refresh ?_ honline
        by_cases hi : i = target
        · exact .inl ⟨hrunning, hi ▸ hpolled, .inr (hi ▸ hselected)⟩
        · exact .inr (hothers i hi)
      exact hsteady.congr rfl rfl
    · right
      refine ⟨hpending.input, ?_⟩
      show (s.stopping || decide (turn.snapshots.turns < 6)) = true
      have hcut : turn.snapshots.turns < 6 :=
        Nat.lt_of_le_of_lt (Nat.le_of_not_lt hpolled) target.isLt
      rw [decide_eq_true hcut, Bool.or_true]

theorem refreshWhenDue_sent (s : Console P) (turn : Turn P) :
    (refreshWhenDue identity s turn).sent = s.sent := by
  unfold refreshWhenDue
  split
  · rfl
  · rfl

theorem Sound.turn {s : Console P} (h : Sound identity s) (turn : Turn P) :
    Sound identity (consoleTurn identity s turn) := by
  unfold consoleTurn
  split
  · exact h
  rename_i hgoes
  obtain ⟨-, hstopping⟩ := not_or.mp hgoes
  rw [Bool.not_eq_true] at hstopping
  have hopen : Steady identity s ∨ Pending identity s :=
    h.state.resolve_left (by rw [hstopping]; exact Bool.false_ne_true)
  have hsent : SentRight identity (refreshWhenDue identity s turn).sent := by
    rw [refreshWhenDue_sent]
    exact h.sent
  have htop := refreshWhenDue_state hstopping hopen turn
  dsimp only
  generalize refreshWhenDue identity s turn = top at hsent htop
  cases turn.read with
  | none =>
      refine ⟨hsent, ?_⟩
      rcases htop with hsteady | ⟨-, hstop⟩
      · exact .inr (.inl (hsteady.congr rfl rfl))
      · left
        show (top.stopping || turn.ends) = true
        rw [hstop, Bool.true_or]
  | some c =>
      dsimp only
      rcases htop with hsteady | ⟨hempty, hstop⟩
      · obtain ⟨hright, hstate⟩ := character_right hsent hsteady turn c
        refine ⟨hright, .inr ?_⟩
        exact hstate.imp (fun hsteady => hsteady.congr rfl rfl)
          fun hpending => ⟨hpending.input, hpending.due, hpending.others⟩
      · obtain ⟨hsame, hstays⟩ := @character_empty P identity top hempty turn c
        refine ⟨?_, .inl ?_⟩
        · show SentRight identity (character identity top turn c).sent
          rw [hsame]
          exact hsent
        · show ((character identity top turn c).stopping || turn.ends) = true
          rw [hstays, hstop, Bool.true_or]

theorem sound_start (selected : Option (Fin 6)) :
    Sound identity (consoleStart selected) where
  sent _ hinput := absurd hinput List.not_mem_nil
  state := .inr (.inl fun _ honline => absurd honline Bool.false_ne_true)

end Loop

end TrafficLight.LocalConsole
