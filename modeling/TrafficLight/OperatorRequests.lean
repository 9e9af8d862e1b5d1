import TrafficLight.AllOrNothing
import TrafficLight.TrainCommands

namespace TrafficLight.OperatorRequests

open TrafficLight.Runs
open TrafficLight.Protocol
open TrafficLight.Decimal
open TrafficLight.CentralCommands
open TrafficLight.CentralMonitor
open TrafficLight.SimCommands
open TrafficLight.TrainCommands
open TrafficLight.RingQueue
open TrafficLight.CommandQueue
open TrafficLight.QueueOperations
open TrafficLight.CommandAdmission
open TrafficLight.QueueOrder
open TrafficLight.CommandCycles
open TrafficLight.AllOrNothing

/-- The words of a command, if there is room for them. -/
def commandWords : Nat → List UInt8 → Option (List (List UInt8))
  | 0, text => if text.dropWhile isSpace = [] then some [] else none
  | slots + 1, text =>
      let text := text.dropWhile isSpace
      if text = [] then some []
      else
        let word := text.takeWhile fun c => ! isSpace c
        (commandWords slots (text.drop word.length)).map (word :: ·)

/-- `parse_target`, with no number for all intersections. -/
def parseTarget (text : List UInt8) : Option (Option (Fin 6)) :=
  if text = ascii ['a', 'l', 'l'] then some none
  else
    match text with
    | [73, c] =>
        if h : 49 ≤ c.toNat ∧ c.toNat ≤ 54 then some (some ⟨c.toNat - 49, by omega⟩) else none
    | _ => none

def parseMode (text : List UInt8) : Option UInt8 :=
  if text = ascii ['f', 'i', 'x', 'e', 'd'] then some TrafficLightMode.fixed.toByte
  else if text = ascii ['s', 'e', 'n', 's', 'o', 'r'] then some TrafficLightMode.sensor.toByte
  else none

def parsePhase (text : List UInt8) : Option UInt8 :=
  if text = ascii ['N', 'S'] then some Phase.nsGreen.toByte
  else if text = ascii ['E', 'W'] then some Phase.ewGreen.toByte
  else none

/-- `parse_simulation_time` -/
def parseSimulationTime : List UInt8 → Option Nat
  | [h₁, h₂, colon, m₁, m₂] =>
      if colon = 58 ∧ isDigit h₁ ∧ isDigit h₂ ∧ isDigit m₁ ∧ isDigit m₂ then
        let hours := (h₁ - 48).toNat * 10 + (h₂ - 48).toNat
        let minutes := (m₁ - 48).toNat * 10 + (m₂ - 48).toNat
        if hours > 23 ∨ minutes > 59 then none else some (hours * 60 + minutes)
      else none
  | _ => none

/-- `initialize_message` with a payload -/
def commandMessage (type : UInt16) (payload : List UInt8) : TestMessage :=
  frameOf type controllerCentral controllerLocal payload

def modeMessage (newMode action : UInt8) (durationSec : UInt16) : TestMessage :=
  commandMessage msgModeCommand
    (ModeCmdMsg.toBytes ⟨0, newMode, action, cmdPrioOperator, durationSec, 0⟩)

/-- A SIM1 command of the operator. -/
def simulationMessage (target : Option (Fin 6)) (action : CentralSimAction) (minute : Nat) :
    TestMessage :=
  simulationEncode (commandMessage msgTest [])
    ⟨(target.map Fin.val).getD intersectionAll.toNat, 0, action, minute⟩

/-- The message for the words of a command. -/
def commandOf : List (List UInt8) → Option (TestMessage × Option (Fin 6))
  | [] => none
  | word :: arguments =>
      if word = ascii ['m', 'o', 'd', 'e', '-', 'f', 'i', 'x', 'e', 'd'] ∨
          word = ascii ['m', 'o', 'd', 'e', '-', 's', 'e', 'n', 's', 'o', 'r'] then
        let mode := if word = ascii ['m', 'o', 'd', 'e', '-', 'f', 'i', 'x', 'e', 'd'] then
          TrafficLightMode.fixed.toByte else TrafficLightMode.sensor.toByte
        match arguments with
        | [] => some (modeMessage mode cmdSetMode 0, none)
        | [targetText] =>
            (parseTarget targetText).map fun target => (modeMessage mode cmdSetMode 0, target)
        | _ => none
      else if word = ascii ['m', 'o', 'd', 'e', '-', 't', 'e', 'm', 'p'] then
        match arguments with
        | [targetText, modeText, secondsText] => do
            let target ← parseTarget targetText
            let seconds ← parseNumber secondsText 1 65535
            let mode ← parseMode modeText
            some (modeMessage mode cmdTemporary (UInt16.ofNat seconds), target)
        | _ => none
      else if word = ascii ['m', 'o', 'd', 'e', '-', 'r', 'e', 'v', 'e', 'r', 't'] then
        match arguments with
        | [targetText] =>
            (parseTarget targetText).map fun target => (modeMessage 0 cmdRevert 0, target)
        | _ => none
      else if word = ascii ['c', 'o', 'o', 'r', 'd', 'i', 'n', 'a', 't', 'e'] then
        match arguments with
        | [targetText, phaseText, secondsText] => do
            let target ← parseTarget targetText
            let seconds ← parseNumber secondsText 0 (coordinationMaxCycleSec - 1)
            let phase ← parsePhase phaseText
            some (commandMessage msgCoordinationCommand
              (CoordinationCommandMsg.toBytes
                ⟨0, TrafficLightMode.fixed.toByte, phase, 0, UInt16.ofNat seconds, 0⟩), target)
        | _ => none
      else if word = ascii ['s', 'i', 'm', '-', 's', 't', 'a', 'r', 't'] ∨
          word = ascii ['s', 'i', 'm', '-', 's', 't', 'o', 'p'] then
        let action := if word = ascii ['s', 'i', 'm', '-', 's', 't', 'a', 'r', 't'] then
          CentralSimAction.start else .stop
        match arguments with
        | [targetText] =>
            (parseTarget targetText).map fun target =>
              (simulationMessage target action 0, target)
        | _ => none
      else if word = ascii ['s', 'i', 'm', '-', 't', 'i', 'm', 'e'] then
        match arguments with
        | [targetText, timeText] => do
            let target ← parseTarget targetText
            let minute ← parseSimulationTime timeText
            some (simulationMessage target .time minute, target)
        | _ => none
      else none

/-- `central_parse_command` on the bytes up to the first NUL. -/
def centralParseCommand (line : List UInt8) : Option (TestMessage × Option (Fin 6)) :=
  let text := line.takeWhile (· ≠ 0)
  if text.length ≥ 256 then none else (commandWords 4 text).bind commandOf

def uint64Max : Nat := 2 ^ 64 - 1

/-- When an override noted now ends; no result is a refused note. -/
def overrideEnd (action mode : UInt8) (durationSec now : Nat) : Option Nat :=
  if action = cmdSetMode ∨ action = cmdTemporary then
    if mode ≠ TrafficLightMode.fixed.toByte ∧ mode ≠ TrafficLightMode.sensor.toByte then none
    else if action = cmdSetMode then if durationSec ≠ 0 then none else some 0
    else if durationSec = 0 ∨ durationSec > 65535 ∨
        now > uint64Max - durationSec * centralNsec then none
    else some (now + durationSec * centralNsec)
  else if action ≠ cmdRevert ∨ durationSec ≠ 0 then none
  else some 0

/-- `central_policy_note_operator` -/
def noteOperator (policy : OperatorPolicy) (target : Option (Fin 6)) (action mode : UInt8)
    (durationSec now : Nat) : OperatorPolicy :=
  match overrideEnd action mode durationSec now with
  | none => policy
  | some expires =>
      { persistentActive := fun i =>
          if covers target i ∧ action = cmdSetMode then true else policy.persistentActive i
        persistentMode := fun i =>
          if covers target i ∧ action = cmdSetMode then mode else policy.persistentMode i
        temporaryMode := fun i =>
          if covers target i ∧ action = cmdTemporary then mode else policy.temporaryMode i
        temporaryUntilNs := fun i =>
          if covers target i then expires else policy.temporaryUntilNs i }

/-- `central_policy_resume_schedule` -/
def resumeSchedule (policy : OperatorPolicy) (target : Option (Fin 6)) : OperatorPolicy :=
  { policy with
    persistentActive := fun i => if covers target i then false else policy.persistentActive i
    temporaryUntilNs := fun i => if covers target i then 0 else policy.temporaryUntilNs i }

/-- `central_policy_operator_active` -/
def operatorActive (policy : OperatorPolicy) (i : Fin 6) (now : Nat) : Bool :=
  policy.persistentActive i || decide (policy.temporaryUntilNs i > now)

/-- The readings of the clock in the three parts of a request. -/
structure Clock where
  cancel : Nat
  enqueue : Nat
  note : Nat

/-- What a queued mode request leaves in the operator's variables. -/
def noteRequest (s : Central) (message : TestMessage) (target : Option (Fin 6)) (now : Nat) :
    Central :=
  if message.header.type = msgModeCommand then
    let command := ModeCmdMsg.ofData message.data
    { s with
      operatorPolicy := noteOperator s.operatorPolicy target command.action command.newMode
        command.durationSec.toNat now
      scheduledMode := fun i => if covers target i then none else s.scheduledMode i }
  else s

/-- The branch of `execute_command` for a line that `central_parse_command`
accepts. -/
def executeRequest (routes : Routes) (s : Central) (message : TestMessage)
    (target : Option (Fin 6)) (clock : Clock) : Option Enqueued :=
  let s := if message.header.type ≠ msgTest then cancelAutomatic routes s target clock.cancel
    else s
  (enqueueCommand routes s message target 0 false clock.enqueue).map fun enqueued =>
    if enqueued.refusal = none then
      { enqueued with central := noteRequest enqueued.central message target clock.note }
    else enqueued

/-- `execute_command` on a line that is a request. -/
def executeLine (routes : Routes) (s : Central) (line : List UInt8) (clock : Clock) :
    Option Enqueued :=
  match centralParseCommand line with
  | some (message, target) => executeRequest routes s message target clock
  | none => none

/-- Queues, records, counters and the operator's variables are the same. -/
structure Unchanged (s s' : Central) : Prop where
  queue : s'.queue = s.queue
  commands : s'.commands = s.commands
  commandNext : s'.commandNext = s.commandNext
  nextId : s'.nextId = s.nextId
  policyCommand : s'.policyCommand = s.policyCommand
  policyAck : s'.policyAck = s.policyAck
  scheduledMode : s'.scheduledMode = s.scheduledMode
  operatorPolicy : s'.operatorPolicy = s.operatorPolicy

/-- No schedule request for the target waits in a queue. -/
def NoneWaiting (routes : Routes) (s : Central) (target : Option (Fin 6)) : Prop :=
  ∀ peer : Fin 8, peer.val < routes.peerCount → ∀ work ∈ entries s peer, ∀ slot,
    findCommand s work.id = some slot →
      ¬ ((s.commands slot).automatic = true ∧ covers target (s.commands slot).target = true)

variable {routes : Routes} {s : Central}

theorem keeps_of_noneWaiting {target : Option (Fin 6)} (h : NoneWaiting routes s target)
    {peer : Fin 8} (hpeer : peer.val < routes.peerCount) :
    ∀ work ∈ (s.queue peer).view, keeps s target work = true := by
  intro work hwork
  rw [keeps_eq, Bool.not_eq_true', decide_eq_false_iff_not]
  rintro ⟨slot, hfind, hautomatic, htarget⟩
  exact h peer hpeer work hwork slot hfind ⟨hautomatic, decide_eq_true htarget⟩

theorem noneWaiting_of_keeps {target : Option (Fin 6)}
    (h : ∀ peer : Fin 8, peer.val < routes.peerCount →
      ∀ work ∈ (s.queue peer).view, keeps s target work = true) :
    NoneWaiting routes s target := by
  rintro peer hpeer work hwork slot hfind ⟨hautomatic, hcovers⟩
  have hkeeps := h peer hpeer work hwork
  rw [keeps_eq, Bool.not_eq_true', decide_eq_false_iff_not] at hkeeps
  exact hkeeps ⟨slot, hfind, hautomatic, of_decide_eq_true hcovers⟩

theorem cancelPeer_eq_self {target : Option (Fin 6)} {now : Nat} {peer : Fin 8}
    (hcount : (s.queue peer).count ≤ 32)
    (h : ∀ work ∈ (s.queue peer).view, keeps s target work = true) :
    cancelPeer target now s peer = s := by
  have hnone : superseded s target (s.queue peer).view = [] := by
    apply List.filterMap_eq_nil_iff.mpr
    intro work hwork
    exact Option.isNone_iff_eq_none.mp (h work hwork)
  rw [cancelPeer_eq s target now peer hcount, hnone, Ring.compact_eq_self h,
    Function.update_eq_self]
  rfl

theorem cancelAutomatic_eq_self {target : Option (Fin 6)} {now : Nat} (hbounded : Bounded s)
    (h : NoneWaiting routes s target) : cancelAutomatic routes s target now = s := by
  have hfold : ∀ order : List (Fin 8), (∀ peer ∈ order, peer.val < routes.peerCount) →
      order.foldl (cancelPeer target now) s = s := by
    intro order horder
    induction order with
    | nil => rfl
    | cons peer order ih =>
        obtain ⟨hpeer, hrest⟩ := List.forall_mem_cons.mp horder
        rw [List.foldl_cons, cancelPeer_eq_self (hbounded peer) (keeps_of_noneWaiting h hpeer)]
        exact ih hrest
  exact hfold _ fun peer hmem => mem_peers.mp hmem

theorem refused_central {message : TestMessage} {target : Option (Fin 6)} {clock : Clock}
    {result : Enqueued} {refusal : EnqueueRefusal} (htype : message.header.type ≠ msgTest)
    (hresult : executeRequest routes s message target clock = some result)
    (hrefused : result.refusal = some refusal) :
    result.central = cancelAutomatic routes s target clock.cancel := by
  unfold executeRequest at hresult
  rw [if_pos htype] at hresult
  dsimp only at hresult
  rcases @enqueueCommand_cases routes (cancelAutomatic routes s target clock.cancel) message target
    0 false clock.enqueue with ⟨refusal', _, henqueue⟩ | ⟨s', fresh, _, henqueue, _, _⟩
  · rw [henqueue] at hresult
    obtain rfl := Option.some.inj hresult
    rfl
  · rw [henqueue] at hresult
    obtain rfl := Option.some.inj hresult
    cases hrefused

/-- A refused mode or coordination request leaves everything as it was exactly
when no schedule request for its targets was waiting; otherwise that one has been
canceled for nothing. -/
theorem refused_unchanged_iff (hreach : Reached routes s) {line : List UInt8}
    {message : TestMessage} {target : Option (Fin 6)}
    (hparse : centralParseCommand line = some (message, target))
    (htype : message.header.type ≠ msgTest) {clock : Clock} {result : Enqueued}
    {refusal : EnqueueRefusal} (hresult : executeLine routes s line clock = some result)
    (hrefused : result.refusal = some refusal) :
    Unchanged s result.central ↔ NoneWaiting routes s target := by
  have hbounded := bounded_of_reached hreach
  rw [executeLine, hparse] at hresult
  rw [refused_central htype hresult hrefused]
  constructor
  · intro h
    apply noneWaiting_of_keeps
    intro peer hpeer
    have hring := congrFun h.queue peer
    rw [cancelAutomatic_queue hbounded, if_pos hpeer] at hring
    have hview := congrArg Ring.view hring
    rw [Ring.view_compact (hbounded peer)] at hview
    exact List.filter_eq_self.mp hview
  · intro h
    rw [cancelAutomatic_eq_self hbounded h]
    exact ⟨rfl, rfl, rfl, rfl, rfl, rfl, rfl, rfl⟩

/-- The schedule's request for sensor mode. -/
def scheduleSensor : TestMessage :=
  commandMessage msgModeCommand
    (ModeCmdMsg.toBytes ⟨0, TrafficLightMode.sensor.toByte, cmdSetMode, cmdPrioSchedule, 0, 0⟩)

/-- A schedule request waits for the first intersection, whose status is then
out of date. -/
def waitingRun : List QueueAction :=
  [allUp, .enqueue scheduleSensor (some 0) 0 true 0,
    .observe (centralMonitorInit 5) (fun _ => true) fun _ => 0]

def waiting : Central := run (queueStep defaultRoutes) (centralStart 5) waitingRun

theorem reached_waiting : Reached defaultRoutes waiting :=
  ⟨centralStart 5, waitingRun, ⟨5, rfl⟩, rfl⟩

/-- The line `mode-fixed I1` -/
def modeFixedLine : List UInt8 :=
  ascii ['m', 'o', 'd', 'e', '-', 'f', 'i', 'x', 'e', 'd', ' ', 'I', '1']

theorem modeFixedLine_parsed :
    centralParseCommand modeFixedLine = some (modeMessage 0 cmdSetMode 0, some 0) := by
  have hwords : (commandWords 4 (modeFixedLine.takeWhile (· ≠ 0))) =
      some [ascii ['m', 'o', 'd', 'e', '-', 'f', 'i', 'x', 'e', 'd'], ascii ['I', '1']] := by
    decide
  have htarget : parseTarget (ascii ['I', '1']) = some (some 0) := by decide
  unfold centralParseCommand
  dsimp only
  rw [if_neg (by decide), hwords, Option.bind_some]
  unfold commandOf
  dsimp only
  rw [if_pos (by decide), htarget]
  rfl

theorem waiting_refused :
    executeLine defaultRoutes waiting modeFixedLine ⟨1, 1, 1⟩ =
      some ⟨cancelAutomatic defaultRoutes waiting (some 0) 1, some (.localNotReady 0)⟩ := by
  have hrefusal : enqueueRefusal defaultRoutes (cancelAutomatic defaultRoutes waiting (some 0) 1)
      (modeMessage 0 cmdSetMode 0) (some 0) 1 = some (.localNotReady 0) := by
    decide +kernel
  rw [executeLine, modeFixedLine_parsed]
  dsimp only
  unfold executeRequest enqueueCommand
  rw [if_pos (by decide)]
  dsimp only
  rw [hrefusal]
  rfl

theorem refused_unchanged_iff_waiting :
    Unchanged waiting (cancelAutomatic defaultRoutes waiting (some 0) 1) ↔
      NoneWaiting defaultRoutes waiting (some 0) :=
  refused_unchanged_iff reached_waiting modeFixedLine_parsed (by decide) waiting_refused rfl

/-- The request for fixed mode is refused, and the schedule request is gone. -/
theorem refused_canceled :
    Reached defaultRoutes waiting ∧
      centralParseCommand modeFixedLine = some (modeMessage 0 cmdSetMode 0, some 0) ∧
      ∃ result, executeLine defaultRoutes waiting modeFixedLine ⟨1, 1, 1⟩ = some result ∧
        result.refusal = some (.localNotReady 0) ∧ ¬ Unchanged waiting result.central := by
  refine ⟨reached_waiting, modeFixedLine_parsed, _, waiting_refused, rfl, ?_⟩
  intro h
  have hcount := congrArg (fun queue => (queue 0).count) h.queue
  exact absurd hcount (by decide +kernel)

end TrafficLight.OperatorRequests
