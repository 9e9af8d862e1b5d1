import TrafficLight.CommandBooks
import TrafficLight.OperatorRequests

/-!
The daily schedule and the operator's console, from `operator_policy.c`,
`schedule_tick` and `execute_command`. Both run under `operator_mutex`, and the
peer threads go on between two of their sections under Central's own mutex, so
what the holder of `operator_mutex` does next is part of the state.
-/

namespace TrafficLight.SchedulePolicy

open TrafficLight.Runs
open TrafficLight.Protocol
open TrafficLight.CommandQueue
open TrafficLight.OperatorRequests

def centralScheduleMaxEntries : Nat := 32
def minutesPerDay : Nat := 24 * 60

/-- `central_schedule_entry_t` -/
structure ScheduleEntry where
  minuteOfDay : Nat
  target : Nat
  mode : UInt8

/-- `valid_entry` -/
def validEntry (entry : ScheduleEntry) : Bool :=
  entry.minuteOfDay < minutesPerDay ∧
    (entry.target < numIntersections ∨ entry.target = intersectionAll.toNat) ∧
    (entry.mode = TrafficLightMode.fixed.toByte ∨ entry.mode = TrafficLightMode.sensor.toByte)

/-- One turn of the loop of `central_schedule_mode` on a valid entry. -/
def nearerEntry (target : Fin 6) (minute : Nat) (best : Nat × UInt8) (entry : ScheduleEntry) :
    Nat × UInt8 :=
  let elapsed := (minute + minutesPerDay - entry.minuteOfDay) % minutesPerDay
  if entry.target ≠ intersectionAll.toNat ∧ entry.target ≠ target.val then best
  else if elapsed < best.1 then (elapsed, entry.mode)
  else best

/-- `central_schedule_mode`, which fails on an invalid entry wherever it stands. -/
def centralScheduleMode (schedule : List ScheduleEntry) (target : Fin 6) (minute : Nat) :
    Option UInt8 :=
  if minute ≥ minutesPerDay ∨ schedule.length > centralScheduleMaxEntries then none
  else if schedule.all validEntry then
    let best := schedule.foldl (nearerEntry target minute) (minutesPerDay, 0)
    if best.1 = minutesPerDay then none else some best.2
  else none

/-- The schedule's request for a mode. -/
def scheduleMessage (i : Fin 6) (mode : UInt8) : TestMessage :=
  commandMessage msgModeCommand
    (ModeCmdMsg.toBytes ⟨UInt8.ofNat i, mode, cmdSetMode, cmdPrioSchedule, 0, 0⟩)

/-- A request that was accepted is noted once more, from the time of its receipt. -/
def acknowledge (s : Central) (i : Fin 6) (record : CommandRecord) : Central :=
  if s.policyAck i = record.id then s
  else
    let command := record.modeRequest
    { s with
      operatorPolicy := noteOperator s.operatorPolicy (some i) command.action command.newMode
        command.durationSec.toNat record.finishedAt
      policyAck := Function.update s.policyAck i record.id }

/-- The record of the operator's last mode request for a target. -/
def policyRecord (s : Central) (i : Fin 6) : Option CommandRecord :=
  (findCommand s (s.policyCommand i)).map s.commands

/-- The last mode request of the operator keeps the schedule from a target. -/
def policyHeld (s : Central) (i : Fin 6) : Bool :=
  match policyRecord s i with
  | some record => record.state ≠ .accepted
  | none => s.policyCommand i ≠ 0 && s.policyAck i ≠ s.policyCommand i

def noteReceipt (s : Central) (i : Fin 6) : Central :=
  match policyRecord s i with
  | some record => if record.state = .accepted then acknowledge s i record else s
  | none => s

/-- `schedule_tick` for one target up to `enqueue_command`: the mode that it is
about to ask for. -/
def desiredMode (routes : Routes) (schedule : List ScheduleEntry) (s : Central) (i : Fin 6)
    (now minute : Nat) : Option UInt8 :=
  if policyHeld s i || operatorActive (noteReceipt s i).operatorPolicy i now then none
  else
    (centralScheduleMode schedule i minute).filter fun desired =>
      s.scheduledMode i ≠ some desired && localReady routes s i now

/-- What the holder of `operator_mutex` does next. -/
inductive Holder
  | free
  | enqueueing (message : TestMessage) (target : Option (Fin 6))
  | noting (message : TestMessage) (target : Option (Fin 6))
  | canceling (target : Option (Fin 6))
  | ticking (now minute : Nat) (rest : List (Fin 6))
  | filing (i : Fin 6) (desired : UInt8) (now minute : Nat) (rest : List (Fin 6))

structure System where
  central : Central
  holder : Holder

def systemStart (maxAgeSeconds : Nat) : System := ⟨centralStart maxAgeSeconds, .free⟩

/-- The steps that need no `operator_mutex`. -/
def byPeers : QueueAction → Bool
  | .take .. | .sent .. | .lost .. | .stop .. | .observe .. => true
  | _ => false

/-- A line of the operator's, `train-cmd` or `coordinate-at`, `schedule-resume`,
the start of a tick, or the next section of whoever holds `operator_mutex`. -/
inductive PolicyAction
  | peer (a : QueueAction)
  | line (text : List UInt8) (now : Nat)
  | other (prototype : TestMessage) (target : Option (Fin 6)) (delay now : Nat)
  | resume (target : Option (Fin 6))
  | tick (now minute : Nat)
  | proceed (now : Nat)

/-- `schedule-resume` up to `cancel_automatic` -/
def releaseSchedule (routes : Routes) (s : Central) (target : Option (Fin 6)) : Central :=
  { queueStep routes s (.release target) with
    operatorPolicy := resumeSchedule s.operatorPolicy target }

section Scheduled

variable (routes : Routes) (schedule : List ScheduleEntry)

/-- The next section of the holder of `operator_mutex`. -/
def proceed (s : System) (now : Nat) : System :=
  match s.holder with
  | .free => s
  | .enqueueing message target =>
      { central := queueStep routes s.central (.enqueue message target 0 false now)
        holder :=
          if enqueueRefusal routes s.central message target now = none ∧
              message.header.type = msgModeCommand then .noting message target
          else .free }
  | .noting message target => ⟨noteRequest s.central message target now, .free⟩
  | .canceling target => ⟨cancelAutomatic routes s.central target now, .free⟩
  | .ticking _ _ [] => ⟨s.central, .free⟩
  | .ticking started minute (i :: rest) =>
      { central := noteReceipt s.central i
        holder :=
          match desiredMode routes schedule s.central i started minute with
          | some desired => .filing i desired started minute rest
          | none => .ticking started minute rest }
  | .filing i desired started minute rest =>
      let message := scheduleMessage i desired
      let central := queueStep routes s.central (.enqueue message (some i) 0 true now)
      { central :=
          if enqueueRefusal routes s.central message (some i) now = none then
            { central with
              scheduledMode := Function.update central.scheduledMode i (some desired) }
          else central
        holder := .ticking started minute rest }

/-- `operator_mutex` is taken only when it is free. -/
def policyStep (s : System) : PolicyAction → System
  | .peer a => if byPeers a then { s with central := queueStep routes s.central a } else s
  | .line text now =>
      match s.holder, centralParseCommand text with
      | .free, some (message, target) =>
          { central :=
              if message.header.type ≠ msgTest then cancelAutomatic routes s.central target now
              else s.central
            holder := .enqueueing message target }
      | _, _ => s
  | .other prototype target delay now =>
      match s.holder with
      | .free =>
          if prototype.header.type = msgModeCommand then s
          else
            { s with
              central := queueStep routes s.central (.enqueue prototype target delay false now) }
      | _ => s
  | .resume target =>
      match s.holder with
      | .free => ⟨releaseSchedule routes s.central target, .canceling target⟩
      | _ => s
  | .tick now minute =>
      match s.holder with
      | .free => { s with holder := .ticking now minute (List.finRange 6) }
      | _ => s
  | .proceed now => proceed routes schedule s now

end Scheduled

end TrafficLight.SchedulePolicy
