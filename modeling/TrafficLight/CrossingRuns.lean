import TrafficLight.Runs
import TrafficLight.CrossingOutcomes
import TrafficLight.CrossingCalls

/-!
Runs of a crossing in its surroundings. The surroundings keep the callbacks
that were made and the timers that were started; a timer event carries the id
and the generation of one of these timers, and each of them fires at most once,
possibly after it was cancelled.
-/

namespace TrafficLight.CrossingRuns

open TrafficLight.Runs
open TrafficLight.Protocol
open TrafficLight.CrossingMachine
open TrafficLight.CrossingOutcomes
open TrafficLight.CrossingCalls

/-- A `start_timer` call that has not fired yet. The serial number counts the
generations of the timer that had been issued when it was started. -/
structure ArmedTimer where
  timerId : TimerId
  timerGen : UInt32
  serial : Nat
  deriving DecidableEq

structure CrossingSystem where
  cx : Crossing
  log : List CxCall
  armed : List ArmedTimer
  issued : TimerId → Nat

/-- What reaches the crossing next: an event of the environment or the expiry
of a timer. -/
inductive Delivery
  | occurs (event : CrossingEvent)
  | expires (timer : ArmedTimer)
  deriving DecidableEq

def Delivery.toEvent : Delivery → CrossingEvent
  | .occurs event => event
  | .expires timer => .timer timer.timerId timer.timerGen

/-- The timers that can still fire after the delivery. -/
def Delivery.remaining (armed : List ArmedTimer) : Delivery → List ArmedTimer
  | .occurs _ => armed
  | .expires timer => armed.erase timer

def isTimer : CrossingEvent → Bool
  | .timer _ _ => true
  | _ => false

/-- The source increments `timer_gen[id]` once for each of these callbacks. -/
def issues (id : TimerId) : CxOp → Bool
  | .startTimer timerId _ => timerId = id
  | .cancelTimer timerId => timerId = id
  | _ => false

def armedBy (issued : TimerId → Nat) (calls : List CxCall) : List ArmedTimer :=
  calls.filterMap fun call =>
    match call.op with
    | .startTimer id _ => some ⟨id, call.cx.timerGen id, issued id⟩
    | _ => none

def crossingStart (id : UInt8) (name : String) (localId1 localId2 : UInt8) :
    CrossingSystem :=
  { cx := crossingInit id name localId1 localId2
    log := []
    armed := []
    issued := fun _ => 0 }

def deliver (sys : CrossingSystem) (d : Delivery) : CrossingSystem :=
  let h := crossingHandleEvent sys.cx d.toEvent
  let issued := fun id => sys.issued id + (ops h).countP (issues id)
  { cx := h.cx
    log := sys.log ++ h.calls
    armed := d.remaining sys.armed ++ armedBy issued h.calls
    issued }

/-- A timer event comes from an earlier `start_timer` call. -/
def Deliverable (sys : CrossingSystem) : Delivery → Prop
  | .occurs event => isTimer event = false
  | .expires timer => timer ∈ sys.armed

instance (sys : CrossingSystem) (d : Delivery) : Decidable (Deliverable sys d) :=
  match d with
  | .occurs event => inferInstanceAs (Decidable (isTimer event = false))
  | .expires timer => inferInstanceAs (Decidable (timer ∈ sys.armed))

theorem outcome_deliver (sys : CrossingSystem) (d : Delivery) :
    Outcome sys.cx d.toEvent (deliver sys d).cx
      (ops (crossingHandleEvent sys.cx d.toEvent)) :=
  outcome sys.cx d.toEvent

@[simp] theorem countP_flashOps (id : TimerId) (flashOn : Bool) :
    (flashOps flashOn).countP (issues id) = 0 := by
  cases flashOn <;> rfl

@[simp] theorem countP_faultOps (id : TimerId) (flashOn : Bool) (fault : CxFault) :
    (faultOps flashOn fault).countP (issues id) = 1 := by
  cases id <;> simp [faultOps, TimerId.all, issues]

@[simp] theorem countP_closeOps (id : TimerId) (gate : GateState) :
    (closeOps gate).countP (issues id) =
      if id = .gateCloseTimeout ∨ (id = .gateOpenTimeout ∧ gate = .opening) then 1
      else 0 := by
  by_cases hgate : gate = .opening <;> cases id <;>
    simp [closeOps, hgate, issues]

@[simp] theorem countP_openOps (id : TimerId) :
    openOps.countP (issues id) =
      if id = .gateCloseDelay ∨ id = .gateCloseTimeout ∨ id = .gateOpenTimeout then 1
      else 0 := by
  cases id <;> rfl

theorem outcome_timerGen {cx cx' : Crossing} {event : CrossingEvent} {os : List CxOp}
    (h : Outcome cx event cx' os) (id : TimerId) :
    cx'.timerGen id = cx.timerGen id + UInt32.ofNat (os.countP (issues id)) := by
  cases h with
  | @enterClosed dir | @exitBusy dir | @exitOpen dir | @exitReleased dir =>
      cases dir <;> cases id <;>
        simp [issues, entered, exited, released, openStarted,
          trainTimeoutTimer]
  | timerClose _ _ hgate =>
      rcases hgate with hgate | hgate <;> cases id <;> simp [closeStarted, hgate]
  | closedReset =>
      cases id <;> simp [issues, openStarted, closedGate, UInt32.add_assoc]
  | _ =>
      cases id <;>
        simp [issues, approached, faulted, closeStarted, closedGate, openedGate,
          resetStarted, *]

end TrafficLight.CrossingRuns
