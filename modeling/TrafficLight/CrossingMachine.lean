import Mathlib.Data.Fintype.Basic
import Mathlib.Logic.Function.Basic
import TrafficLight.Protocol

/-!
The railway crossing state machine of `crossing.c`. A handler returns the new
crossing together with the callbacks it made, in order; each callback is
recorded with the value of `*cx` it was called with. The display timestamps
are left out.
-/

namespace TrafficLight.CrossingMachine

open TrafficLight.Protocol

def gateCloseDelaySec : Int := 5
def gateCloseTimeoutSec : Int := 10
def gateOpenTimeoutSec : Int := 10
def trainTimeoutSec : Int := 60

/-- `cx_track_direction_t` -/
inductive TrackDirection
  | up
  | down
  deriving DecidableEq, Repr

instance : Fintype TrackDirection where
  elems := {.up, .down}
  complete := by intro d; cases d <;> decide

/-- The other track of the crossing. -/
def TrackDirection.other : TrackDirection → TrackDirection
  | .up => .down
  | .down => .up

/-- `cx_track_state_t` -/
inductive TrackState
  | none
  | approaching
  | onCrossing
  | cleared
  deriving DecidableEq, Repr

/-- `cx_fault_t` -/
inductive CxFault
  | none
  | gateCloseTimeout
  | gateOpenTimeout
  | gateUnexpected
  | trainTimeout
  | trainEarly
  | injected
  deriving DecidableEq, Repr

/-- `gate_command_t` -/
inductive GateCommand
  | close
  | open
  deriving DecidableEq, Repr

/-- `timer_id_t` -/
inductive TimerId
  | gateCloseDelay
  | gateCloseTimeout
  | gateOpenTimeout
  | trainTimeoutUp
  | trainTimeoutDown
  deriving DecidableEq, Repr

/-- All timers in the order of their numbers. -/
def TimerId.all : List TimerId :=
  [.gateCloseDelay, .gateCloseTimeout, .gateOpenTimeout, .trainTimeoutUp,
    .trainTimeoutDown]

/-- `TRAIN_TIMEOUT_TIMER` -/
def trainTimeoutTimer : TrackDirection → TimerId
  | .down => .trainTimeoutDown
  | .up => .trainTimeoutUp

/-- `crossing_event_t` with the arguments the handler reads. For a timer event
the source passes the timer id in the direction argument; the range check on
it is the type here. -/
inductive CrossingEvent
  | trainApproach (dir : TrackDirection)
  | trainEnter (dir : TrackDirection)
  | trainExit (dir : TrackDirection)
  | gateClosed
  | gateOpened
  | timer (timerId : TimerId) (timerGen : UInt32)
  | injectFault
  | resetFault
  deriving DecidableEq

/-- `crossing_t` -/
structure Crossing where
  id : UInt8
  name : String
  localId1 : UInt8
  localId2 : UInt8
  track : TrackDirection → TrackState
  gate : GateState
  flashOn : Bool
  fault : CxFault
  resetPending : Bool
  closeDelayPending : Bool
  timerGen : TimerId → UInt32

/-- A call through `cx_ops_t`. -/
inductive CxOp
  | gateCommand (cmd : GateCommand)
  | setFlash (on : Bool)
  | sendPreempt
  | sendClear
  | faultAlert (fault : CxFault)
  | startTimer (timerId : TimerId) (seconds : Int)
  | cancelTimer (timerId : TimerId)
  | stateChanged
  deriving DecidableEq

/-- A callback and the crossing it was handed. -/
structure CxCall where
  op : CxOp
  cx : Crossing

/-- A handler in progress: the crossing and the callbacks made so far. -/
structure Handling where
  cx : Crossing
  calls : List CxCall

def Handling.set (h : Handling) (f : Crossing → Crossing) : Handling :=
  { h with cx := f h.cx }

def Handling.call (h : Handling) (op : CxOp) : Handling :=
  { h with calls := h.calls ++ [⟨op, h.cx⟩] }

/-- `cx->timer_gen[id]++` -/
def Crossing.bumpTimer (cx : Crossing) (id : TimerId) : Crossing :=
  { cx with timerGen := Function.update cx.timerGen id (cx.timerGen id + 1) }

def Crossing.setTrack (cx : Crossing) (dir : TrackDirection) (t : TrackState) :
    Crossing :=
  { cx with track := Function.update cx.track dir t }

def crossingInit (id : UInt8) (name : String) (localId1 localId2 : UInt8) :
    Crossing :=
  { id, name, localId1, localId2
    track := fun _ => .none
    gate := .open
    flashOn := false
    fault := .none
    resetPending := false
    closeDelayPending := false
    timerGen := fun _ => 0 }

def crossingBothTracksClear (cx : Crossing) : Bool :=
  (cx.track .up = .none ∨ cx.track .up = .cleared) ∧
    (cx.track .down = .none ∨ cx.track .down = .cleared)

/-- The lights are switched on only if they are off. -/
def turnFlashOn (h : Handling) : Handling :=
  if h.cx.flashOn then h
  else (h.set fun cx => { cx with flashOn := true }).call (.setFlash true)

def enterFault (h : Handling) (fault : CxFault) : Handling :=
  let h := h.set fun cx =>
    { cx with fault := fault, gate := .fault, closeDelayPending := false }
  let h := turnFlashOn h
  let h := TimerId.all.foldl
    (fun h id => (h.set fun cx => cx.bumpTimer id).call (.cancelTimer id)) h
  let h := h.call (.faultAlert fault)
  h.call .stateChanged

def startGateClose (h : Handling) : Handling :=
  if h.cx.gate = .open ∨ h.cx.gate = .opening then
    -- an opening in progress is aborted so its timeout cannot raise a fault
    let h := if h.cx.gate = .opening then
        (h.set fun cx => cx.bumpTimer .gateOpenTimeout).call
          (.cancelTimer .gateOpenTimeout)
      else h
    let h := h.set fun cx => { cx with gate := .closing, closeDelayPending := false }
    let h := h.call (.gateCommand .close)
    let h := h.set fun cx => cx.bumpTimer .gateCloseTimeout
    let h := h.call (.startTimer .gateCloseTimeout gateCloseTimeoutSec)
    h.call .stateChanged
  else h

def startGateOpen (h : Handling) : Handling :=
  if h.cx.gate = .closed ∨ h.cx.gate = .closing then
    let h := h.set fun cx => { cx with gate := .opening, closeDelayPending := false }
    let h := h.set fun cx =>
      (cx.bumpTimer .gateCloseDelay).bumpTimer .gateCloseTimeout
    let h := (h.call (.cancelTimer .gateCloseDelay)).call
      (.cancelTimer .gateCloseTimeout)
    let h := h.call (.gateCommand .open)
    let h := h.set fun cx => cx.bumpTimer .gateOpenTimeout
    let h := h.call (.startTimer .gateOpenTimeout gateOpenTimeoutSec)
    h.call .stateChanged
  else h

/-- `CX_EVENT_TRAIN_APPROACH` -/
def handleTrainApproach (h : Handling) (dir : TrackDirection) : Handling :=
  if h.cx.track dir = .none then
    let h := h.set fun cx => cx.setTrack dir .approaching
    let h := turnFlashOn h
    let h := h.call .sendPreempt
    let h :=
      if h.cx.gate = .open ∧ h.cx.closeDelayPending = false then
        let h := h.set fun cx => { cx with closeDelayPending := true }
        let h := h.set fun cx => cx.bumpTimer .gateCloseDelay
        h.call (.startTimer .gateCloseDelay gateCloseDelaySec)
      else if h.cx.gate = .opening then startGateClose h
      else h
    h.call .stateChanged
  else h

/-- `CX_EVENT_TRAIN_ENTER` -/
def handleTrainEnter (h : Handling) (dir : TrackDirection) : Handling :=
  if h.cx.track dir = .approaching then
    if h.cx.gate ≠ .closed then enterFault h .trainEarly
    else
      let h := h.set fun cx => cx.setTrack dir .onCrossing
      let h := h.set fun cx => cx.bumpTimer (trainTimeoutTimer dir)
      let h := h.call (.startTimer (trainTimeoutTimer dir) trainTimeoutSec)
      h.call .stateChanged
  else h

/-- A cleared track becomes free. -/
def releaseTrack (cx : Crossing) (dir : TrackDirection) : Crossing :=
  if cx.track dir = .cleared then cx.setTrack dir .none else cx

/-- `CX_EVENT_TRAIN_EXIT` -/
def handleTrainExit (h : Handling) (dir : TrackDirection) : Handling :=
  if h.cx.track dir = .onCrossing then
    let h := h.set fun cx => cx.setTrack dir .cleared
    let h := h.set fun cx => cx.bumpTimer (trainTimeoutTimer dir)
    let h := h.call (.cancelTimer (trainTimeoutTimer dir))
    let h :=
      if crossingBothTracksClear h.cx then
        startGateOpen (h.set fun cx => releaseTrack (releaseTrack cx .up) .down)
      else h
    h.call .stateChanged
  else h

/-- `CX_EVENT_GATE_CLOSED` -/
def handleGateClosed (h : Handling) : Handling :=
  if h.cx.gate = .closing then
    let h := h.set fun cx => { cx with gate := .closed }
    let h := h.set fun cx => cx.bumpTimer .gateCloseTimeout
    let h := h.call (.cancelTimer .gateCloseTimeout)
    let h := h.call .stateChanged
    if h.cx.resetPending then
      startGateOpen (h.set fun cx => { cx with resetPending := false })
    else h
  else h

/-- `CX_EVENT_GATE_OPENED` -/
def handleGateOpened (h : Handling) : Handling :=
  if h.cx.gate = .opening then
    let h := h.set fun cx => { cx with gate := .open }
    let h := h.set fun cx => cx.bumpTimer .gateOpenTimeout
    let h := h.call (.cancelTimer .gateOpenTimeout)
    if crossingBothTracksClear h.cx = false then startGateClose h
    else
      let h := h.set fun cx => { cx with flashOn := false }
      let h := h.call (.setFlash false)
      let h := h.call .sendClear
      h.call .stateChanged
  else h

/-- `CX_EVENT_TIMER` -/
def handleTimer (h : Handling) (timerId : TimerId) (timerGen : UInt32) : Handling :=
  if timerGen ≠ h.cx.timerGen timerId then h
  else
    match timerId with
    | .gateCloseDelay =>
        startGateClose (h.set fun cx => { cx with closeDelayPending := false })
    | .gateCloseTimeout => enterFault h .gateCloseTimeout
    | .gateOpenTimeout => enterFault h .gateOpenTimeout
    | .trainTimeoutUp | .trainTimeoutDown => enterFault h .trainTimeout

/-- `CX_EVENT_RESET_FAULT` -/
def handleResetFault (h : Handling) : Handling :=
  if h.cx.fault ≠ .none then
    let h := h.set fun cx => { cx with fault := .none }
    let h := h.set fun cx => (cx.setTrack .up .none).setTrack .down .none
    let h := h.set fun cx => { cx with gate := .closing, resetPending := true }
    let h := h.call (.gateCommand .close)
    let h := h.set fun cx => cx.bumpTimer .gateCloseTimeout
    let h := h.call (.startTimer .gateCloseTimeout gateCloseTimeoutSec)
    h.call .stateChanged
  else h

def crossingHandleEvent (cx : Crossing) (event : CrossingEvent) : Handling :=
  let h : Handling := ⟨cx, []⟩
  if cx.fault ≠ .none ∧ event ≠ .resetFault then h
  else
    match event with
    | .trainApproach dir => handleTrainApproach h dir
    | .trainEnter dir => handleTrainEnter h dir
    | .trainExit dir => handleTrainExit h dir
    | .gateClosed => handleGateClosed h
    | .gateOpened => handleGateOpened h
    | .timer timerId timerGen => handleTimer h timerId timerGen
    | .injectFault => enterFault h .injected
    | .resetFault => handleResetFault h

end TrafficLight.CrossingMachine
