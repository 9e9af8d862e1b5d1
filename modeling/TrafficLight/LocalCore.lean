import TrafficLight.Runs
import TrafficLight.LocalMessages

/-!
The Local core as a machine, from `local_state_init` and the loop of
`local_core.c`. A core step is a tick or one request; every step is a short run
of the operations below, each of which holds the mutex for one function.
-/

namespace TrafficLight.LocalCore

open TrafficLight.Runs
open TrafficLight.Protocol
open TrafficLight.LocalData
open TrafficLight.LocalTraffic
open TrafficLight.LocalMessages

/-- An intersection number out of range selects I1. -/
def intersectionOf (intersectionId : UInt8) : Fin 6 :=
  if h : intersectionId.toNat < 6 then ⟨intersectionId.toNat, h⟩ else 0

/-- The cleared record before the profile is chosen. -/
def clearedState (id : Fin 6) : LocalState :=
  { centralConnected := false, trainConnected := false
    trafficMode := .fixed, phase := .nsGreen, initialPhase := .nsGreen
    nsLight := .off, ewLight := .off, timeRemaining := 0, phaseDuration := 0
    nsGreenSec := 0, ewGreenSec := 0
    cycleNsGreen := 0, cycleEwGreen := 0, cyclePlanValid := false
    sensorNsCount := 0, sensorEwCount := 0, nextCarInSeconds := 0
    pedNsRequest := false, pedEwRequest := false
    pedNsWalk := false, pedEwWalk := false
    simSeconds := 0, simRunning := false
    nextTrainInSeconds := 0, nextTrainDirection := 0
    trainDirection := 0, trainPassRemaining := 0, trainWaitingForClear := false
    manualModeOverride := false, manualSensorOverride := false
    tempModeRemaining := 0, tempReturnMode := .fixed, tempReturnManualOverride := false
    coordinationPending := false, coordinationPhase := .nsGreen, coordinationOffsetSec := 0
    pedExtraNsGreen := 0, pedExtraEwGreen := 0
    intersectionId := id
    faultActive := false, faultType := .none, faultSeverity := .unset, faultDescription := ""
    trainPending := false, trainActive := false, trainRecoveryRemaining := 0
    statusSequence := 0, faultSequence := 0, heartbeatSequence := 0
    lastAppliedCommandId := 0 }

def localStateInit (intersectionId : UInt8) (draws : Draws) : LocalState :=
  let id := intersectionOf intersectionId
  let config := localConfigForIntersection id
  let s : LocalState :=
    { clearedState id with
      statusSequence := 1
      faultSequence := 1
      faultSeverity := .low
      initialPhase := config.initialPhase
      nsGreenSec := config.nsGreenSec
      ewGreenSec := config.ewGreenSec
      simRunning := true
      simSeconds := 6 * 3600 }
  let s : LocalState :=
    { s with
      nextTrainInSeconds := randomTrainGapSeconds s draws
      nextTrainDirection := randomTrainDirection draws
      nextCarInSeconds := randomCarGapSeconds s draws
      trafficMode := if isPeakTime s.simSeconds then .fixed else .sensor }
  let s := applyTimeSettingsLocked s
  let s := localPlanCycleLocked { s with phase := s.initialPhase }
  let initialDirection := if s.phase = .ewGreen then Direction.ew else .ns
  let duration := greenTimeForDirection s initialDirection
  let s : LocalState := { s with phaseDuration := duration, timeRemaining := duration }
  if s.phase = .ewGreen then { s with nsLight := .red, ewLight := .green }
  else { s with nsLight := .green, ewLight := .red }

instance lawfulCommand : LawfulBEq (List Char) := inferInstance

/-- What runs under the mutex at one time. -/
inductive LocalOp
  | linkTimeout
  | timeOfDay
  | temporaryMode
  | trafficTick (draws : Draws)
  | vehicleCounts (draws : Draws)
  | markDirty
  | frame (msg : TestMessage) (draws : Draws)
  | input (command : List Char) (draws : Draws)
  | links (centralUp trainUp : Bool)

def localStep (s : LocalState) : LocalOp → LocalState
  | .linkTimeout => { s with centralConnected := false, trainConnected := false }
  | .timeOfDay => updateTimeOfDayLocked s
  | .temporaryMode => updateTemporaryModeLocked s
  | .trafficTick draws => trafficTickLocked s draws
  | .vehicleCounts draws => updateVehicleCountsLocked s draws
  | .markDirty => markStatusDirtyLocked s
  | .frame msg draws => (localDispatchMessage s msg draws).1
  | .input command draws => (executeCommand s command draws).1
  | .links centralUp trainUp =>
      { s with centralConnected := centralUp, trainConnected := trainUp }

/-- The executions of the traffic tick in an operation. -/
def ticksOf : LocalOp → Nat
  | .trafficTick _ => 1
  | _ => 0

/-- A state some Local starts in. -/
def Booted (s : LocalState) : Prop :=
  ∃ intersectionId draws, s = localStateInit intersectionId draws

/-- One turn of the core loop: a tick, with or without an expired link
deadline, or a request. -/
inductive CoreStep
  | tick (linkExpired : Bool) (draws : Draws)
  | snapshot
  | frame (msg : TestMessage) (draws : Draws)
  | input (command : List Char) (draws : Draws)
  | links (centralUp trainUp : Bool)

def coreTick (s : LocalState) (linkExpired : Bool) (draws : Draws) : LocalState :=
  let s := if linkExpired
    then { s with centralConnected := false, trainConnected := false } else s
  let s := updateTimeOfDayLocked s
  let s := updateTemporaryModeLocked s
  let s := trafficTickLocked s draws
  let s := updateVehicleCountsLocked s draws
  markStatusDirtyLocked s

def coreStep (s : LocalState) : CoreStep → LocalState
  | .tick linkExpired draws => coreTick s linkExpired draws
  | .snapshot => s
  | .frame msg draws => (localDispatchMessage s msg draws).1
  | .input command draws => (executeCommand s command draws).1
  | .links centralUp trainUp =>
      { s with centralConnected := centralUp, trainConnected := trainUp }

/-- The operations of a core step, in order. -/
def CoreStep.ops : CoreStep → List LocalOp
  | .tick linkExpired draws =>
      (if linkExpired then [.linkTimeout] else []) ++
        [.timeOfDay, .temporaryMode, .trafficTick draws, .vehicleCounts draws, .markDirty]
  | .snapshot => []
  | .frame msg draws => [.frame msg draws]
  | .input command draws => [.input command draws]
  | .links centralUp trainUp => [.links centralUp trainUp]

theorem coreStep_eq_run (s : LocalState) (step : CoreStep) :
    coreStep s step = run localStep s step.ops := by
  cases step with
  | tick linkExpired draws => cases linkExpired <;> rfl
  | _ => rfl

theorem run_coreStep (s : LocalState) (steps : List CoreStep) :
    run coreStep s steps = run localStep s (steps.flatMap CoreStep.ops) :=
  run_flatMap coreStep_eq_run s steps

theorem reachable_of_core {s : LocalState} (h : Reachable Booted coreStep s) :
    Reachable Booted localStep s := by
  obtain ⟨s₀, steps, hboot, rfl⟩ := h
  exact ⟨s₀, steps.flatMap CoreStep.ops, hboot, run_coreStep s₀ steps⟩

end TrafficLight.LocalCore
