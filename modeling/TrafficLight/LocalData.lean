import Mathlib.Logic.Function.Iterate
import TrafficLight.Protocol

/-!
The state of a Local controller, from `local_controller.h` and `local_state.c`.
Connection mode, service name and the display timestamps are left out, and so
is the mutex: every function below runs with it held. A call of `rand` takes
its result from the `Draws` of the step it happens in.
-/

namespace TrafficLight.LocalData

open TrafficLight.Protocol

def demoHighCarCount : Int := 6
def pedGreenCapSec : Int := 10
def simSecondsPerTick : Int := 1
def secondsPerDay : Int := 86400
def trainPassingSeconds : Int := 10
def maxSensorCars : Int := 12

/-- `local_timing_config_t` -/
structure LocalTimingConfig where
  initialPhase : Phase
  nsGreenSec : Int
  ewGreenSec : Int

/-- `local_config_for_intersection`: I1 EW, I2 NS, I3 NS, I4 EW, I5 EW, I6 NS. -/
def localConfigForIntersection : Fin 6 → LocalTimingConfig
  | 0 => { initialPhase := .ewGreen, nsGreenSec := greenBaseSec, ewGreenSec := greenBaseSec }
  | 1 => { initialPhase := .nsGreen, nsGreenSec := greenBaseSec, ewGreenSec := greenBaseSec }
  | 2 => { initialPhase := .nsGreen, nsGreenSec := greenBaseSec, ewGreenSec := greenBaseSec }
  | 3 => { initialPhase := .ewGreen, nsGreenSec := greenBaseSec, ewGreenSec := greenBaseSec }
  | 4 => { initialPhase := .ewGreen, nsGreenSec := greenBaseSec, ewGreenSec := greenBaseSec }
  | 5 => { initialPhase := .nsGreen, nsGreenSec := greenBaseSec, ewGreenSec := greenBaseSec }

/-- `local_state_t` -/
structure LocalState where
  centralConnected : Bool
  trainConnected : Bool
  trafficMode : TrafficLightMode
  phase : Phase
  initialPhase : Phase
  nsLight : LightState
  ewLight : LightState
  timeRemaining : Int
  phaseDuration : Int
  nsGreenSec : Int
  ewGreenSec : Int
  cycleNsGreen : Int
  cycleEwGreen : Int
  cyclePlanValid : Bool
  sensorNsCount : Int
  sensorEwCount : Int
  nextCarInSeconds : Int
  pedNsRequest : Bool
  pedEwRequest : Bool
  pedNsWalk : Bool
  pedEwWalk : Bool
  simSeconds : Int
  simRunning : Bool
  nextTrainInSeconds : Int
  nextTrainDirection : Int
  trainDirection : Int
  trainPassRemaining : Int
  trainWaitingForClear : Bool
  manualModeOverride : Bool
  manualSensorOverride : Bool
  tempModeRemaining : Int
  tempReturnMode : TrafficLightMode
  tempReturnManualOverride : Bool
  coordinationPending : Bool
  coordinationPhase : Phase
  coordinationOffsetSec : Int
  pedExtraNsGreen : Int
  pedExtraEwGreen : Int
  intersectionId : Fin 6
  faultActive : Bool
  faultType : FaultType
  faultSeverity : FaultSeverity
  faultDescription : String
  trainPending : Bool
  trainActive : Bool
  trainRecoveryRemaining : Int
  statusSequence : UInt16
  faultSequence : UInt16
  heartbeatSequence : UInt16
  lastAppliedCommandId : UInt16

/-- The results of the `rand` calls of one step, by the function that calls. -/
structure Draws where
  trainGap : Nat
  trainDirection : Nat
  carGap : Nat
  arrival : Nat
  deriving DecidableEq

def Draws.zero : Draws := { trainGap := 0, trainDirection := 0, carGap := 0, arrival := 0 }

def LocalState.light (s : LocalState) : Direction → LightState
  | .ns => s.nsLight
  | .ew => s.ewLight

def LocalState.walk (s : LocalState) : Direction → Bool
  | .ns => s.pedNsWalk
  | .ew => s.pedEwWalk

def LocalState.cycleGreen (s : LocalState) : Direction → Int
  | .ns => s.cycleNsGreen
  | .ew => s.cycleEwGreen

def LocalState.pedExtra (s : LocalState) : Direction → Int
  | .ns => s.pedExtraNsGreen
  | .ew => s.pedExtraEwGreen

/-- The direction of the initial phase. -/
def LocalState.initialDirection (s : LocalState) : Direction :=
  if s.initialPhase = .ewGreen then .ew else .ns

/-- The phase in which a direction has Green. -/
def greenOf : Direction → Phase
  | .ns => .nsGreen
  | .ew => .ewGreen

/-- The phase in which a direction has Yellow. -/
def yellowOf : Direction → Phase
  | .ns => .nsYellow
  | .ew => .ewYellow

def bumpSequence (value : UInt16) : UInt16 :=
  if value + 1 = 0 then value + 1 + 1 else value + 1

theorem toNat_bumpSequence (value : UInt16) :
    (bumpSequence value).toNat = value.toNat % 65535 + 1 := by
  have hlt := value.toNat_lt
  have hone : (1 : UInt16).toNat = 1 := rfl
  have hnext : (value + 1).toNat = (value.toNat + 1) % 65536 := UInt16.toNat_add value 1
  unfold bumpSequence
  split
  · rename_i hzero
    rw [hzero] at hnext ⊢
    rw [show (0 : UInt16).toNat = 0 from rfl] at hnext
    rw [show ((0 : UInt16) + 1).toNat = 1 from rfl]
    omega
  · rename_i hpos
    have hne : (value + 1).toNat ≠ 0 := fun h => hpos (UInt16.toNat_inj.mp h)
    omega

theorem toNat_iterate_bumpSequence (value : UInt16) (k : Nat) :
    (bumpSequence^[k + 1] value).toNat = (value.toNat + k) % 65535 + 1 := by
  induction k with
  | zero => exact toNat_bumpSequence value
  | succ k ih =>
      rw [Function.iterate_succ_apply', toNat_bumpSequence, ih]
      omega

theorem iterate_bumpSequence_ne (value : UInt16) {k : Nat} (hk : k + 1 < 65535) :
    bumpSequence^[k + 1] value ≠ value := by
  intro h
  have hnumber := congrArg UInt16.toNat h
  rw [toNat_iterate_bumpSequence] at hnumber
  have hlt := value.toNat_lt
  omega

def markStatusDirtyLocked (s : LocalState) : LocalState :=
  { s with statusSequence := bumpSequence s.statusSequence }

def targetMatchesLocal (s : LocalState) (target : UInt8) : Bool :=
  target.toNat = s.intersectionId.val ∨ target = intersectionAll

def railwayCrossingForLocal (intersectionId : Fin 6) : UInt8 :=
  if intersectionId.val ≤ 1 then 1
  else if intersectionId.val ≤ 3 then 2
  else 3

/-- Crossing P1 is also known by its protocol number zero. -/
def railwayMatchesLocal (s : LocalState) (id : UInt8) : Bool :=
  let crossing := railwayCrossingForLocal s.intersectionId
  id = crossing ∨ (crossing = 1 ∧ id = 0)

def railwayDisplayLine (id : UInt8) : Int :=
  if id = 0 then 1 else id.toNat

def setFaultLocked (s : LocalState) (type : FaultType) (severity : FaultSeverity)
    (description : String) : LocalState :=
  markStatusDirtyLocked
    { s with
      faultActive := type ≠ .none
      faultSequence := bumpSequence s.faultSequence
      faultType := type
      faultSeverity := severity
      faultDescription := description }

def clearFaultLocked (s : LocalState) : LocalState :=
  markStatusDirtyLocked
    { s with
      faultActive := false
      faultSequence := bumpSequence s.faultSequence
      faultType := .none
      faultSeverity := .low
      faultDescription := "cleared" }

end TrafficLight.LocalData
