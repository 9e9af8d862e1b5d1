import TrafficLight.LocalProfile
import TrafficLight.StatusSequence

namespace TrafficLight.FaultChanges

open TrafficLight.Protocol
open TrafficLight.LocalData
open TrafficLight.LocalTraffic
open TrafficLight.LocalCore
open TrafficLight.LocalProfile

structure LocalFault where
  active : Bool
  type : FaultType
  severity : FaultSeverity
  description : String
  deriving DecidableEq

/-- The fault that holds, with the number of its change. -/
structure Faults where
  fault : LocalFault
  sequence : UInt16

def faultsOf (s : LocalState) : Faults :=
  ⟨⟨s.faultActive, s.faultType, s.faultSeverity, s.faultDescription⟩, s.faultSequence⟩

/-- After `clear_fault_locked`. -/
def cleared : LocalFault := ⟨false, .none, .low, "cleared"⟩

/-- After a conflict of the lamps. -/
def conflict : LocalFault := ⟨true, .notWorking, .critical, "conflicting green"⟩

/-- A step keeps the fault, or it makes one change. -/
inductive FaultStep (f : Faults) : Faults → Prop
  | kept : FaultStep f f
  | changed (fault : LocalFault) (hfault : fault = cleared ∨ fault = conflict) :
      FaultStep f ⟨fault, bumpSequence f.sequence⟩

variable {s t : LocalState}

theorem faults_of_profile (h : profileOf t = profileOf s) : faultsOf t = faultsOf s :=
  congrArg (fun p : Profile => Faults.mk
    ⟨p.faultActive, p.faultType, p.faultSeverity, p.faultDescription⟩ p.faultSequence) h

theorem FaultStep.of_profileStep (h : ProfileStep s t) :
    FaultStep (faultsOf s) (faultsOf t) := by
  cases h with
  | kept h =>
      rw [faults_of_profile h]
      exact .kept
  | cleared h =>
      rw [faults_of_profile h]
      exact .changed cleared (.inl rfl)
  | conflict h =>
      rw [faults_of_profile h]
      exact .changed conflict (.inr rfl)

theorem faultStep_coreTick (s : LocalState) (linkExpired : Bool) (draws : Draws) :
    FaultStep (faultsOf s) (faultsOf (coreTick s linkExpired draws)) := by
  unfold coreTick
  extract_lets t u v w x
  have hlink : faultsOf t = faultsOf s := by
    dsimp only [t]
    split <;> rfl
  have hday := faults_of_profile (profile_updateTimeOfDay t)
  have hmode := faults_of_profile (profile_updateTemporaryMode u)
  have hcars := faults_of_profile (profile_updateVehicleCounts w draws)
  have hmarked : faultsOf (markStatusDirtyLocked x) = faultsOf w := hcars
  rw [hmarked, ← hlink, ← hday, ← hmode]
  exact .of_profileStep (profileStep_trafficTick v draws)

theorem faultStep_coreStep (s : LocalState) (step : CoreStep) :
    FaultStep (faultsOf s) (faultsOf (coreStep s step)) := by
  cases step with
  | tick linkExpired draws => exact faultStep_coreTick s linkExpired draws
  | snapshot => exact .kept
  | frame msg draws => exact .of_profileStep (profileStep_dispatch s msg draws)
  | input command draws => exact .of_profileStep (profileStep_executeCommand s command draws)
  | links centralUp trainUp => exact .kept

end TrafficLight.FaultChanges
