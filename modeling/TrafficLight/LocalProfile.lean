import TrafficLight.SignalRefinement

namespace TrafficLight.LocalProfile

open TrafficLight.Runs
open TrafficLight.Protocol
open TrafficLight.LocalData
open TrafficLight.LocalTraffic
open TrafficLight.SignalFrame
open TrafficLight.LocalMessages
open TrafficLight.LocalCore
open TrafficLight.SignalRefinement

structure Profile where
  intersectionId : Fin 6
  centralConnected : Bool
  trainConnected : Bool
  faultActive : Bool
  faultType : FaultType
  faultSeverity : FaultSeverity
  faultDescription : String
  faultSequence : UInt16

def profileOf (s : LocalState) : Profile where
  intersectionId := s.intersectionId
  centralConnected := s.centralConnected
  trainConnected := s.trainConnected
  faultActive := s.faultActive
  faultType := s.faultType
  faultSeverity := s.faultSeverity
  faultDescription := s.faultDescription
  faultSequence := s.faultSequence

/-- The profile is kept, or it changes as when the fault is cleared or set. -/
inductive ProfileStep (s t : LocalState) : Prop
  | kept (h : profileOf t = profileOf s)
  | cleared (h : profileOf t = profileOf (clearFaultLocked s))
  | conflict (h : profileOf t = profileOf (enterFailsafe s))

variable {s t u : LocalState}

theorem profile_of_frame {direction : Int} (h : Frame s t direction) : profileOf t = profileOf s :=
  congrArg (fun u : Surroundings => Profile.mk u.intersectionId u.centralConnected
    u.trainConnected u.faultActive u.faultType u.faultSeverity u.faultDescription
    u.faultSequence) h.surroundings

theorem ProfileStep.of_frame {direction : Int} (h : Frame s t direction) : ProfileStep s t :=
  .kept (profile_of_frame h)

theorem ProfileStep.congr (h : ProfileStep s t) (heq : profileOf u = profileOf t) :
    ProfileStep s u := by
  cases h with
  | kept h => exact .kept (heq.trans h)
  | cleared h => exact .cleared (heq.trans h)
  | conflict h => exact .conflict (heq.trans h)

variable (s)

theorem profileStep_trafficTick (draws : Draws) : ProfileStep s (trafficTickLocked s draws) := by
  by_cases hlights : s.nsLight = .green ∧ s.ewLight = .green
  · unfold trafficTickLocked
    rw [if_pos hlights]
    exact .conflict rfl
  · exact .of_frame (frame_trafficTick s draws hlights)

theorem profile_applyTimeSettings : profileOf (applyTimeSettingsLocked s) = profileOf s := by
  unfold applyTimeSettingsLocked
  split <;> rfl

theorem profile_updateTemporaryMode : profileOf (updateTemporaryModeLocked s) = profileOf s := by
  unfold updateTemporaryModeLocked
  dsimp only
  split_ifs
  · rfl
  · exact profile_applyTimeSettings _
  · rfl

theorem profile_updateVehicleCounts (draws : Draws) :
    profileOf (updateVehicleCountsLocked s draws) = profileOf s := by
  obtain ⟨ns, ew, next, hcars⟩ := carsOnly_updateVehicleCounts s draws
  rw [hcars]
  rfl

theorem profile_advanceClock : profileOf (advanceClock s) = profileOf s := by
  unfold advanceClock
  dsimp only
  split
  · exact profile_applyTimeSettings _
  · exact profile_applyTimeSettings _

theorem profile_updateTimeOfDay : profileOf (updateTimeOfDayLocked s) = profileOf s := by
  have hclock := profile_advanceClock s
  unfold updateTimeOfDayLocked
  dsimp only
  split_ifs
  · rfl
  · exact (profile_of_frame (frame_ownTrain _)).trans hclock
  · exact hclock

theorem profile_setSimSeconds (seconds : Int) (draws : Draws) :
    profileOf (setSimSecondsLocked s seconds draws) = profileOf s := by
  unfold setSimSecondsLocked
  dsimp only
  split
  · exact profile_applyTimeSettings _
  · exact profile_applyTimeSettings _

theorem profile_simAction (action : SimAction) (draws : Draws) :
    profileOf (simActionLocked s action draws) = profileOf s := by
  cases action with
  | start | stop => rfl
  | time minute => exact profile_setSimSeconds _ _ draws

theorem profileStep_modeAction {command : ModeCmdMsg}
    (h : modeActionLocked s command = some t) : ProfileStep s t := by
  unfold modeActionLocked at h
  dsimp only at h
  split_ifs at h
  all_goals
    obtain rfl := Option.some.inj h
    first
    | exact .kept rfl
    | exact .cleared rfl

theorem profileStep_handler (handler : Handler) (msg : TestMessage) (reply : Reply)
    (draws : Draws) : ProfileStep s (handler.run s msg reply draws).1 := by
  cases handler with
  | test => exact .kept rfl
  | simulation =>
      dsimp only [Handler.run]
      unfold handleSimulationMessage
      cases parseSimCommand msg.data with
      | none => exact .kept rfl
      | some command =>
          dsimp only
          split
          · exact .kept (profile_simAction s command.action draws)
          · exact .kept rfl
  | mode =>
      dsimp only [Handler.run]
      unfold handleModeCommand
      dsimp only
      split
      · cases haction : modeActionLocked s (ModeCmdMsg.ofData msg.data) with
        | none => exact .kept rfl
        | some t => exact (profileStep_modeAction s haction).congr rfl
      · exact .kept rfl
  | coordination =>
      dsimp only [Handler.run]
      unfold handleCoordinationCommand
      dsimp only
      split
      · exact .cleared rfl
      · exact .kept rfl
  | sensor =>
      dsimp only [Handler.run]
      unfold handleSensorUpdate
      dsimp only
      split_ifs <;> exact .kept rfl
  | ped =>
      dsimp only [Handler.run]
      unfold handlePedRequest
      dsimp only
      split
      · exact .of_frame (frame_addPedestrianRequest s _)
      · exact .kept rfl
  | railway =>
      dsimp only [Handler.run]
      unfold handleRailwayMessage
      dsimp only
      split_ifs
      · exact .of_frame (frame_startTrainMessage s _ _)
      · exact .of_frame (frame_clearTrain s)
      · exact .kept rfl
      · exact .kept rfl

theorem profileStep_dispatch (msg : TestMessage) (draws : Draws) :
    ProfileStep s (localDispatchMessage s msg draws).1 := by
  rw [dispatch_eq]
  split
  · exact profileStep_handler s _ msg _ draws
  · exact .kept rfl

theorem profileStep_resetDemoInputs (draws : Draws) :
    ProfileStep s (resetDemoInputsLocked s draws) := by
  unfold resetDemoInputsLocked
  extract_lets t u w
  have hreset : ProfileStep s w := .cleared rfl
  apply hreset.congr
  have hphase := (frame_setInitialPhase (applyTimeSettingsLocked w)).trans (frame_markStatusDirty _)
  exact (profile_of_frame hphase).trans (profile_applyTimeSettings w)

theorem profileStep_executeKey (key : Char) (draws : Draws) :
    ProfileStep s (executeKey s key draws) := by
  have htoggle : ∀ d, profileOf (toggleSensorLocked s d) = profileOf s := by
    intro d
    cases d <;> rfl
  unfold executeKey
  split
  · exact .kept rfl
  · exact .of_frame (frame_addPedestrianRequest s .ns)
  · exact .of_frame (frame_addPedestrianRequest s .ew)
  · exact .kept (htoggle .ns)
  · exact .kept (htoggle .ew)
  · exact .of_frame (frame_startTrainCommon s 1 false 0)
  · exact .of_frame (frame_startTrainCommon s 2 false 0)
  · exact .of_frame (frame_clearTrain s)
  · exact profileStep_resetDemoInputs s draws
  · exact .kept (profile_setSimSeconds _ _ draws)
  · exact .kept (profile_setSimSeconds _ _ draws)
  · exact .kept (profile_setSimSeconds _ _ draws)
  · exact .kept rfl

theorem profileStep_executeCommand (command : List Char) (draws : Draws) :
    ProfileStep s (executeCommand s command draws).1 := by
  unfold executeCommand
  split
  · exact (profileStep_executeKey s _ draws).congr rfl
  · exact .kept rfl

/-- The operations by which a Local learns about its connections. -/
def reportsLinks : LocalOp → Bool
  | .linkTimeout | .links _ _ => true
  | _ => false

theorem profileStep_localStep {op : LocalOp} (hop : reportsLinks op = false) :
    ProfileStep s (localStep s op) := by
  cases op with
  | linkTimeout | links => cases hop
  | markDirty => exact .kept rfl
  | timeOfDay => exact .kept (profile_updateTimeOfDay s)
  | temporaryMode => exact .kept (profile_updateTemporaryMode s)
  | trafficTick draws => exact profileStep_trafficTick s draws
  | vehicleCounts draws => exact .kept (profile_updateVehicleCounts s draws)
  | frame msg draws => exact profileStep_dispatch s msg draws
  | input command draws => exact profileStep_executeCommand s command draws

theorem ProfileStep.id {s t : LocalState} (h : ProfileStep s t) :
    t.intersectionId = s.intersectionId := by
  cases h with
  | kept h | cleared h | conflict h => exact congrArg Profile.intersectionId h

theorem localStep_id (op : LocalOp) : (localStep s op).intersectionId = s.intersectionId := by
  cases hop : reportsLinks op with
  | false => exact (profileStep_localStep s hop).id
  | true =>
      cases op with
      | linkTimeout | links => rfl
      | _ => cases hop

end TrafficLight.LocalProfile
