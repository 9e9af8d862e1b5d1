import TrafficLight.SignalFrame
import TrafficLight.SignalRefinement

namespace TrafficLight.ModeRegime

open TrafficLight.Runs
open TrafficLight.Protocol
open TrafficLight.LocalData
open TrafficLight.LocalTraffic
open TrafficLight.LocalMessages
open TrafficLight.LocalCore
open TrafficLight.SignalFrame
open TrafficLight.SignalRefinement

/-- The mode, whether the time of day is overridden, and the overlay: how long
it lasts and what it returns to. -/
@[ext] structure Regime where
  mode : TrafficLightMode
  manual : Bool
  remaining : Int
  returnMode : TrafficLightMode
  returnManual : Bool
  deriving DecidableEq

/-- The time of day decides, unless it is overridden or the lamps have failed. -/
def Regime.byDay (r : Regime) (day : TrafficLightMode) : Regime :=
  if r.manual = false ∧ r.mode ≠ .failsafe then { r with mode := day } else r

/-- The overlay is lifted. -/
def Regime.lift (r : Regime) : Regime :=
  { r with mode := r.returnMode, manual := r.returnManual, remaining := 0 }

def Regime.second (r : Regime) (day : TrafficLightMode) : Regime :=
  if r.remaining ≤ 0 then r
  else if r.remaining = 1 then r.lift.byDay day
  else { r with remaining := r.remaining - 1 }

/-- Only the first of nested overlays notes what to return to. -/
def Regime.temporary (r : Regime) (mode : TrafficLightMode) (seconds : Int) : Regime :=
  { mode, manual := true, remaining := seconds
    returnMode := if r.remaining ≤ 0 then r.mode else r.returnMode
    returnManual := if r.remaining ≤ 0 then r.manual else r.returnManual }

def Regime.revert (r : Regime) : Regime :=
  let r := if r.remaining > 0 then r.lift else r
  if r.mode = .failsafe then { r with mode := .fixed } else r

inductive RegimeOp
  | keep
  | day (day : TrafficLightMode)
  | second (day : TrafficLightMode)
  | set (mode : TrafficLightMode)
  | temporary (mode : TrafficLightMode) (seconds : Int)
  | revert
  | coordinate
  | retime (day : TrafficLightMode)
  | toggle
  | reset (day : TrafficLightMode)
  | conflict
  deriving DecidableEq

def regimeStep (r : Regime) : RegimeOp → Regime
  | .keep => r
  | .day day => r.byDay day
  | .second day => r.second day
  | .set mode => { r with mode, manual := true, remaining := 0 }
  | .temporary mode seconds => r.temporary mode seconds
  | .revert => r.revert
  | .coordinate => { r with mode := .fixed, manual := true }
  | .retime day => { r with manual := false }.byDay day
  | .toggle => { r with mode := if r.mode = .fixed then .sensor else .fixed, manual := true }
  | .reset day => { r with manual := false, remaining := 0 }.byDay day
  | .conflict => { r with mode := .failsafe }

theorem Regime.byDay_of_manual {r : Regime} (h : r.manual = true) (day : TrafficLightMode) :
    r.byDay day = r :=
  if_neg fun hauto => Bool.noConfusion (h.symm.trans hauto.1)

theorem Regime.byDay_of_failsafe {r : Regime} (h : r.mode = .failsafe) (day : TrafficLightMode) :
    r.byDay day = r :=
  if_neg fun hauto => hauto.2 h

@[simp] theorem Regime.byDay_manual (r : Regime) (day : TrafficLightMode) :
    (r.byDay day).manual = r.manual := by
  unfold Regime.byDay
  split <;> rfl

@[simp] theorem Regime.byDay_remaining (r : Regime) (day : TrafficLightMode) :
    (r.byDay day).remaining = r.remaining := by
  unfold Regime.byDay
  split <;> rfl

@[simp] theorem Regime.byDay_returnMode (r : Regime) (day : TrafficLightMode) :
    (r.byDay day).returnMode = r.returnMode := by
  unfold Regime.byDay
  split <;> rfl

@[simp] theorem Regime.byDay_returnManual (r : Regime) (day : TrafficLightMode) :
    (r.byDay day).returnManual = r.returnManual := by
  unfold Regime.byDay
  split <;> rfl

theorem regimeStep_overlay {r : Regime} {op : RegimeOp}
    (hop : ∀ mode seconds, op ≠ .temporary mode seconds) :
    (regimeStep r op).returnMode = r.returnMode ∧
      (regimeStep r op).returnManual = r.returnManual ∧
        (0 < (regimeStep r op).remaining → 0 < r.remaining) := by
  cases op with
  | keep | set | coordinate | toggle | conflict => simp [regimeStep]
  | temporary mode seconds => exact absurd rfl (hop mode seconds)
  | day | retime | reset => simp [regimeStep]
  | second day =>
      unfold regimeStep Regime.second
      dsimp only
      split_ifs
      · exact ⟨rfl, rfl, id⟩
      · simp [Regime.lift]
      · exact ⟨rfl, rfl, fun _ => by omega⟩
  | revert =>
      unfold regimeStep Regime.revert Regime.lift
      dsimp only
      split_ifs <;> simp_all

def regimeOf (s : LocalState) : Regime where
  mode := s.trafficMode
  manual := s.manualModeOverride
  remaining := s.tempModeRemaining
  returnMode := s.tempReturnMode
  returnManual := s.tempReturnManualOverride

@[simp] theorem regimeOf_mode (s : LocalState) : (regimeOf s).mode = s.trafficMode := rfl

@[simp] theorem regimeOf_manual (s : LocalState) : (regimeOf s).manual = s.manualModeOverride :=
  rfl

@[simp] theorem regimeOf_remaining (s : LocalState) :
    (regimeOf s).remaining = s.tempModeRemaining := rfl

@[simp] theorem regimeOf_returnMode (s : LocalState) :
    (regimeOf s).returnMode = s.tempReturnMode := rfl

@[simp] theorem regimeOf_returnManual (s : LocalState) :
    (regimeOf s).returnManual = s.tempReturnManualOverride := rfl

/-- The mode for a time of the day. -/
def dayMode (seconds : Int) : TrafficLightMode :=
  if isPeakTime seconds then .fixed else .sensor

/-- The clock after `set_sim_seconds_locked`. -/
def clockOf (seconds : Int) : Int :=
  if seconds.tmod secondsPerDay < 0 then seconds.tmod secondsPerDay + secondsPerDay
  else seconds.tmod secondsPerDay

def modeRegimeOp (s : LocalState) (msg : TestMessage) : RegimeOp :=
  let command := ModeCmdMsg.ofData msg.data
  if modeCommandValid s msg command then
    if command.action = cmdSetMode ∧ command.durationSec = 0 then
      .set (trafficModeOfByte command.newMode)
    else if command.action = cmdTemporary ∧ command.durationSec > 0 then
      .temporary (trafficModeOfByte command.newMode) command.durationSec.toNat
    else if command.action = cmdRevert ∧ command.durationSec = 0 then .revert
    else .keep
  else .keep

def coordinationRegimeOp (s : LocalState) (msg : TestMessage) : RegimeOp :=
  if coordinationCommandValid s msg (CoordinationCommandMsg.ofData msg.data) then .coordinate
  else .keep

def simRegimeOp (s : LocalState) (msg : TestMessage) : RegimeOp :=
  match parseSimCommand msg.data with
  | some { target, commandId := _, action := .time minute } =>
      if msg.header.src = controllerCentral ∧ msg.header.dst = controllerLocal ∧
          targetMatchesLocal s (UInt8.ofNat target) then
        .retime (dayMode (clockOf (minute * 60 : Nat)))
      else .keep
  | _ => .keep

def frameRegimeOp (s : LocalState) (msg : TestMessage) : RegimeOp :=
  match handlerOf msg with
  | some .mode => modeRegimeOp s msg
  | some .coordination => coordinationRegimeOp s msg
  | some .simulation => simRegimeOp s msg
  | _ => .keep

def keyRegimeOp (s : LocalState) : Char → RegimeOp
  | 'm' => .toggle
  | 'r' => .reset (dayMode s.simSeconds)
  | 'p' => .retime (dayMode (clockOf (7 * 3600)))
  | 'o' => .retime (dayMode (clockOf (12 * 3600)))
  | 'l' => .retime (dayMode (clockOf (22 * 3600)))
  | _ => .keep

/-- The step of the regime that an operation is. -/
def regimeOp (s : LocalState) : LocalOp → RegimeOp
  | .timeOfDay =>
      if s.simRunning then
        .day (dayMode ((s.simSeconds + simSecondsPerTick).tmod secondsPerDay))
      else .keep
  | .temporaryMode => .second (dayMode s.simSeconds)
  | .trafficTick _ => if s.nsLight = .green ∧ s.ewLight = .green then .conflict else .keep
  | .frame msg _ => frameRegimeOp s msg
  | .input command _ => if validInput command then keyRegimeOp s (command.headD ' ') else .keep
  | .linkTimeout | .vehicleCounts _ | .markDirty | .links _ _ => .keep

variable {s t : LocalState}

theorem regime_of_frame {direction : Int} (h : Frame s t direction) : regimeOf t = regimeOf s :=
  congrArg (fun around => Regime.mk around.trafficMode around.manualModeOverride
    around.tempModeRemaining around.tempReturnMode around.tempReturnManualOverride)
    h.surroundings

theorem regimeOf_applied (s : LocalState) (commandId : UInt16) :
    regimeOf (applied s commandId) = regimeOf s := rfl

theorem regimeOf_applyTimeSettings (s : LocalState) :
    regimeOf (applyTimeSettingsLocked s) = (regimeOf s).byDay (dayMode s.simSeconds) := by
  unfold applyTimeSettingsLocked Regime.byDay
  by_cases hday : s.manualModeOverride = false ∧ s.trafficMode ≠ .failsafe
  · rw [if_pos hday, regimeOf_manual, regimeOf_mode, if_pos hday]
    rfl
  · rw [if_neg hday, regimeOf_manual, regimeOf_mode, if_neg hday]

theorem regimeOf_updateTimeOfDay (s : LocalState) :
    regimeOf (updateTimeOfDayLocked s) = regimeStep (regimeOf s) (regimeOp s .timeOfDay) := by
  have hclock : regimeOf (advanceClock s) =
      (regimeOf s).byDay (dayMode ((s.simSeconds + simSecondsPerTick).tmod secondsPerDay)) := by
    have hday := regimeOf_applyTimeSettings
      { s with simSeconds := (s.simSeconds + simSecondsPerTick).tmod secondsPerDay }
    unfold advanceClock
    dsimp only
    split
    · exact hday
    · exact hday
  unfold updateTimeOfDayLocked regimeOp
  cases hrunning : s.simRunning with
  | false => rfl
  | true =>
      rw [if_neg (by decide), if_pos rfl]
      refine Eq.trans ?_ hclock
      dsimp only
      split
      · exact regime_of_frame (frame_ownTrain _)
      · rfl

theorem regimeOf_updateTemporaryMode (s : LocalState) :
    regimeOf (updateTemporaryModeLocked s) = (regimeOf s).second (dayMode s.simSeconds) := by
  unfold updateTemporaryModeLocked Regime.second
  rw [regimeOf_remaining]
  by_cases hnone : s.tempModeRemaining ≤ 0
  · rw [if_pos hnone, if_pos hnone]
  · rw [if_neg hnone, if_neg hnone]
    dsimp only
    by_cases hlast : s.tempModeRemaining = 1
    · rw [if_pos (by omega), if_pos hlast]
      refine (regimeOf_applyTimeSettings _).trans ?_
      unfold regimeOf Regime.lift
      dsimp only
      rw [hlast, Int.sub_self]
    · rw [if_neg (by omega), if_neg hlast]
      rfl

theorem regimeOf_setSimSeconds (s : LocalState) (seconds : Int) (draws : Draws) :
    regimeOf (setSimSecondsLocked s seconds draws) =
      (regimeOf s).byDay (dayMode (clockOf seconds)) := by
  unfold setSimSecondsLocked
  extract_lets t u w
  have hu : regimeOf u = regimeOf s ∧ u.simSeconds = clockOf seconds := by
    dsimp only [u, t]
    unfold clockOf
    by_cases hnegative : seconds.tmod secondsPerDay < 0
    · rw [if_pos hnegative, if_pos hnegative]
      exact ⟨rfl, rfl⟩
    · rw [if_neg hnegative, if_neg hnegative]
      exact ⟨rfl, rfl⟩
  have hw := regimeOf_applyTimeSettings u
  rw [hu.1, hu.2] at hw
  exact hw

theorem regimeOf_resetDemoInputs (s : LocalState) (draws : Draws) :
    regimeOf (resetDemoInputsLocked s draws) =
      regimeStep (regimeOf s) (.reset (dayMode s.simSeconds)) := by
  unfold resetDemoInputsLocked
  extract_lets t u w
  have hphase := (frame_setInitialPhase (applyTimeSettingsLocked w)).trans
    (frame_markStatusDirty _)
  rw [regime_of_frame hphase, regimeOf_applyTimeSettings]
  rfl

theorem regimeOf_updateVehicleCounts (s : LocalState) (draws : Draws) :
    regimeOf (updateVehicleCountsLocked s draws) = regimeOf s := by
  obtain ⟨ns, ew, next, hcars⟩ := carsOnly_updateVehicleCounts s draws
  rw [hcars]
  rfl

theorem regimeOf_revert (s : LocalState) (commandId : UInt16) :
    let returned := if s.tempModeRemaining > 0 then
        { s with
          trafficMode := s.tempReturnMode
          manualModeOverride := s.tempReturnManualOverride
          tempModeRemaining := 0 }
      else s
    regimeOf (applied (if returned.trafficMode = .failsafe then
      clearFaultLocked { returned with trafficMode := .fixed } else returned) commandId) =
        (regimeOf s).revert := by
  have hreturned : ∀ t : LocalState, regimeOf (applied (if t.trafficMode = .failsafe then
      clearFaultLocked { t with trafficMode := .fixed } else t) commandId) =
        if (regimeOf t).mode = .failsafe then { regimeOf t with mode := .fixed }
        else regimeOf t := by
    intro t
    rw [regimeOf_mode]
    by_cases hfailed : t.trafficMode = .failsafe
    · rw [if_pos hfailed, if_pos hfailed]
      rfl
    · rw [if_neg hfailed, if_neg hfailed]
      rfl
  dsimp only
  unfold Regime.revert
  rw [hreturned, regimeOf_remaining]
  by_cases hrunning : s.tempModeRemaining > 0
  · rw [if_pos hrunning, if_pos hrunning]
    rfl
  · rw [if_neg hrunning, if_neg hrunning]

theorem regimeOf_modeCommand (s : LocalState) (msg : TestMessage) (reply : Reply) :
    regimeOf (handleModeCommand s msg reply).1 = regimeStep (regimeOf s) (modeRegimeOp s msg) := by
  unfold handleModeCommand modeRegimeOp
  dsimp only
  by_cases hvalid : modeCommandValid s msg (ModeCmdMsg.ofData msg.data) = true
  · rw [if_pos hvalid, if_pos hvalid]
    generalize ModeCmdMsg.ofData msg.data = command
    unfold modeActionLocked
    by_cases hset : command.action = cmdSetMode ∧ command.durationSec = 0
    · rw [if_pos hset, if_pos hset]
      rfl
    · rw [if_neg hset, if_neg hset]
      by_cases htemporary : command.action = cmdTemporary ∧ command.durationSec > 0
      · rw [if_pos htemporary, if_pos htemporary]
        by_cases hfirst : s.tempModeRemaining ≤ 0
        · rw [if_pos hfirst]
          simp [regimeStep, Regime.temporary, regimeOf, hfirst, applied, markStatusDirtyLocked,
            clearFaultLocked]
        · rw [if_neg hfirst]
          simp [regimeStep, Regime.temporary, regimeOf, hfirst, applied, markStatusDirtyLocked,
            clearFaultLocked]
      · rw [if_neg htemporary, if_neg htemporary]
        by_cases hrevert : command.action = cmdRevert ∧ command.durationSec = 0
        · rw [if_pos hrevert, if_pos hrevert]
          exact regimeOf_revert s _
        · rw [if_neg hrevert, if_neg hrevert]
          rfl
  · rw [if_neg hvalid, if_neg hvalid]
    rfl

theorem regimeOf_coordinationCommand (s : LocalState) (msg : TestMessage) (reply : Reply) :
    regimeOf (handleCoordinationCommand s msg reply).1 =
      regimeStep (regimeOf s) (coordinationRegimeOp s msg) := by
  unfold handleCoordinationCommand coordinationRegimeOp
  dsimp only
  split
  · rfl
  · rfl

theorem regimeOf_simulationMessage (s : LocalState) (msg : TestMessage) (reply : Reply)
    (draws : Draws) :
    regimeOf (handleSimulationMessage s msg reply draws).1 =
      regimeStep (regimeOf s) (simRegimeOp s msg) := by
  unfold handleSimulationMessage simRegimeOp
  cases parseSimCommand msg.data with
  | none => rfl
  | some command =>
      obtain ⟨target, commandId, action⟩ := command
      dsimp only
      cases action with
      | start | stop =>
          split
          · rfl
          · rfl
      | time minute =>
          dsimp only
          by_cases hroute : msg.header.src = controllerCentral ∧ msg.header.dst = controllerLocal ∧
              targetMatchesLocal s (UInt8.ofNat target) = true
          · rw [if_pos hroute, if_pos hroute]
            have htime := regimeOf_setSimSeconds
              { s with manualModeOverride := false, manualSensorOverride := false }
              (minute * 60 : Nat) draws
            rw [regimeOf_applied]
            exact htime
          · rw [if_neg hroute, if_neg hroute]
            rfl

theorem regimeOf_sensorUpdate (s : LocalState) (msg : TestMessage) (reply : Reply) :
    regimeOf (handleSensorUpdate s msg reply).1 = regimeOf s := by
  unfold handleSensorUpdate
  dsimp only
  split_ifs <;> rfl

theorem regimeOf_pedRequest (s : LocalState) (msg : TestMessage) (reply : Reply) :
    regimeOf (handlePedRequest s msg reply).1 = regimeOf s := by
  unfold handlePedRequest
  dsimp only
  split
  · exact regime_of_frame (frame_addPedestrianRequest s _)
  · rfl

theorem regimeOf_railwayMessage (s : LocalState) (msg : TestMessage) (reply : Reply) :
    regimeOf (handleRailwayMessage s msg reply).1 = regimeOf s := by
  unfold handleRailwayMessage
  dsimp only
  split_ifs
  · exact regime_of_frame (frame_startTrainMessage s _ _)
  · exact regime_of_frame (frame_clearTrain s)
  · rfl
  · rfl

theorem regimeOf_dispatch (s : LocalState) (msg : TestMessage) (draws : Draws) :
    regimeOf (localDispatchMessage s msg draws).1 =
      regimeStep (regimeOf s) (frameRegimeOp s msg) := by
  rw [dispatch_eq]
  unfold frameRegimeOp
  cases handlerOf msg with
  | none => rfl
  | some handler =>
      cases handler with
      | simulation => exact regimeOf_simulationMessage ..
      | test => rfl
      | mode => exact regimeOf_modeCommand ..
      | coordination => exact regimeOf_coordinationCommand ..
      | sensor => exact regimeOf_sensorUpdate ..
      | ped => exact regimeOf_pedRequest ..
      | railway => exact regimeOf_railwayMessage ..

theorem regimeOf_executeKey (s : LocalState) (key : Char) (draws : Draws) :
    regimeOf (executeKey s key draws) = regimeStep (regimeOf s) (keyRegimeOp s key) := by
  have hsensor : ∀ d, regimeOf (toggleSensorLocked s d) = regimeOf s := by
    intro d
    unfold toggleSensorLocked
    dsimp only
    split <;> rfl
  have hhour : ∀ hour, regimeOf (setSimHourLocked s hour draws) =
      regimeStep (regimeOf s) (.retime (dayMode (clockOf (hour * 3600)))) := fun hour =>
    regimeOf_setSimSeconds { s with manualModeOverride := false, manualSensorOverride := false }
      (hour * 3600) draws
  unfold executeKey
  split
  case h_1 => rfl
  case h_2 => exact regime_of_frame (frame_addPedestrianRequest s .ns)
  case h_3 => exact regime_of_frame (frame_addPedestrianRequest s .ew)
  case h_4 => exact hsensor .ns
  case h_5 => exact hsensor .ew
  case h_6 => exact regime_of_frame (frame_startTrainCommon s 1 false 0)
  case h_7 => exact regime_of_frame (frame_startTrainCommon s 2 false 0)
  case h_8 => exact regime_of_frame (frame_clearTrain s)
  case h_9 => exact regimeOf_resetDemoInputs s draws
  case h_10 => exact hhour 7
  case h_11 => exact hhour 12
  case h_12 => exact hhour 22
  case h_13 hm hn he hx hz h1 h2 hc hr hp ho hl =>
      have hkeep : keyRegimeOp s key = .keep := by
        unfold keyRegimeOp
        split
        · exact absurd rfl hm
        · exact absurd rfl hr
        · exact absurd rfl hp
        · exact absurd rfl ho
        · exact absurd rfl hl
        · rfl
      rw [hkeep]
      rfl

theorem regimeOf_localStep (s : LocalState) (op : LocalOp) :
    regimeOf (localStep s op) = regimeStep (regimeOf s) (regimeOp s op) := by
  cases op with
  | linkTimeout | markDirty | links => rfl
  | timeOfDay => exact regimeOf_updateTimeOfDay s
  | temporaryMode => exact regimeOf_updateTemporaryMode s
  | vehicleCounts draws => exact regimeOf_updateVehicleCounts s draws
  | frame msg draws => exact regimeOf_dispatch s msg draws
  | trafficTick draws =>
      unfold regimeOp
      dsimp only
      by_cases hlights : s.nsLight = .green ∧ s.ewLight = .green
      · rw [if_pos hlights]
        show regimeOf (trafficTickLocked s draws) = _
        unfold trafficTickLocked
        rw [if_pos hlights]
        rfl
      · rw [if_neg hlights]
        exact regime_of_frame (frame_trafficTick s draws hlights)
  | input command draws =>
      unfold localStep executeCommand regimeOp
      dsimp only
      split
      · exact regimeOf_executeKey s _ draws
      · rfl

end TrafficLight.ModeRegime
