import TrafficLight.SignalView
import TrafficLight.LocalCore
import TrafficLight.SignalFrame

namespace TrafficLight.SignalRefinement

open TrafficLight.Runs
open TrafficLight.Protocol
open TrafficLight.LocalData
open TrafficLight.LocalTraffic
open TrafficLight.LocalMessages
open TrafficLight.LocalCore
open TrafficLight.SignalMachine
open TrafficLight.SignalView
open TrafficLight.SignalFrame

theorem signalOf_applyTimeSettings (s : LocalState) :
    signalOf (applyTimeSettingsLocked s) = signalOf s := by
  unfold applyTimeSettingsLocked
  split <;> rfl

theorem signalOf_setSimSeconds (s : LocalState) (seconds : Int) (draws : Draws) :
    signalOf (setSimSecondsLocked s seconds draws) = signalOf s := by
  have hlast : ∀ (t : LocalState) (a b c : Int), signalOf
      { t with nextTrainInSeconds := a, nextTrainDirection := b, nextCarInSeconds := c } =
        signalOf t := fun _ _ _ _ => rfl
  unfold setSimSecondsLocked
  dsimp only
  rw [hlast, signalOf_applyTimeSettings]
  split <;> rfl

theorem signalOf_toggleSensor (s : LocalState) (d : Direction) :
    signalOf (toggleSensorLocked s d) = signalOf s := by
  unfold toggleSensorLocked
  dsimp only
  rw [signalOf_markStatusDirty]
  split <;> rfl

theorem signalOf_updateTemporaryMode (s : LocalState) :
    signalOf (updateTemporaryModeLocked s) = signalOf s := by
  unfold updateTemporaryModeLocked
  dsimp only
  split_ifs
  · rfl
  · rw [signalOf_markStatusDirty, signalOf_applyTimeSettings]
    rfl
  · rfl

theorem signalOf_updateVehicleCounts (s : LocalState) (draws : Draws) :
    signalOf (updateVehicleCountsLocked s draws) = signalOf s := by
  obtain ⟨ns, ew, next, hcars⟩ := carsOnly_updateVehicleCounts s draws
  rw [hcars]
  rfl

theorem signalOf_advanceClock (s : LocalState) : signalOf (advanceClock s) = signalOf s := by
  have hnext : ∀ (t : LocalState) (a : Int), signalOf { t with nextTrainInSeconds := a } =
      signalOf t := fun _ _ => rfl
  unfold advanceClock
  dsimp only
  split
  · rw [hnext, signalOf_applyTimeSettings]
    rfl
  · rw [signalOf_applyTimeSettings]
    rfl

/-- A simulated train starts at this tick of the clock. -/
def trainDue (s : LocalState) : Bool :=
  s.simRunning ∧ (advanceClock s).nextTrainInSeconds ≤ 0 ∧ trainIdle (advanceClock s)

theorem signalOf_updateTimeOfDay (s : LocalState) :
    signalOf (updateTimeOfDayLocked s) =
      if trainDue s then (signalOf s).startTrain false trainPassingSeconds else signalOf s := by
  unfold updateTimeOfDayLocked trainDue
  cases hrun : s.simRunning with
  | false => rfl
  | true =>
      dsimp only
      rw [if_neg (by decide)]
      by_cases hdue : (advanceClock s).nextTrainInSeconds ≤ 0 ∧ trainIdle (advanceClock s) = true
      · rw [if_pos hdue, if_pos (by simpa using hdue), ← signalOf_advanceClock s]
        exact signalOf_startTrainCommon _ _ false 0
      · rw [if_neg hdue, if_neg (by simpa using hdue), signalOf_advanceClock]

theorem settings_applyTimeSettings {s : LocalState} (hs : Settings s) :
    Settings (applyTimeSettingsLocked s) := by
  unfold applyTimeSettingsLocked
  split
  · refine ⟨hs.nsGreen, hs.ewGreen, hs.initial, hs.coordination, ?_, hs.returnMode⟩
    change (if isPeakTime s.simSeconds then TrafficLightMode.fixed else .sensor) ≠ .failsafe
    split <;> decide
  · exact hs

theorem greenTime_empty {s : LocalState} (hs : Settings s) (hns : s.sensorNsCount = 0)
    (hew : s.sensorEwCount = 0) (d : Direction) : greenTimeForDirection s d = 20 := by
  unfold greenTimeForDirection
  rw [configuredGreen_eq hs]
  simp [hns, hew, sensorCarThreshold, clampGreenTime, greenMinSec, greenMaxSec]

theorem signalOf_resetDemoInputs {s : LocalState} (hs : Settings s) (draws : Draws) :
    signalOf (resetDemoInputsLocked s draws) = (signalOf s).reset := by
  have hempty : ∀ t : LocalState, Settings t → t.sensorNsCount = 0 → t.sensorEwCount = 0 →
      signalOf (setInitialPhaseLocked (applyTimeSettingsLocked t)) =
        (signalOf t).startGreen 20 (signalOf t).initial := by
    intro t ht hns hew
    rw [signalOf_setInitialPhase (settings_applyTimeSettings ht), signalOf_applyTimeSettings,
      greenTime_empty (settings_applyTimeSettings ht)]
    · unfold applyTimeSettingsLocked
      split <;> exact hns
    · unfold applyTimeSettingsLocked
      split <;> exact hew
  unfold resetDemoInputsLocked
  dsimp only
  rw [signalOf_markStatusDirty, hempty _ _ rfl rfl]
  · unfold Signal.reset
    congr 1
    ext : 1 <;> first | rfl | exact pair_ext rfl rfl
  · exact ⟨hs.nsGreen, hs.ewGreen, hs.initial, fun (h : false = true) => absurd h (by decide),
      hs.mode, hs.returnMode⟩

/-- The handler that a frame reaches. -/
def handlerOf (msg : TestMessage) : Option Handler :=
  if msg.header.dst ≠ controllerLocal then none
  else if msg.header.type = msgHeartbeat then none
  else (handlers.find? (·.accepts msg.header)).map (·.handler)

def railwaySignalOp (s : LocalState) (msg : TestMessage) : SignalOp :=
  let railway := RailwayMsg.ofData msg.data
  if msg.header.src = controllerTrain ∧ railwayMatchesLocal s railway.intersectionId then
    if msg.header.type = msgRailwayPreempt ∧ railway.active ≠ 0 then
      .preempt railway.etaSeconds.toNat
    else if msg.header.type = msgTrainClear then .clear
    else .idle
  else .idle

def coordinationSignalOp (s : LocalState) (msg : TestMessage) : SignalOp :=
  let command := CoordinationCommandMsg.ofData msg.data
  if coordinationCommandValid s msg command then
    .coordinate (baseOf (phaseOfByte command.phase)) command.cycleOffsetSec.toNat
  else .idle

def pedSignalOp (s : LocalState) (msg : TestMessage) : SignalOp :=
  let ped := PedMsg.ofData msg.data
  if targetMatchesLocal s ped.intersectionId ∧ ped.direction ≤ Direction.ew.toByte ∧
      ped.pressed ≠ 0 then
    .press (directionOfByte ped.direction)
  else .idle

def frameSignalOp (s : LocalState) (msg : TestMessage) : SignalOp :=
  match handlerOf msg with
  | some .railway => railwaySignalOp s msg
  | some .coordination => coordinationSignalOp s msg
  | some .ped => pedSignalOp s msg
  | _ => .idle

def keySignalOp : Char → SignalOp
  | 'n' => .press .ns
  | 'e' => .press .ew
  | '1' | '2' => .demoTrain
  | 'c' => .clear
  | 'r' => .reset
  | _ => .idle

/-- The step of the signal machine that an operation is. -/
def signalOp (s : LocalState) : LocalOp → SignalOp
  | .timeOfDay => if trainDue s then .demoTrain else .idle
  | .trafficTick _ => .tick (greenTimeForDirection s .ns)
  | .frame msg _ => frameSignalOp s msg
  | .input command _ => if validInput command then keySignalOp (command.headD ' ') else .idle
  | .linkTimeout | .temporaryMode | .vehicleCounts _ | .markDirty | .links _ _ => .idle

theorem dispatch_eq (s : LocalState) (msg : TestMessage) (draws : Draws) :
    (localDispatchMessage s msg draws).1 =
      match handlerOf msg with
      | some handler => (handler.run s msg { status := 0, commandId := 0 } draws).1
      | none => s := by
  unfold localDispatchMessage handlerOf
  dsimp only
  split
  · rfl
  · split
    · rfl
    · cases handlers.find? (·.accepts msg.header) <;> rfl

theorem signalOf_applied (s : LocalState) (commandId : UInt16) :
    signalOf (applied s commandId) = signalOf s := rfl

theorem signalOf_handleSimulationMessage (s : LocalState) (msg : TestMessage) (reply : Reply)
    (draws : Draws) : signalOf (handleSimulationMessage s msg reply draws).1 = signalOf s := by
  unfold handleSimulationMessage
  cases parseSimCommand msg.data with
  | none => rfl
  | some command =>
      dsimp only
      split
      · rw [signalOf_applied]
        cases command.action with
        | start | stop => rfl
        | time minute => exact (signalOf_setSimSeconds _ _ _).trans rfl
      · rfl

theorem signalOf_modeAction {s s' : LocalState} {command : ModeCmdMsg}
    (h : modeActionLocked s command = some s') : signalOf s' = signalOf s := by
  unfold modeActionLocked at h
  dsimp only at h
  split_ifs at h
  all_goals
    obtain rfl := Option.some.inj h
    rfl

theorem signalOf_handleModeCommand (s : LocalState) (msg : TestMessage) (reply : Reply) :
    signalOf (handleModeCommand s msg reply).1 = signalOf s := by
  unfold handleModeCommand
  dsimp only
  split
  · cases haction : modeActionLocked s (ModeCmdMsg.ofData msg.data) with
    | none => rfl
    | some s' => exact (signalOf_applied _ _).trans (signalOf_modeAction haction)
  · rfl

theorem signalOf_handleSensorUpdate (s : LocalState) (msg : TestMessage) (reply : Reply) :
    signalOf (handleSensorUpdate s msg reply).1 = signalOf s := by
  unfold handleSensorUpdate
  dsimp only
  split_ifs <;> rfl

theorem signalOf_handlePedRequest {s : LocalState} (hs : Settings s) (msg : TestMessage)
    (reply : Reply) :
    signalOf (handlePedRequest s msg reply).1 = signalStep (signalOf s) (pedSignalOp s msg) := by
  unfold handlePedRequest pedSignalOp
  dsimp only
  split
  · exact signalOf_addPedestrianRequest hs _
  · rfl

theorem signalOf_handleCoordinationCommand (s : LocalState) (msg : TestMessage) (reply : Reply) :
    signalOf (handleCoordinationCommand s msg reply).1 =
      signalStep (signalOf s) (coordinationSignalOp s msg) := by
  unfold handleCoordinationCommand coordinationSignalOp
  dsimp only
  split <;> rfl

theorem signalOf_handleRailwayMessage (s : LocalState) (msg : TestMessage) (reply : Reply) :
    signalOf (handleRailwayMessage s msg reply).1 =
      signalStep (signalOf s) (railwaySignalOp s msg) := by
  unfold handleRailwayMessage railwaySignalOp
  dsimp only
  split_ifs
  · exact signalOf_startTrainMessage s _ _
  · exact signalOf_clearTrain s
  · rfl
  · rfl

theorem signalOf_dispatch {s : LocalState} (hs : Settings s) (msg : TestMessage)
    (draws : Draws) :
    signalOf (localDispatchMessage s msg draws).1 =
      signalStep (signalOf s) (frameSignalOp s msg) := by
  rw [dispatch_eq]
  unfold frameSignalOp
  cases handlerOf msg with
  | none => rfl
  | some handler =>
      cases handler with
      | simulation => exact signalOf_handleSimulationMessage ..
      | test => rfl
      | mode => exact signalOf_handleModeCommand ..
      | coordination => exact signalOf_handleCoordinationCommand ..
      | sensor => exact signalOf_handleSensorUpdate ..
      | ped => exact signalOf_handlePedRequest hs ..
      | railway => exact signalOf_handleRailwayMessage ..

theorem signalOf_executeKey {s : LocalState} (hs : Settings s) (key : Char) (draws : Draws) :
    signalOf (executeKey s key draws) = signalStep (signalOf s) (keySignalOp key) := by
  unfold executeKey
  split
  case h_1 => rfl
  case h_2 => exact signalOf_addPedestrianRequest hs .ns
  case h_3 => exact signalOf_addPedestrianRequest hs .ew
  case h_4 => exact signalOf_toggleSensor s .ns
  case h_5 => exact signalOf_toggleSensor s .ew
  case h_6 => exact signalOf_startTrainCommon s 1 false 0
  case h_7 => exact signalOf_startTrainCommon s 2 false 0
  case h_8 => exact signalOf_clearTrain s
  case h_9 => exact signalOf_resetDemoInputs hs draws
  case h_10 | h_11 | h_12 => exact (signalOf_setSimSeconds _ _ _).trans rfl
  case h_13 =>
      unfold keySignalOp
      split <;> first | rfl | contradiction

theorem signalOf_localStep {s : LocalState} (hs : Settings s)
    (hlights : ¬ (s.nsLight = .green ∧ s.ewLight = .green)) (op : LocalOp) :
    signalOf (localStep s op) = signalStep (signalOf s) (signalOp s op) := by
  cases op with
  | linkTimeout | markDirty | links => rfl
  | timeOfDay =>
      refine (signalOf_updateTimeOfDay s).trans ?_
      unfold signalOp
      dsimp only
      split <;> rfl
  | temporaryMode => exact signalOf_updateTemporaryMode s
  | trafficTick draws => exact signalOf_trafficTick hs hlights draws
  | vehicleCounts draws => exact signalOf_updateVehicleCounts s draws
  | frame msg draws => exact signalOf_dispatch hs msg draws
  | input command draws =>
      unfold localStep executeCommand signalOp
      dsimp only
      split
      · exact signalOf_executeKey hs _ draws
      · rfl

theorem settings_advancePhase {s : LocalState} (hs : Settings s) :
    Settings (advancePhaseLocked s) := by
  have hset : ∀ (base : Phase) (offset : Int),
      inputsOf (setCoordinationPhaseLocked s base offset) = inputsOf s := by
    intro base offset
    unfold setCoordinationPhaseLocked
    dsimp only
    split_ifs <;> (rw [inputsOf_setPhase]; rfl)
  unfold advancePhaseLocked
  split
  · have hcoordinated := hs.congr (hset s.coordinationPhase s.coordinationOffsetSec)
    exact ⟨hcoordinated.nsGreen, hcoordinated.ewGreen, hcoordinated.initial,
      fun (h : false = true) => absurd h (by decide), hcoordinated.mode, hcoordinated.returnMode⟩
  · refine hs.congr ?_
    split <;> simp

theorem settings_trafficTick {s : LocalState} (hs : Settings s)
    (hlights : ¬ (s.nsLight = .green ∧ s.ewLight = .green)) (draws : Draws) :
    Settings (trafficTickLocked s draws) := by
  unfold trafficTickLocked
  rw [if_neg hlights, if_neg hs.mode]
  split_ifs
  · refine hs.congr ?_
    unfold trainPendingTick
    dsimp only
    split
    · rw [inputsOf_setPhase]
      exact (inputsOf_updateLights _).trans (inputsOf_countDown s)
    · exact (inputsOf_updateLights _).trans (inputsOf_countDown s)
  · refine hs.congr ?_
    unfold trainActiveTick
    dsimp only
    split_ifs
    · rw [inputsOf_markStatusDirty, inputsOf_updateLights]
      exact inputsOf_countPass s
    · rw [inputsOf_clearTrain, inputsOf_countPass]
    · rw [inputsOf_setPhase, inputsOf_countPass]
  · refine hs.congr ?_
    unfold recoveryTick
    dsimp only
    split_ifs
    · rw [inputsOf_setInitialPhase]
      exact inputsOf_updateLights _
    · rw [inputsOf_setInitialPhase]
      exact inputsOf_updateLights _
    · exact inputsOf_updateLights _
  · unfold normalTick
    dsimp only
    have hkeep : inputsOf (updatePedestrianLocked (updateLightsLocked (countDown s))) =
        inputsOf s := by simp
    split
    · exact settings_advancePhase (hs.congr hkeep)
    · exact hs.congr hkeep

theorem settings_setSimSeconds {s : LocalState} (hs : Settings s) (seconds : Int)
    (draws : Draws) : Settings (setSimSecondsLocked s seconds draws) := by
  have hlast : ∀ (t : LocalState) (a b c : Int), Settings t → Settings
      { t with nextTrainInSeconds := a, nextTrainDirection := b, nextCarInSeconds := c } :=
    fun _ _ _ _ ht => ht.congr rfl
  unfold setSimSecondsLocked
  dsimp only
  refine hlast _ _ _ _ (settings_applyTimeSettings (hs.congr ?_))
  split <;> rfl

theorem settings_resetDemoInputs {s : LocalState} (hs : Settings s) (draws : Draws) :
    Settings (resetDemoInputsLocked s draws) := by
  unfold resetDemoInputsLocked
  dsimp only
  refine Settings.congr (settings_applyTimeSettings ?_)
    ((inputsOf_markStatusDirty _).trans (inputsOf_setInitialPhase _))
  exact ⟨hs.nsGreen, hs.ewGreen, hs.initial, fun (h : false = true) => absurd h (by decide),
    hs.mode, hs.returnMode⟩

theorem settings_updateTemporaryMode {s : LocalState} (hs : Settings s) :
    Settings (updateTemporaryModeLocked s) := by
  unfold updateTemporaryModeLocked
  dsimp only
  split_ifs
  · exact hs
  · refine Settings.congr (settings_applyTimeSettings ?_) rfl
    exact ⟨hs.nsGreen, hs.ewGreen, hs.initial, hs.coordination, hs.returnMode, hs.returnMode⟩
  · exact hs.congr rfl

theorem settings_toggleSensor {s : LocalState} (hs : Settings s) (d : Direction) :
    Settings (toggleSensorLocked s d) := by
  unfold toggleSensorLocked
  dsimp only
  refine Settings.congr ?_ (inputsOf_markStatusDirty _)
  split
  all_goals exact ⟨hs.nsGreen, hs.ewGreen, hs.initial, hs.coordination, hs.mode, hs.returnMode⟩

theorem settings_updateVehicleCounts {s : LocalState} (hs : Settings s) (draws : Draws) :
    Settings (updateVehicleCountsLocked s draws) := by
  obtain ⟨ns, ew, next, hcars⟩ := carsOnly_updateVehicleCounts s draws
  rw [hcars]
  exact ⟨hs.nsGreen, hs.ewGreen, hs.initial, hs.coordination, hs.mode, hs.returnMode⟩

theorem settings_updateTimeOfDay {s : LocalState} (hs : Settings s) :
    Settings (updateTimeOfDayLocked s) := by
  have hclock : Settings (advanceClock s) := by
    unfold advanceClock
    dsimp only
    have htime : Settings (applyTimeSettingsLocked
        { s with simSeconds := (s.simSeconds + simSecondsPerTick).tmod secondsPerDay }) := by
      refine settings_applyTimeSettings (hs.congr ?_)
      rfl
    split
    · exact htime.congr rfl
    · exact htime
  unfold updateTimeOfDayLocked
  dsimp only
  split_ifs
  · exact hs
  · have htrain := inputsOf_startTrainCommon (advanceClock s)
      (advanceClock s).nextTrainDirection false 0
    exact (hclock.congr htrain).congr rfl
  · exact hclock

theorem trafficModeOfByte_le {newMode : UInt8} (h : newMode ≤ TrafficLightMode.sensor.toByte) :
    trafficModeOfByte newMode = .fixed ∨ trafficModeOfByte newMode = .sensor := by
  have hcases : newMode = 0 ∨ newMode = 1 := by
    have h' : newMode.toNat ≤ 1 := h
    rcases Nat.le_one_iff_eq_zero_or_eq_one.mp h' with h0 | h1
    · exact .inl (UInt8.toNat_inj.mp h0)
    · exact .inr (UInt8.toNat_inj.mp h1)
  rcases hcases with rfl | rfl
  · exact .inl rfl
  · exact .inr rfl

theorem settings_handleModeCommand {s : LocalState} (hs : Settings s) (msg : TestMessage)
    (reply : Reply) : Settings (handleModeCommand s msg reply).1 := by
  unfold handleModeCommand
  dsimp only
  split
  · rename_i hvalid
    have hmode : trafficModeOfByte (ModeCmdMsg.ofData msg.data).newMode ≠ .failsafe := by
      simp only [modeCommandValid, decide_eq_true_eq] at hvalid
      rcases trafficModeOfByte_le hvalid.2.2.2.1 with h | h <;> rw [h] <;> decide
    have hfixed : TrafficLightMode.fixed ≠ .failsafe := by decide
    cases haction : modeActionLocked s (ModeCmdMsg.ofData msg.data) with
    | none => exact hs
    | some s' =>
        refine Settings.congr (s := s') ?_ rfl
        unfold modeActionLocked at haction
        dsimp only at haction
        split_ifs at haction
        all_goals
          obtain rfl := Option.some.inj haction
          first
          | exact hs
          | exact ⟨hs.nsGreen, hs.ewGreen, hs.initial, hs.coordination, hmode, hs.returnMode⟩
          | exact ⟨hs.nsGreen, hs.ewGreen, hs.initial, hs.coordination, hmode, hs.mode⟩
          | exact ⟨hs.nsGreen, hs.ewGreen, hs.initial, hs.coordination, hs.returnMode,
              hs.returnMode⟩
          | exact ⟨hs.nsGreen, hs.ewGreen, hs.initial, hs.coordination, hfixed, hs.returnMode⟩
  · exact hs

theorem phaseOfByte_valid {s : LocalState} {msg : TestMessage} {command : CoordinationCommandMsg}
    (h : coordinationCommandValid s msg command = true) :
    phaseOfByte command.phase = .nsGreen ∨ phaseOfByte command.phase = .ewGreen := by
  simp only [coordinationCommandValid, decide_eq_true_eq] at h
  rcases h.2.2.2.2.2.2 with hphase | hphase <;> rw [hphase]
  · exact .inl rfl
  · exact .inr rfl

theorem settings_dispatch {s : LocalState} (hs : Settings s) (msg : TestMessage)
    (draws : Draws) : Settings (localDispatchMessage s msg draws).1 := by
  rw [dispatch_eq]
  cases handlerOf msg with
  | none => exact hs
  | some handler =>
      cases handler with
      | test => exact hs
      | mode => exact settings_handleModeCommand hs ..
      | simulation =>
          dsimp only [Handler.run]
          unfold handleSimulationMessage
          cases parseSimCommand msg.data with
          | none => exact hs
          | some command =>
              dsimp only
              split
              · refine Settings.congr (s := simActionLocked s command.action draws) ?_ rfl
                cases command.action with
                | start | stop => exact hs.congr rfl
                | time minute =>
                    refine settings_setSimSeconds (hs.congr ?_) _ draws
                    rfl
              · exact hs
      | coordination =>
          dsimp only [Handler.run]
          unfold handleCoordinationCommand
          dsimp only
          split
          · rename_i hvalid
            have hfixed : TrafficLightMode.fixed ≠ .failsafe := by decide
            exact ⟨hs.nsGreen, hs.ewGreen, hs.initial, fun _ => phaseOfByte_valid hvalid,
              hfixed, hs.returnMode⟩
          · exact hs
      | sensor =>
          dsimp only [Handler.run]
          unfold handleSensorUpdate
          dsimp only
          split_ifs
          all_goals
            exact ⟨hs.nsGreen, hs.ewGreen, hs.initial, hs.coordination, hs.mode, hs.returnMode⟩
      | ped =>
          dsimp only [Handler.run]
          unfold handlePedRequest
          dsimp only
          split
          · exact hs.congr (inputsOf_addPedestrianRequest ..)
          · exact hs
      | railway =>
          dsimp only [Handler.run]
          unfold handleRailwayMessage
          dsimp only
          split_ifs
          · exact hs.congr (inputsOf_startTrainMessage ..)
          · exact hs.congr (inputsOf_clearTrain s)
          · exact hs
          · exact hs

theorem settings_executeKey {s : LocalState} (hs : Settings s) (key : Char) (draws : Draws) :
    Settings (executeKey s key draws) := by
  unfold executeKey
  split
  · refine ⟨hs.nsGreen, hs.ewGreen, hs.initial, hs.coordination, ?_, hs.returnMode⟩
    change (if s.trafficMode = .fixed then TrafficLightMode.sensor else .fixed) ≠ .failsafe
    split <;> decide
  · exact hs.congr (inputsOf_addPedestrianRequest ..)
  · exact hs.congr (inputsOf_addPedestrianRequest ..)
  · exact settings_toggleSensor hs .ns
  · exact settings_toggleSensor hs .ew
  · exact hs.congr (inputsOf_startTrainCommon ..)
  · exact hs.congr (inputsOf_startTrainCommon ..)
  · exact hs.congr (inputsOf_clearTrain s)
  · exact settings_resetDemoInputs hs draws
  iterate 3
    · refine settings_setSimSeconds (hs.congr ?_) _ draws
      rfl
  · exact hs

theorem settings_localStep {s : LocalState} (hs : Settings s)
    (hlights : ¬ (s.nsLight = .green ∧ s.ewLight = .green)) (op : LocalOp) :
    Settings (localStep s op) := by
  cases op with
  | linkTimeout | markDirty | links => exact hs.congr rfl
  | timeOfDay => exact settings_updateTimeOfDay hs
  | temporaryMode => exact settings_updateTemporaryMode hs
  | trafficTick draws => exact settings_trafficTick hs hlights draws
  | vehicleCounts draws => exact settings_updateVehicleCounts hs draws
  | frame msg draws => exact settings_dispatch hs msg draws
  | input command draws =>
      unfold localStep executeCommand
      dsimp only
      split
      · exact (settings_executeKey hs _ draws).congr rfl
      · exact hs

end TrafficLight.SignalRefinement
