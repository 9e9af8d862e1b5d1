import TrafficLight.SignalFrame
import TrafficLight.SignalRefinement
import TrafficLight.StatusDelivery

namespace TrafficLight.FailsafeAlarm

open TrafficLight.Runs
open TrafficLight.Protocol
open TrafficLight.Telemetry
open TrafficLight.LocalData
open TrafficLight.LocalTraffic
open TrafficLight.LocalMessages
open TrafficLight.LocalCore
open TrafficLight.SignalFrame
open TrafficLight.SignalRefinement
open TrafficLight.LocalReports
open TrafficLight.StatusHistory
open TrafficLight.StatusDelivery

/-- An operation of the Local, or a moment at which both stored lamp outputs
turn green. -/
inductive AlarmStep
  | op (op : LocalOp)
  | greens

def alarmStep (s : LocalState) : AlarmStep → LocalState
  | .op op => localStep s op
  | .greens => { s with nsLight := .green, ewLight := .green }

/-- A core turn in the steps above. -/
def turnSteps (step : CoreStep) : List AlarmStep := step.ops.map .op

/-- Fail-safe is announced: by the fault, and by the heartbeat that is made from
the core's reply, which is the one the state itself would give. -/
structure Announced (s : LocalState) : Prop where
  fault : s.trafficMode = .failsafe → s.faultActive = true ∧ s.faultType = .notWorking
  unhealthy : s.trafficMode = .failsafe → ∀ sequence,
    (heartbeatOf (fillStatusLocked s) sequence).healthy = 0
  agrees : ∀ sequence, (heartbeatOf (fillStatusLocked s) sequence).healthy =
    (prepareHeartbeatMessageLocked s).healthy

/-- A reset in fail-safe, or the end of an overlay that returns to fail-safe when
no fault is active. -/
def Silences (s : LocalState) : AlarmStep → Prop
  | .op (.input command _) => command = ['r'] ∧ s.trafficMode = .failsafe
  | .op .temporaryMode =>
      s.tempModeRemaining = 1 ∧ s.tempReturnMode = .failsafe ∧ s.faultActive = false
  | _ => False

structure Alarm where
  mode : TrafficLightMode
  active : Bool
  type : FaultType

def alarmOf (s : LocalState) : Alarm := ⟨s.trafficMode, s.faultActive, s.faultType⟩

/-- Fail-safe has a fault, and every fault is the one of conflicting lamps. -/
structure Alarm.Loud (a : Alarm) : Prop where
  failsafe : a.mode = .failsafe → a.active = true
  type : a.active = true → a.type = .notWorking

def Loud (s : LocalState) : Prop := (alarmOf s).Loud

variable {s t : LocalState}

theorem Loud.congr (h : Loud s) (heq : alarmOf t = alarmOf s) : Loud t := by
  unfold Loud
  rw [heq]
  exact h

theorem alarm_of_frame {direction : Int} (h : Frame s t direction) : alarmOf t = alarmOf s :=
  congrArg (fun u => Alarm.mk u.trafficMode u.faultActive u.faultType) h.surroundings

theorem Loud.frame {direction : Int} (h : Loud s) (hframe : Frame s t direction) : Loud t :=
  h.congr (alarm_of_frame hframe)

theorem alarm_markStatusDirty (s : LocalState) :
    alarmOf (markStatusDirtyLocked s) = alarmOf s := rfl

theorem Loud.withMode (h : Loud s) (hmode : t.trafficMode ≠ .failsafe)
    (hactive : t.faultActive = s.faultActive) (htype : t.faultType = s.faultType) : Loud t := by
  refine ⟨fun heq => absurd heq hmode, fun heq => ?_⟩
  exact htype.trans (h.type (hactive.symm.trans heq))

theorem loud_clearFault (hmode : s.trafficMode ≠ .failsafe) : Loud (clearFaultLocked s) :=
  ⟨fun heq => absurd heq hmode, Bool.noConfusion⟩

theorem flag_eq_zero {b : Bool} : flag b = 0 ↔ b = false := by
  cases b <;> decide

theorem healthy_fillStatus (s : LocalState) (sequence : UInt16) :
    (heartbeatOf (fillStatusLocked s) sequence).healthy =
      flag (decide (s.faultActive = false ∧ displayMode s ≠ .failsafe)) := by
  have hmode : (displayMode s).toByte = modeFailsafe ↔ displayMode s = .failsafe := by
    cases displayMode s <;> decide
  have hactive : (fillStatusLocked s).faultActive = 0 ↔ s.faultActive = false := flag_eq_zero
  show flag (decide ((fillStatusLocked s).faultActive = 0 ∧
    (displayMode s).toByte ≠ modeFailsafe)) = _
  simp only [hactive, ne_eq, hmode]

theorem Loud.announced (h : Loud s) : Announced s := by
  have hdisplay : s.faultActive = false →
      (displayMode s ≠ .failsafe ↔ s.trafficMode ≠ .failsafe) := by
    intro hactive
    have hmode : s.trafficMode ≠ .failsafe := fun heq =>
      Bool.noConfusion (hactive.symm.trans (h.failsafe heq))
    refine ⟨fun _ => hmode, fun _ => ?_⟩
    unfold displayMode
    split
    · exact TrafficLightMode.noConfusion
    · exact hmode
  refine ⟨fun heq => ⟨h.failsafe heq, h.type (h.failsafe heq)⟩, fun heq sequence => ?_,
    fun sequence => ?_⟩
  · rw [healthy_fillStatus, flag_eq_zero, decide_eq_false_iff_not]
    exact fun hhealthy => Bool.noConfusion (hhealthy.1.symm.trans (h.failsafe heq))
  · rw [healthy_fillStatus]
    exact congrArg flag (decide_eq_decide.mpr (and_congr_right hdisplay))

theorem loud_enterFailsafe (s : LocalState) : Loud (enterFailsafe s) :=
  ⟨fun _ => rfl, fun _ => rfl⟩

theorem Loud.trafficTick (h : Loud s) (draws : Draws) : Loud (trafficTickLocked s draws) := by
  by_cases hlights : s.nsLight = .green ∧ s.ewLight = .green
  · unfold trafficTickLocked
    rw [if_pos hlights]
    exact loud_enterFailsafe s
  · exact h.frame (frame_trafficTick s draws hlights)

theorem Loud.applyTimeSettings (h : Loud s) : Loud (applyTimeSettingsLocked s) := by
  unfold applyTimeSettingsLocked
  split
  · refine h.withMode ?_ rfl rfl
    show (if isPeakTime s.simSeconds = true then TrafficLightMode.fixed else .sensor) ≠ .failsafe
    split <;> exact TrafficLightMode.noConfusion
  · exact h

theorem Loud.updateTimeOfDay (h : Loud s) : Loud (updateTimeOfDayLocked s) := by
  have hclock : Loud (advanceClock s) := by
    have htime : Loud (applyTimeSettingsLocked
        { s with simSeconds := (s.simSeconds + simSecondsPerTick).tmod secondsPerDay }) := by
      apply Loud.applyTimeSettings
      exact h
    unfold advanceClock
    dsimp only
    split
    · exact htime.congr rfl
    · exact htime
  unfold updateTimeOfDayLocked
  dsimp only
  split_ifs
  · exact h
  · exact hclock.frame (frame_ownTrain _)
  · exact hclock

theorem Loud.updateTemporaryMode (h : Loud s)
    (hquiet : ¬ Silences s (.op .temporaryMode)) : Loud (updateTemporaryModeLocked s) := by
  unfold updateTemporaryModeLocked
  dsimp only
  split_ifs with hnone hover
  · exact h
  · refine Loud.congr ?_ (s := applyTimeSettingsLocked _) rfl
    apply Loud.applyTimeSettings
    refine ⟨fun hmode => ?_, h.type⟩
    by_contra hactive
    exact hquiet ⟨by omega, hmode, Bool.not_eq_true _ ▸ hactive⟩
  · exact h

theorem Loud.setSimSeconds (h : Loud s) (seconds : Int) (draws : Draws) :
    Loud (setSimSecondsLocked s seconds draws) := by
  unfold setSimSecondsLocked
  extract_lets t u w
  have hu : Loud u := by
    dsimp only [u]
    split <;> exact h
  exact hu.applyTimeSettings.congr rfl

theorem alarm_resetDemoInputs (s : LocalState) (draws : Draws) :
    ∃ t : LocalState, alarmOf t = ⟨s.trafficMode, false, .none⟩ ∧
      alarmOf (resetDemoInputsLocked s draws) = alarmOf (applyTimeSettingsLocked t) := by
  unfold resetDemoInputsLocked
  extract_lets t u w
  refine ⟨w, rfl, ?_⟩
  exact alarm_of_frame ((frame_setInitialPhase (applyTimeSettingsLocked w)).trans
    (frame_markStatusDirty _))

theorem Loud.resetDemoInputs (hmode : s.trafficMode ≠ .failsafe) (draws : Draws) :
    Loud (resetDemoInputsLocked s draws) := by
  obtain ⟨t, ht, hreset⟩ := alarm_resetDemoInputs s draws
  have hloud : Loud t := by
    unfold Loud
    rw [ht]
    exact ⟨fun heq => absurd heq hmode, Bool.noConfusion⟩
  exact hloud.applyTimeSettings.congr hreset

theorem Loud.modeAction {command : ModeCmdMsg} (h : Loud s)
    (hnew : command.newMode ≤ TrafficLightMode.sensor.toByte)
    (haction : modeActionLocked s command = some t) : Loud t := by
  have hmode : trafficModeOfByte command.newMode ≠ .failsafe := by
    rcases trafficModeOfByte_le hnew with heq | heq <;> rw [heq] <;> decide
  unfold modeActionLocked at haction
  split at haction
  · cases haction
    exact loud_clearFault hmode
  · split at haction
    · cases haction
      exact loud_clearFault hmode
    · split at haction
      · obtain rfl := Option.some.inj haction
        have hfixed : TrafficLightMode.fixed ≠ .failsafe := TrafficLightMode.noConfusion
        split
        · split
          · exact loud_clearFault hfixed
          · rename_i hother
            exact h.withMode hother rfl rfl
        · split
          · exact loud_clearFault hfixed
          · exact h
      · cases haction

theorem Loud.handler (h : Loud s) (handler : Handler) (msg : TestMessage) (reply : Reply)
    (draws : Draws) : Loud (handler.run s msg reply draws).1 := by
  cases handler with
  | test => exact h
  | simulation =>
      dsimp only [Handler.run]
      unfold handleSimulationMessage
      cases parseSimCommand msg.data with
      | none => exact h
      | some command =>
          dsimp only
          split
          · have haction : Loud (simActionLocked s command.action draws) := by
              cases command.action with
              | start | stop => exact h
              | time minute =>
                  apply Loud.setSimSeconds
                  exact h
            exact haction
          · exact h
  | mode =>
      dsimp only [Handler.run]
      unfold handleModeCommand
      dsimp only
      split
      · rename_i hvalid
        cases haction : modeActionLocked s (ModeCmdMsg.ofData msg.data) with
        | none => exact h
        | some t =>
            have ht := h.modeAction (of_decide_eq_true hvalid).2.2.2.1 haction
            exact ht.congr rfl
      · exact h
  | coordination =>
      dsimp only [Handler.run]
      unfold handleCoordinationCommand
      dsimp only
      split
      · exact ⟨TrafficLightMode.noConfusion, Bool.noConfusion⟩
      · exact h
  | sensor =>
      dsimp only [Handler.run]
      unfold handleSensorUpdate
      dsimp only
      split_ifs <;> exact h
  | ped =>
      dsimp only [Handler.run]
      unfold handlePedRequest
      dsimp only
      split
      · exact h.frame (frame_addPedestrianRequest s _)
      · exact h
  | railway =>
      dsimp only [Handler.run]
      unfold handleRailwayMessage
      dsimp only
      split_ifs
      · exact h.frame (frame_startTrainMessage s _ _)
      · exact h.frame (frame_clearTrain s)
      · exact h
      · exact h

theorem Loud.dispatch (h : Loud s) (msg : TestMessage) (draws : Draws) :
    Loud (localDispatchMessage s msg draws).1 := by
  rw [dispatch_eq]
  cases handlerOf msg with
  | none => exact h
  | some handler => exact h.handler handler msg _ draws

theorem Loud.executeKey (h : Loud s) {key : Char} (hkey : key = 'r' → s.trafficMode ≠ .failsafe)
    (draws : Draws) : Loud (executeKey s key draws) := by
  have hsensor : ∀ d, alarmOf (toggleSensorLocked s d) = alarmOf s := by
    intro d
    unfold toggleSensorLocked
    dsimp only
    split <;> rfl
  unfold LocalMessages.executeKey
  split
  · refine h.withMode ?_ rfl rfl
    show (if s.trafficMode = .fixed then TrafficLightMode.sensor else .fixed) ≠ .failsafe
    split <;> exact TrafficLightMode.noConfusion
  · exact h.frame (frame_addPedestrianRequest s .ns)
  · exact h.frame (frame_addPedestrianRequest s .ew)
  · exact h.congr (hsensor .ns)
  · exact h.congr (hsensor .ew)
  · exact h.frame (frame_startTrainCommon s 1 false 0)
  · exact h.frame (frame_startTrainCommon s 2 false 0)
  · exact h.frame (frame_clearTrain s)
  · exact Loud.resetDemoInputs (hkey rfl) draws
  · refine Loud.setSimSeconds ?_ _ draws
    exact h
  · refine Loud.setSimSeconds ?_ _ draws
    exact h
  · refine Loud.setSimSeconds ?_ _ draws
    exact h
  · exact h

theorem eq_of_validInput {command : List Char} (h : validInput command = true) :
    command = [command.headD ' '] := by
  match command, h with
  | [_], _ => rfl

theorem Loud.step (h : Loud s) {step : AlarmStep} (hquiet : ¬ Silences s step) :
    Loud (alarmStep s step) := by
  cases step with
  | greens => exact h
  | op op =>
      cases op with
      | linkTimeout | markDirty | links => exact h
      | timeOfDay => exact h.updateTimeOfDay
      | temporaryMode => exact h.updateTemporaryMode hquiet
      | trafficTick draws => exact h.trafficTick draws
      | vehicleCounts draws =>
          obtain ⟨ns, ew, next, hcars⟩ := carsOnly_updateVehicleCounts s draws
          show Loud (updateVehicleCountsLocked s draws)
          rw [hcars]
          exact h
      | frame msg draws => exact h.dispatch msg draws
      | input command draws =>
          dsimp only [alarmStep, localStep]
          unfold executeCommand
          split
          · rename_i hvalid
            refine Loud.congr (h.executeKey (fun hkey hmode => ?_) draws) rfl
            apply hquiet
            refine ⟨?_, hmode⟩
            rw [eq_of_validInput hvalid, hkey]
          · exact h

theorem silent_of_alarm {type : FaultType} (h : alarmOf s = ⟨.failsafe, false, type⟩) :
    ¬ Announced s := by
  intro hannounced
  have hfault := hannounced.fault (congrArg Alarm.mode h)
  exact Bool.noConfusion ((congrArg Alarm.active h).symm.trans hfault.1)

theorem executeCommand_reset (s : LocalState) (draws : Draws) :
    (executeCommand s ['r'] draws).1 =
      markStatusDirtyLocked (resetDemoInputsLocked s draws) := by
  unfold executeCommand
  rw [if_pos (by decide)]
  rfl

theorem silent_of_silences {step : AlarmStep} (h : Silences s step) :
    ¬ Announced (alarmStep s step) := by
  cases step with
  | greens => exact fun _ => h
  | op op =>
      cases op with
      | linkTimeout | markDirty | links | timeOfDay | trafficTick | vehicleCounts | frame =>
          exact fun _ => h
      | temporaryMode =>
          obtain ⟨hlast, hmode, hactive⟩ := h
          apply @silent_of_alarm _ s.faultType
          show alarmOf (updateTemporaryModeLocked s) = _
          unfold updateTemporaryModeLocked applyTimeSettingsLocked
          simp [hlast, hmode, hactive, alarmOf, markStatusDirtyLocked]
      | input command draws =>
          obtain ⟨rfl, hmode⟩ := h
          obtain ⟨t, ht, hreset⟩ := alarm_resetDemoInputs s draws
          rw [hmode] at ht
          have hkept : applyTimeSettingsLocked t = t :=
            if_neg fun hother => hother.2 (congrArg Alarm.mode ht)
          rw [hkept, ht] at hreset
          apply silent_of_alarm
          dsimp only [alarmStep, localStep]
          rw [executeCommand_reset, alarm_markStatusDirty, hreset]

theorem alarm_init (intersectionId : UInt8) (draws : Draws) :
    alarmOf (localStateInit intersectionId draws) = ⟨.sensor, false, .none⟩ := by
  unfold localStateInit
  generalize intersectionOf intersectionId = id
  fin_cases id <;> rfl

theorem loud_booted (h : Booted s) : Loud s := by
  obtain ⟨intersectionId, draws, rfl⟩ := h
  unfold Loud
  rw [alarm_init]
  exact ⟨TrafficLightMode.noConfusion, Bool.noConfusion⟩

/-- In a run of a Local fail-safe is announced in every state exactly when no step
is a reset in fail-safe or an overlay ending in it with no fault. -/
theorem announced_iff (hboot : Booted s) (steps : List AlarmStep) :
    Throughout alarmStep Announced s steps ↔
      Along alarmStep (fun s step => ¬ Silences s step) s steps := by
  have htrue : Along alarmStep (fun _ _ => True) s steps :=
    (along_forall alarmStep (fun _ => True) s steps).mpr fun _ _ => trivial
  refine throughout_iff_of_invariant (J := Loud) (fun s step hs _ hquiet => hs.step hquiet)
    (fun s hs => hs.announced) (fun s step _ _ hannounced hsilences => ?_)
    (loud_booted hboot) htrue
  exact silent_of_silences hsilences hannounced

/-- Conflicting lamps, a tick, and a reset. -/
def resetRun : List AlarmStep :=
  .greens :: turnSteps (.tick false Draws.zero) ++ turnSteps (.input ['r'] Draws.zero)

theorem announced_iff_reset :
    ¬ Throughout alarmStep Announced (localStateInit 0 Draws.zero) resetRun := by
  intro h
  have hquiet := (announced_iff ⟨0, Draws.zero, rfl⟩ resetRun).mp h
  obtain ⟨-, -, -, -, -, -, hlast, -⟩ := hquiet
  exact hlast ⟨rfl, by decide⟩

/-- After the reset a train is called: fail-safe with no fault, and a heartbeat
that is healthy. -/
theorem silent_failsafe :
    let s := run alarmStep (localStateInit 0 Draws.zero)
      (resetRun ++ turnSteps (.input ['1'] Draws.zero))
    s.trafficMode = .failsafe ∧ s.faultActive = false ∧
      (heartbeatOf (fillStatusLocked s) 0).healthy = 1 ∧
      (prepareHeartbeatMessageLocked s).healthy = 0 := by
  decide

end TrafficLight.FailsafeAlarm
