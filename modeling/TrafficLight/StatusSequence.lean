import TrafficLight.LocalReports
import TrafficLight.SignalFrame

namespace TrafficLight.StatusSequence

open TrafficLight.Protocol
open TrafficLight.LocalData
open TrafficLight.LocalTraffic
open TrafficLight.LocalMessages
open TrafficLight.LocalCore
open TrafficLight.LocalReports
open TrafficLight.SignalFrame

/-- The status was counted on at most `n` times on the way. -/
def Counts (n : Nat) (s s' : LocalState) : Prop :=
  ∃ k ≤ n, s'.statusSequence = bumpSequence^[k] s.statusSequence

variable {n m : Nat} {s t u : LocalState}

theorem Counts.of_eq (h : t.statusSequence = s.statusSequence) : Counts n s t :=
  ⟨0, Nat.zero_le n, h⟩

theorem Counts.refl (s : LocalState) : Counts n s s := .of_eq rfl

theorem Counts.mono (h : Counts n s t) (hle : n ≤ m) : Counts m s t := by
  obtain ⟨k, hk, hsequence⟩ := h
  exact ⟨k, hk.trans hle, hsequence⟩

theorem Counts.trans (h : Counts n s t) (h' : Counts m t u) : Counts (n + m) s u := by
  obtain ⟨k, hk, hsequence⟩ := h
  obtain ⟨l, hl, hsequence'⟩ := h'
  refine ⟨l + k, by omega, ?_⟩
  rw [hsequence', hsequence, Function.iterate_add_apply]

theorem Counts.congr (h : Counts n s t) (heq : u.statusSequence = t.statusSequence) :
    Counts n s u := by
  obtain ⟨k, hk, hsequence⟩ := h
  exact ⟨k, hk, heq.trans hsequence⟩

theorem Counts.mark (h : Counts n s t) : Counts (n + 1) s (markStatusDirtyLocked t) :=
  h.trans ⟨1, le_rfl, rfl⟩

theorem Counts.mark_ne (h : Counts n s t) (hn : n + 1 < 65535) :
    (markStatusDirtyLocked t).statusSequence ≠ s.statusSequence := by
  obtain ⟨k, hk, hsequence⟩ := h
  show bumpSequence t.statusSequence ≠ s.statusSequence
  rw [hsequence, ← Function.iterate_succ_apply' bumpSequence]
  exact iterate_bumpSequence_ne _ (by omega)

@[simp] theorem sequence_updateLights (s : LocalState) :
    (updateLightsLocked s).statusSequence = s.statusSequence := by
  unfold updateLightsLocked
  split
  · rfl
  · split <;> rfl

@[simp] theorem sequence_setPhase (s : LocalState) (phase : Phase) (duration : Int) :
    (setPhaseLocked s phase duration).statusSequence = bumpSequence s.statusSequence :=
  congrArg bumpSequence (sequence_updateLights _)

theorem Counts.setPhase (h : Counts n s t) (phase : Phase) (duration : Int) :
    Counts (n + 1) s (setPhaseLocked t phase duration) :=
  h.mark.congr (sequence_setPhase t phase duration)

@[simp] theorem sequence_nextGreenTime (s : LocalState) (d : Direction) :
    (nextGreenTimeForDirection s d).2.statusSequence = s.statusSequence := by
  unfold nextGreenTimeForDirection
  dsimp only
  split_ifs <;> rfl

theorem Counts.startGreen (h : Counts n s t) (phase : Phase) (d : Direction) (duration : Int) :
    Counts (n + 1) s (setPhaseLocked (nextGreenTimeForDirection t d).2 phase duration) :=
  (h.congr (sequence_nextGreenTime t d)).setPhase phase duration

theorem Counts.setInitialPhase (h : Counts n s t) : Counts (n + 1) s (setInitialPhaseLocked t) :=
  h.startGreen _ _ _

theorem Counts.setCoordinationPhase (h : Counts n s t) (base : Phase) (offset : Int) :
    Counts (n + 1) s (setCoordinationPhaseLocked t base offset) := by
  unfold setCoordinationPhaseLocked
  extract_lets t'
  have ht' : Counts n s t' := h.congr rfl
  split_ifs <;> exact ht'.setPhase _ _

theorem Counts.advancePhase (h : Counts n s t) : Counts (n + 1) s (advancePhaseLocked t) := by
  unfold advancePhaseLocked
  split
  · exact (h.setCoordinationPhase _ _).congr rfl
  · split
    · exact h.setPhase _ _
    · exact h.startGreen _ .ew _
    · exact h.setPhase _ _
    · exact h.startGreen _ .ns _
    · exact h.startGreen _ .ns _

@[simp] theorem sequence_updatePedestrian (s : LocalState) :
    (updatePedestrianLocked s).statusSequence = s.statusSequence := by
  unfold updatePedestrianLocked
  dsimp only
  split_ifs <;> rfl

@[simp] theorem sequence_capGreen (s : LocalState) (d : Direction) :
    (capGreenForPedestrianLocked s d).statusSequence = s.statusSequence := by
  unfold capGreenForPedestrianLocked
  dsimp only
  split_ifs <;> rfl

/-- Nothing was done, or what was done ends with a mark. -/
def Marked (n : Nat) (s s' : LocalState) : Prop :=
  s' = s ∨ ∃ t, Counts n s t ∧ s' = markStatusDirtyLocked t

theorem Marked.refl (s : LocalState) : Marked n s s := Or.inl rfl

theorem Counts.marked (h : Counts n s t) : Marked n s (markStatusDirtyLocked t) :=
  Or.inr ⟨t, h, rfl⟩

theorem Marked.mono (h : Marked n s t) (hle : n ≤ m) : Marked m s t :=
  h.imp_right fun ⟨u, hu, heq⟩ => ⟨u, hu.mono hle, heq⟩

theorem Marked.counts (h : Marked n s t) : Counts (n + 1) s t := by
  rcases h with rfl | ⟨u, hu, rfl⟩
  · exact Counts.refl t
  · exact hu.mark

theorem startTrainCommon_marked (s : LocalState) (direction : Int) (wait : Bool) (eta : Int) :
    Marked 1 s (startTrainCommonLocked s direction wait eta) := by
  unfold startTrainCommonLocked
  split
  · exact Marked.refl s
  · extract_lets t u
    have ht : Counts 0 s t := Counts.of_eq rfl
    have hu : Counts 1 s u := by
      dsimp only [u]
      split_ifs
      · exact ht.setPhase _ _
      · exact ht.setPhase _ _
      · apply Counts.setPhase
        exact ht.congr rfl
      · exact ht.mono (by omega)
    exact hu.marked

theorem startTrainMessage_marked (s : LocalState) (direction eta : Int) :
    Marked 1 s (startTrainMessageLocked s direction eta) := by
  unfold startTrainMessageLocked
  extract_lets eta' t u
  have ht : Counts 0 s t := Counts.of_eq rfl
  have hu : Counts 1 s u := by
    dsimp only [u]
    split
    · exact ht.setPhase _ _
    · exact ht.mono (by omega)
  split
  · exact hu.marked
  · exact startTrainCommon_marked s _ _ _

theorem addPedestrianRequest_marked (s : LocalState) (d : Direction) :
    Marked 0 s (addPedestrianRequestLocked s d) := by
  unfold addPedestrianRequestLocked
  dsimp only
  apply Counts.marked
  apply Counts.of_eq
  split_ifs <;> simp

theorem clearTrain_marked (s : LocalState) : Marked 1 s (clearTrainLocked s) := by
  unfold clearTrainLocked
  split
  · refine Counts.marked (Counts.setPhase ?_ _ _)
    exact Counts.of_eq rfl
  · exact Marked.refl s

@[simp] theorem sequence_countDown (s : LocalState) :
    (countDown s).statusSequence = s.statusSequence := by
  unfold countDown
  split <;> rfl

@[simp] theorem sequence_countPass (s : LocalState) :
    (countPass s).statusSequence = s.statusSequence := by
  unfold countPass
  split <;> rfl

theorem Counts.trainPendingTick (h : Counts n s t) : Counts (n + 1) s (trainPendingTick t) := by
  have hlights : Counts n s (updateLightsLocked (countDown t)) := h.congr (by simp)
  unfold LocalTraffic.trainPendingTick
  dsimp only
  split
  · apply Counts.setPhase
    exact hlights.congr rfl
  · exact hlights.mono (by omega)

theorem Counts.trainActiveTick (h : Counts n s t) : Counts (n + 2) s (trainActiveTick t) := by
  have hpass : Counts n s (countPass t) := h.congr (by simp)
  unfold LocalTraffic.trainActiveTick
  dsimp only
  split_ifs
  · have hlights := hpass.congr (u := updateLightsLocked
      { countPass t with
        phase := .railwayHold
        timeRemaining := (countPass t).trainPassRemaining }) (sequence_updateLights _)
    exact hlights.mark.mono (by omega)
  · exact hpass.trans (clearTrain_marked _).counts
  · exact (hpass.setPhase _ _).mono (by omega)

theorem Counts.recoveryTick (h : Counts n s t) (draws : Draws) :
    Counts (n + 1) s (recoveryTick t draws) := by
  unfold LocalTraffic.recoveryTick
  extract_lets t' u w
  have hu : Counts n s u := h.congr (sequence_updateLights _)
  have hw : Counts n s w := by
    dsimp only [w]
    split <;> exact hu
  split
  · exact hw.setInitialPhase
  · exact hu.mono (by omega)

theorem Counts.normalTick (h : Counts n s t) : Counts (n + 1) s (normalTick t) := by
  have hserved : Counts n s (updatePedestrianLocked (updateLightsLocked (countDown t))) :=
    h.congr (by simp)
  unfold LocalTraffic.normalTick
  dsimp only
  split
  · exact hserved.advancePhase
  · exact hserved.mono (by omega)

theorem Counts.trafficTick (h : Counts n s t) (draws : Draws) :
    Counts (n + 2) s (trafficTickLocked t draws) := by
  unfold trafficTickLocked
  split_ifs
  · refine Counts.mono (Counts.mark ?_) (by omega : n + 1 ≤ n + 2)
    exact h.congr rfl
  · refine Counts.mono (Counts.mark ?_) (by omega : n + 1 ≤ n + 2)
    exact h.congr (sequence_updateLights _)
  · exact h.trainPendingTick.mono (by omega)
  · exact h.trainActiveTick
  · exact (h.recoveryTick draws).mono (by omega)
  · exact h.normalTick.mono (by omega)

theorem Counts.applyTimeSettings (h : Counts n s t) :
    Counts (n + 1) s (applyTimeSettingsLocked t) := by
  unfold applyTimeSettingsLocked
  split
  · refine Counts.mark ?_
    exact h.congr rfl
  · exact h.mono (by omega)

theorem Counts.updateTemporaryMode (h : Counts n s t) :
    Counts (n + 2) s (updateTemporaryModeLocked t) := by
  unfold updateTemporaryModeLocked
  dsimp only
  split_ifs
  · exact h.mono (by omega)
  · refine Counts.mark (Counts.applyTimeSettings ?_)
    exact h.congr rfl
  · exact (h.congr rfl).mono (by omega)

@[simp] theorem sequence_updateVehicleCounts (s : LocalState) (draws : Draws) :
    (updateVehicleCountsLocked s draws).statusSequence = s.statusSequence := by
  obtain ⟨ns, ew, next, hcars⟩ := carsOnly_updateVehicleCounts s draws
  rw [hcars]

theorem Counts.updateTimeOfDay (h : Counts n s t) :
    Counts (n + 3) s (updateTimeOfDayLocked t) := by
  have hclock : Counts (n + 1) s (advanceClock t) := by
    unfold advanceClock
    dsimp only
    have htime : Counts (n + 1) s (applyTimeSettingsLocked
        { t with simSeconds := (t.simSeconds + simSecondsPerTick).tmod secondsPerDay }) := by
      apply Counts.applyTimeSettings
      exact h.congr rfl
    split
    · exact htime.congr rfl
    · exact htime
  unfold updateTimeOfDayLocked
  dsimp only
  split_ifs
  · exact h.mono (by omega)
  · exact (hclock.trans (startTrainCommon_marked _ _ _ _).counts).congr rfl
  · exact hclock.mono (by omega)

theorem Counts.setSimSeconds (h : Counts n s t) (seconds : Int) (draws : Draws) :
    Counts (n + 1) s (setSimSecondsLocked t seconds draws) := by
  unfold setSimSecondsLocked
  extract_lets t' u w
  have hu : Counts n s u := by
    dsimp only [u]
    split <;> exact h
  exact hu.applyTimeSettings.congr rfl

theorem toggleSensor_marked (s : LocalState) (d : Direction) :
    Marked 0 s (toggleSensorLocked s d) := by
  unfold toggleSensorLocked
  dsimp only
  apply Counts.marked
  split <;> exact Counts.of_eq rfl

theorem resetDemoInputs_marked (s : LocalState) (draws : Draws) :
    Marked 3 s (resetDemoInputsLocked s draws) := by
  unfold resetDemoInputsLocked
  extract_lets t u w
  have hu : Counts 1 s u := by
    apply Counts.mark
    exact Counts.of_eq rfl
  have hw : Counts 1 s w := hu.congr rfl
  exact hw.applyTimeSettings.setInitialPhase.marked

theorem applied_marked (h : Counts n s t) (commandId : UInt16) :
    Marked n s (applied t commandId) := by
  refine Counts.marked ?_
  exact h.congr rfl

theorem simAction_counts (s : LocalState) (action : SimAction) (draws : Draws) :
    Counts 1 s (simActionLocked s action draws) := by
  cases action with
  | start | stop => exact Counts.of_eq rfl
  | time minute =>
      apply Counts.setSimSeconds
      exact Counts.of_eq rfl

theorem modeAction_counts {command : ModeCmdMsg} (h : modeActionLocked s command = some t) :
    Counts 1 s t := by
  unfold modeActionLocked at h
  dsimp only at h
  split_ifs at h
  all_goals
    obtain rfl := Option.some.inj h
    first
    | exact Counts.of_eq rfl
    | exact Counts.mark (Counts.of_eq rfl)

theorem handler_marked (handler : Handler) (s : LocalState) (msg : TestMessage) (reply : Reply)
    (draws : Draws) : Marked 1 s (handler.run s msg reply draws).1 := by
  cases handler with
  | test => exact Marked.refl s
  | simulation =>
      dsimp only [Handler.run]
      unfold handleSimulationMessage
      cases parseSimCommand msg.data with
      | none => exact Marked.refl s
      | some command =>
          dsimp only
          split
          · exact applied_marked (simAction_counts s command.action draws) _
          · exact Marked.refl s
  | mode =>
      dsimp only [Handler.run]
      unfold handleModeCommand
      dsimp only
      split
      · cases haction : modeActionLocked s (ModeCmdMsg.ofData msg.data) with
        | none => exact Marked.refl s
        | some t => exact applied_marked (modeAction_counts haction) _
      · exact Marked.refl s
  | coordination =>
      dsimp only [Handler.run]
      unfold handleCoordinationCommand
      dsimp only
      split
      · refine applied_marked (Counts.mark ?_) _
        exact Counts.of_eq rfl
      · exact Marked.refl s
  | sensor =>
      dsimp only [Handler.run]
      unfold handleSensorUpdate
      dsimp only
      split
      · apply Counts.marked
        split <;> exact Counts.of_eq rfl
      · exact Marked.refl s
  | ped =>
      dsimp only [Handler.run]
      unfold handlePedRequest
      dsimp only
      split
      · exact (addPedestrianRequest_marked s _).mono (by omega)
      · exact Marked.refl s
  | railway =>
      dsimp only [Handler.run]
      unfold handleRailwayMessage
      dsimp only
      split_ifs
      · exact startTrainMessage_marked s _ _
      · exact clearTrain_marked s
      · exact Marked.refl s
      · exact Marked.refl s

theorem dispatch_marked (s : LocalState) (msg : TestMessage) (draws : Draws) :
    Marked 1 s (localDispatchMessage s msg draws).1 := by
  unfold localDispatchMessage
  dsimp only
  split
  · exact Marked.refl s
  · split
    · exact Marked.refl s
    · cases handlers.find? (·.accepts msg.header) with
      | none => exact Marked.refl s
      | some entry => exact handler_marked entry.handler s msg _ draws

theorem executeKey_counts (s : LocalState) (key : Char) (draws : Draws) :
    Counts 4 s (executeKey s key draws) := by
  have hhour : ∀ hour : Int, Counts 1 s (setSimHourLocked s hour draws) := by
    intro hour
    apply Counts.setSimSeconds
    exact Counts.of_eq rfl
  unfold executeKey
  split
  · exact Counts.of_eq rfl
  · exact (addPedestrianRequest_marked s .ns).counts.mono (by omega)
  · exact (addPedestrianRequest_marked s .ew).counts.mono (by omega)
  · exact (toggleSensor_marked s .ns).counts.mono (by omega)
  · exact (toggleSensor_marked s .ew).counts.mono (by omega)
  · exact (startTrainCommon_marked s 1 false 0).counts.mono (by omega)
  · exact (startTrainCommon_marked s 2 false 0).counts.mono (by omega)
  · exact (clearTrain_marked s).counts.mono (by omega)
  · exact (resetDemoInputs_marked s draws).counts
  · exact (hhour 7).mono (by omega)
  · exact (hhour 12).mono (by omega)
  · exact (hhour 22).mono (by omega)
  · exact Counts.refl s

theorem coreTick_marked (s : LocalState) (linkExpired : Bool) (draws : Draws) :
    Marked 7 s (coreTick s linkExpired draws) := by
  refine Counts.marked ?_
  apply Counts.congr ?_ (sequence_updateVehicleCounts _ draws)
  apply Counts.trafficTick (n := 5)
  apply Counts.updateTemporaryMode (n := 3)
  apply Counts.updateTimeOfDay
  split
  · exact Counts.of_eq rfl
  · exact Counts.refl s

theorem Marked.noticed (h : Marked n s t) (hn : n + 1 < 65535) :
    fillStatusLocked t = fillStatusLocked s ∨ t.statusSequence ≠ s.statusSequence := by
  rcases h with rfl | ⟨u, hu, rfl⟩
  · exact Or.inl rfl
  · exact Or.inr (hu.mark_ne hn)

theorem coreStep_noticed (s : LocalState) (step : CoreStep) :
    fillStatusLocked (coreStep s step) = fillStatusLocked s ∨
      (coreStep s step).statusSequence ≠ s.statusSequence := by
  cases step with
  | tick linkExpired draws => exact (coreTick_marked s linkExpired draws).noticed (by omega)
  | snapshot => exact Or.inl rfl
  | frame msg draws => exact (dispatch_marked s msg draws).noticed (by omega)
  | input command draws =>
      dsimp only [coreStep]
      unfold executeCommand
      split
      · exact (executeKey_counts s _ draws).marked.noticed (by omega)
      · exact Or.inl rfl
  | links centralUp trainUp => exact Or.inl rfl

end TrafficLight.StatusSequence
