import TrafficLight.LocalTraffic

namespace TrafficLight.SignalFrame

open TrafficLight.Protocol
open TrafficLight.LocalData
open TrafficLight.LocalTraffic

/-- The fields that no signal timing writes, as long as the lamps agree. -/
structure Surroundings where
  centralConnected : Bool
  trainConnected : Bool
  trafficMode : TrafficLightMode
  initialPhase : Phase
  nsGreenSec : Int
  ewGreenSec : Int
  sensorNsCount : Int
  sensorEwCount : Int
  nextCarInSeconds : Int
  simSeconds : Int
  simRunning : Bool
  manualModeOverride : Bool
  manualSensorOverride : Bool
  tempModeRemaining : Int
  tempReturnMode : TrafficLightMode
  tempReturnManualOverride : Bool
  coordinationPhase : Phase
  coordinationOffsetSec : Int
  intersectionId : Fin 6
  faultActive : Bool
  faultType : FaultType
  faultSeverity : FaultSeverity
  faultDescription : String
  faultSequence : UInt16
  heartbeatSequence : UInt16
  lastAppliedCommandId : UInt16

def surroundingsOf (s : LocalState) : Surroundings where
  centralConnected := s.centralConnected
  trainConnected := s.trainConnected
  trafficMode := s.trafficMode
  initialPhase := s.initialPhase
  nsGreenSec := s.nsGreenSec
  ewGreenSec := s.ewGreenSec
  sensorNsCount := s.sensorNsCount
  sensorEwCount := s.sensorEwCount
  nextCarInSeconds := s.nextCarInSeconds
  simSeconds := s.simSeconds
  simRunning := s.simRunning
  manualModeOverride := s.manualModeOverride
  manualSensorOverride := s.manualSensorOverride
  tempModeRemaining := s.tempModeRemaining
  tempReturnMode := s.tempReturnMode
  tempReturnManualOverride := s.tempReturnManualOverride
  coordinationPhase := s.coordinationPhase
  coordinationOffsetSec := s.coordinationOffsetSec
  intersectionId := s.intersectionId
  faultActive := s.faultActive
  faultType := s.faultType
  faultSeverity := s.faultSeverity
  faultDescription := s.faultDescription
  faultSequence := s.faultSequence
  heartbeatSequence := s.heartbeatSequence
  lastAppliedCommandId := s.lastAppliedCommandId

/-- The signal timing has kept the surroundings, and leaves the train in `direction`. -/
structure Frame (s t : LocalState) (direction : Int) : Prop where
  surroundings : surroundingsOf t = surroundingsOf s
  direction : t.trainDirection = direction

variable (s : LocalState)

theorem Frame.refl : Frame s s s.trainDirection := ⟨rfl, rfl⟩

theorem Frame.trans {s t u : LocalState} {direction : Int} (h : Frame s t direction)
    (h' : Frame t u t.trainDirection) : Frame s u direction :=
  ⟨h'.surroundings.trans h.surroundings, h'.direction.trans h.direction⟩

theorem frame_markStatusDirty : Frame s (markStatusDirtyLocked s) s.trainDirection := ⟨rfl, rfl⟩

theorem frame_updateLights : Frame s (updateLightsLocked s) s.trainDirection := by
  unfold updateLightsLocked
  split
  · exact ⟨rfl, rfl⟩
  · split <;> exact ⟨rfl, rfl⟩

theorem frame_setPhase (phase : Phase) (duration : Int) :
    Frame s (setPhaseLocked s phase duration) s.trainDirection :=
  ⟨(frame_updateLights _).surroundings, (frame_updateLights _).direction⟩

theorem frame_nextGreenTime (d : Direction) :
    Frame s (nextGreenTimeForDirection s d).2 s.trainDirection := by
  unfold nextGreenTimeForDirection
  dsimp only
  split_ifs <;> exact ⟨rfl, rfl⟩

theorem frame_setInitialPhase : Frame s (setInitialPhaseLocked s) s.trainDirection :=
  (frame_nextGreenTime s _).trans (frame_setPhase _ _ _)

theorem frame_setCoordinationPhase (base : Phase) (offset : Int) :
    Frame s (setCoordinationPhaseLocked s base offset) s.trainDirection := by
  unfold setCoordinationPhaseLocked
  extract_lets t
  have ht : Frame s t s.trainDirection := ⟨rfl, rfl⟩
  split_ifs <;> exact ht.trans (frame_setPhase t _ _)

theorem frame_advancePhase : Frame s (advancePhaseLocked s) s.trainDirection := by
  have hgreen : ∀ phase d, Frame s (setPhaseLocked (nextGreenTimeForDirection s d).2 phase
      (nextGreenTimeForDirection s d).1) s.trainDirection :=
    fun phase d => (frame_nextGreenTime s d).trans (frame_setPhase _ _ _)
  unfold advancePhaseLocked
  split
  · have hlanded := frame_setCoordinationPhase s s.coordinationPhase s.coordinationOffsetSec
    exact ⟨hlanded.surroundings, hlanded.direction⟩
  · split
    · exact frame_setPhase s _ _
    · exact hgreen _ .ew
    · exact frame_setPhase s _ _
    · exact hgreen _ .ns
    · exact hgreen _ .ns

theorem frame_updatePedestrian : Frame s (updatePedestrianLocked s) s.trainDirection := by
  unfold updatePedestrianLocked
  dsimp only
  split_ifs <;> exact ⟨rfl, rfl⟩

theorem frame_addPedestrianRequest (d : Direction) :
    Frame s (addPedestrianRequestLocked s d) s.trainDirection := by
  have hcap : ∀ t : LocalState,
      Frame t (capGreenForPedestrianLocked t d) t.trainDirection := by
    intro t
    unfold capGreenForPedestrianLocked
    dsimp only
    split_ifs <;> exact ⟨rfl, rfl⟩
  unfold addPedestrianRequestLocked
  extract_lets requested t u
  have ht : Frame s t s.trainDirection := by
    dsimp only [t]
    split <;> exact ⟨rfl, rfl⟩
  have hu : Frame s u s.trainDirection := by
    dsimp only [u]
    split
    · exact ht
    · exact ht.trans (hcap t)
  exact hu.trans (frame_markStatusDirty u)

theorem frame_startTrainCommon (direction : Int) (wait : Bool) (eta : Int) :
    Frame s (startTrainCommonLocked s direction wait eta)
      (if s.trainActive ∨ s.trainPending then s.trainDirection else direction) := by
  unfold startTrainCommonLocked
  by_cases hbusy : s.trainActive ∨ s.trainPending
  · rw [if_pos hbusy, if_pos hbusy]
    exact .refl s
  · rw [if_neg hbusy, if_neg hbusy]
    extract_lets t u
    have ht : Frame s t direction := ⟨rfl, rfl⟩
    have hactive : Frame s { t with trainPending := false, trainActive := true } direction :=
      ⟨rfl, rfl⟩
    have hu : Frame s u direction := by
      dsimp only [u]
      split_ifs
      · exact ht.trans (frame_setPhase t _ _)
      · exact ht.trans (frame_setPhase t _ _)
      · exact hactive.trans (frame_setPhase _ _ _)
      · exact ht
    exact hu.trans (frame_markStatusDirty u)

theorem frame_ownTrain :
    Frame s { startTrainLocked s s.nextTrainDirection with nextTrainInSeconds := 0 }
      (if s.trainActive ∨ s.trainPending then s.trainDirection else s.nextTrainDirection) := by
  have hstarted := frame_startTrainCommon s s.nextTrainDirection false 0
  exact ⟨hstarted.surroundings, hstarted.direction⟩

theorem frame_startTrainMessage (direction eta : Int) :
    Frame s (startTrainMessageLocked s direction eta) direction := by
  unfold startTrainMessageLocked
  extract_lets eta' t u
  split
  · have ht : Frame s t direction := ⟨rfl, rfl⟩
    have hu : Frame s u direction := by
      dsimp only [u]
      split
      · exact ht.trans (frame_setPhase t _ _)
      · exact ht
    exact hu.trans (frame_markStatusDirty u)
  · rename_i hbusy
    have hstarted := frame_startTrainCommon s direction true eta'
    rwa [if_neg hbusy] at hstarted

theorem frame_clearTrain :
    Frame s (clearTrainLocked s)
      (if s.trainActive ∨ s.trainPending then 0 else s.trainDirection) := by
  unfold clearTrainLocked
  by_cases hbusy : s.trainActive ∨ s.trainPending
  · rw [if_pos hbusy, if_pos hbusy]
    extract_lets t
    have ht : Frame s t 0 := ⟨rfl, rfl⟩
    exact (ht.trans (frame_setPhase t _ _)).trans (frame_markStatusDirty _)
  · rw [if_neg hbusy, if_neg hbusy]
    exact .refl s

theorem frame_countDown : Frame s (countDown s) s.trainDirection := by
  unfold countDown
  split <;> exact ⟨rfl, rfl⟩

theorem frame_countPass : Frame s (countPass s) s.trainDirection := by
  unfold countPass
  split <;> exact ⟨rfl, rfl⟩

theorem frame_trainPendingTick : Frame s (trainPendingTick s) s.trainDirection := by
  have hlights := (frame_countDown s).trans (frame_updateLights (countDown s))
  have hactive : Frame s { updateLightsLocked (countDown s) with
      trainPending := false, trainActive := true } s.trainDirection :=
    ⟨hlights.surroundings, hlights.direction⟩
  unfold trainPendingTick
  dsimp only
  split
  · exact hactive.trans (frame_setPhase _ _ _)
  · exact hlights

theorem frame_trainActiveTick {s : LocalState} (hactive : s.trainActive = true) :
    Frame s (trainActiveTick s)
      (if s.trainWaitingForClear = false ∧ s.trainPassRemaining ≤ 1 then 0
        else s.trainDirection) := by
  have hcount : (countPass s).trainWaitingForClear = s.trainWaitingForClear ∧
      (countPass s).trainActive = true ∧
        ((countPass s).trainPassRemaining ≤ 0 ↔ s.trainPassRemaining ≤ 1) := by
    unfold countPass
    split
    · refine ⟨rfl, hactive, ?_⟩
      dsimp only
      omega
    · exact ⟨rfl, hactive, by omega⟩
  have hkept := frame_countPass s
  obtain ⟨hwaiting, hstill, hpass⟩ := hcount
  unfold trainActiveTick
  generalize countPass s = u at hwaiting hstill hpass hkept
  dsimp only
  cases hwaits : s.trainWaitingForClear with
  | true =>
      have hheld : Frame s { u with phase := .railwayHold, timeRemaining := u.trainPassRemaining }
          s.trainDirection := ⟨hkept.surroundings, hkept.direction⟩
      rw [if_pos (hwaiting.trans hwaits), if_neg nofun]
      exact (hheld.trans (frame_updateLights _)).trans (frame_markStatusDirty _)
  | false =>
      rw [if_neg (by rw [hwaiting, hwaits]; exact nofun)]
      by_cases hpassed : s.trainPassRemaining ≤ 1
      -- the train is taken back as if its clear message had come
      · have hcleared := frame_clearTrain u
        rw [if_pos (.inl hstill)] at hcleared
        rw [if_pos (hpass.mpr hpassed), if_pos ⟨rfl, hpassed⟩]
        exact ⟨hcleared.surroundings.trans hkept.surroundings, hcleared.direction⟩
      · rw [if_neg (mt hpass.mp hpassed), if_neg fun h => hpassed h.2]
        exact hkept.trans (frame_setPhase _ _ _)

theorem frame_recoveryTick (draws : Draws) :
    Frame s (recoveryTick s draws) s.trainDirection := by
  unfold recoveryTick
  extract_lets t u w
  have hu : Frame s u s.trainDirection :=
    ⟨(frame_updateLights _).surroundings, (frame_updateLights _).direction⟩
  have hw : Frame s w s.trainDirection := by
    dsimp only [w]
    split <;> exact ⟨hu.surroundings, hu.direction⟩
  split
  · exact hw.trans (frame_setInitialPhase w)
  · exact hu

theorem frame_normalTick : Frame s (normalTick s) s.trainDirection := by
  have hserved : Frame s (updatePedestrianLocked (updateLightsLocked (countDown s)))
      s.trainDirection :=
    ((frame_countDown s).trans (frame_updateLights _)).trans (frame_updatePedestrian _)
  unfold normalTick
  dsimp only
  split
  · exact hserved.trans (frame_advancePhase _)
  · exact hserved

theorem frame_trafficTick (draws : Draws)
    (hlights : ¬ (s.nsLight = .green ∧ s.ewLight = .green)) :
    Frame s (trafficTickLocked s draws)
      (if s.trafficMode ≠ .failsafe ∧ s.trainPending = false ∧ s.trainActive = true ∧
          s.trainWaitingForClear = false ∧ s.trainPassRemaining ≤ 1 then 0
        else s.trainDirection) := by
  unfold trafficTickLocked
  rw [if_neg hlights]
  by_cases hfailsafe : s.trafficMode = .failsafe
  · rw [if_pos hfailsafe, if_neg fun h => h.1 hfailsafe]
    exact ⟨(frame_updateLights _).surroundings, (frame_updateLights _).direction⟩
  · rw [if_neg hfailsafe]
    cases hpending : s.trainPending with
    | true =>
        rw [if_pos rfl, if_neg fun h => absurd h.2.1 nofun]
        exact frame_trainPendingTick s
    | false =>
        rw [if_neg nofun]
        cases hactive : s.trainActive with
        | true =>
            simp only [ne_eq, hfailsafe, not_false_eq_true, true_and, if_true]
            exact frame_trainActiveTick hactive
        | false =>
            simp only [Bool.false_eq_true, false_and, and_false, if_false]
            split
            · exact frame_recoveryTick s draws
            · exact frame_normalTick s

/-- The second state differs from the first in its cars only. -/
def CarsOnly (s t : LocalState) : Prop :=
  ∃ ns ew next : Int,
    t = { s with sensorNsCount := ns, sensorEwCount := ew, nextCarInSeconds := next }

theorem CarsOnly.refl : CarsOnly s s :=
  ⟨s.sensorNsCount, s.sensorEwCount, s.nextCarInSeconds, rfl⟩

theorem CarsOnly.trans {s t u : LocalState} (h : CarsOnly s t) (h' : CarsOnly t u) :
    CarsOnly s u := by
  obtain ⟨_, _, _, rfl⟩ := h
  obtain ⟨ns, ew, next, rfl⟩ := h'
  exact ⟨ns, ew, next, rfl⟩

theorem carsOnly_letTrafficPass : CarsOnly s (letTrafficPass s) := by
  unfold letTrafficPass letCarsPassLocked
  dsimp only
  split
  · split
    · exact ⟨_, s.sensorEwCount, s.nextCarInSeconds, if_pos rfl⟩
    · split
      · exact ⟨s.sensorNsCount, _, s.nextCarInSeconds, if_neg nofun⟩
      · exact .refl s
  · exact .refl s

theorem carsOnly_addCar (d : Direction) : CarsOnly s (addCarLocked s d) := by
  unfold addCarLocked
  split
  · exact ⟨s.sensorNsCount + 1, s.sensorEwCount, s.nextCarInSeconds, rfl⟩
  · split
    · exact ⟨s.sensorNsCount, s.sensorEwCount + 1, s.nextCarInSeconds, rfl⟩
    · exact .refl s

theorem carsOnly_arriveCars (draws : Draws) : CarsOnly s (arriveCars s draws) := by
  have hadd : ∀ (t : LocalState) (p : Prop) [Decidable p] (d : Direction),
      CarsOnly t (if p then addCarLocked t d else t) := by
    intro t p _ d
    split
    · exact carsOnly_addCar t d
    · exact .refl t
  unfold arriveCars
  extract_lets arrival u w
  have hcars : CarsOnly s w := (hadd s _ .ns).trans (hadd u _ .ew)
  exact hcars.trans ⟨w.sensorNsCount, w.sensorEwCount, _, rfl⟩

theorem carsOnly_updateVehicleCounts (draws : Draws) :
    CarsOnly s (updateVehicleCountsLocked s draws) := by
  have hcount : ∀ t : LocalState, CarsOnly t (countCar t) := by
    intro t
    unfold countCar
    split
    · exact ⟨t.sensorNsCount, t.sensorEwCount, t.nextCarInSeconds - 1, rfl⟩
    · exact .refl t
  have hpass := carsOnly_letTrafficPass s
  unfold updateVehicleCountsLocked
  dsimp only
  split_ifs
  · exact .refl s
  · exact hpass
  · exact (hpass.trans (hcount _)).trans (carsOnly_arriveCars _ draws)
  · exact hpass.trans (hcount _)

end TrafficLight.SignalFrame
