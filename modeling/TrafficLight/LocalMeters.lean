import Mathlib.Tactic.FinCases
import TrafficLight.LocalCore

namespace TrafficLight.LocalMeters

open TrafficLight.Runs
open TrafficLight.Protocol
open TrafficLight.LocalData
open TrafficLight.LocalTraffic
open TrafficLight.LocalMessages
open TrafficLight.LocalCore

structure Meters where
  time : Int
  pass : Int
  recovery : Int
  temporary : Int
  offset : Int
  nsCount : Int
  ewCount : Int
  severity : FaultSeverity

def metersOf (s : LocalState) : Meters where
  time := s.timeRemaining
  pass := s.trainPassRemaining
  recovery := s.trainRecoveryRemaining
  temporary := s.tempModeRemaining
  offset := s.coordinationOffsetSec
  nsCount := s.sensorNsCount
  ewCount := s.sensorEwCount
  severity := s.faultSeverity

/-- What fits a half word. -/
def HalfWord (n : Int) : Prop := 0 ≤ n ∧ n ≤ 65535

structure Meters.InRange (m : Meters) : Prop where
  time : HalfWord m.time
  pass : HalfWord m.pass
  recovery : 0 ≤ m.recovery ∧ m.recovery ≤ railwayRecoverySec
  temporary : HalfWord m.temporary
  offset : HalfWord m.offset
  nsCount : 0 ≤ m.nsCount ∧ m.nsCount ≤ maxSensorCars
  ewCount : 0 ≤ m.ewCount ∧ m.ewCount ≤ maxSensorCars
  severity : m.severity ≠ .unset

def InRange (s : LocalState) : Prop := (metersOf s).InRange

theorem halfWord_toNat (value : UInt16) : HalfWord value.toNat := by
  have hlt := value.toNat_lt
  constructor <;> omega

theorem halfWord_zero : HalfWord 0 := ⟨by decide, by decide⟩

theorem HalfWord.pred {n : Int} (h : HalfWord n) (hpos : 0 < n) : HalfWord (n - 1) := by
  obtain ⟨hlow, hhigh⟩ := h
  constructor <;> omega

theorem recovery_range : ((0 : Int) ≤ 0 ∧ 0 ≤ railwayRecoverySec) ∧
    0 ≤ railwayRecoverySec ∧ railwayRecoverySec ≤ railwayRecoverySec := by
  decide

theorem InRange.congr {s s' : LocalState} (h : InRange s) (heq : metersOf s' = metersOf s) :
    InRange s' := by
  unfold InRange
  rw [heq]
  exact h

theorem InRange.markStatusDirty {s : LocalState} (h : InRange s) :
    InRange (markStatusDirtyLocked s) := h

theorem InRange.withTime {s : LocalState} (h : InRange s) {s' : LocalState} {time : Int}
    (heq : metersOf s' = { metersOf s with time }) (htime : HalfWord time) : InRange s' := by
  unfold InRange
  rw [heq]
  exact ⟨htime, h.pass, h.recovery, h.temporary, h.offset, h.nsCount, h.ewCount, h.severity⟩

@[simp] theorem meters_updateLights (s : LocalState) :
    metersOf (updateLightsLocked s) = metersOf s := by
  unfold updateLightsLocked
  split
  · rfl
  · split <;> rfl

theorem meters_setPhase (s : LocalState) (phase : Phase) (duration : Int) :
    metersOf (setPhaseLocked s phase duration) = { metersOf s with time := duration } :=
  meters_updateLights _

theorem InRange.setPhase {s : LocalState} (h : InRange s) (phase : Phase) {duration : Int}
    (hduration : HalfWord duration) : InRange (setPhaseLocked s phase duration) :=
  h.withTime (meters_setPhase s phase duration) hduration

theorem clampGreenTime_range (seconds : Int) :
    10 ≤ clampGreenTime seconds ∧ clampGreenTime seconds ≤ 30 := by
  have hmin : greenMinSec = 10 := rfl
  have hmax : greenMaxSec = 30 := rfl
  unfold clampGreenTime
  split_ifs <;> omega

theorem halfWord_clampGreenTime (seconds : Int) : HalfWord (clampGreenTime seconds) := by
  obtain ⟨hlow, hhigh⟩ := clampGreenTime_range seconds
  constructor <;> omega

theorem nextGreenTime_meters (s : LocalState) (d : Direction) :
    HalfWord (nextGreenTimeForDirection s d).1 ∧
      metersOf (nextGreenTimeForDirection s d).2 = metersOf s := by
  unfold nextGreenTimeForDirection
  dsimp only
  split_ifs <;> exact ⟨halfWord_clampGreenTime _, rfl⟩

theorem InRange.startGreen {s : LocalState} (h : InRange s) (phase : Phase) (d : Direction) :
    InRange (setPhaseLocked (nextGreenTimeForDirection s d).2 phase
      (nextGreenTimeForDirection s d).1) := by
  obtain ⟨hseconds, hmeters⟩ := nextGreenTime_meters s d
  exact (h.congr hmeters).setPhase phase hseconds

theorem InRange.setInitialPhase {s : LocalState} (h : InRange s) :
    InRange (setInitialPhaseLocked s) := by
  have hmeters := nextGreenTime_meters s (if s.initialPhase = .ewGreen then .ew else .ns)
  exact (h.congr hmeters.2).setPhase _ hmeters.1

theorem configuredGreen_range (s : LocalState) (d : Direction) :
    10 ≤ configuredGreenTimeForDirection s d ∧ configuredGreenTimeForDirection s d ≤ 30 :=
  clampGreenTime_range _

theorem InRange.setCoordinationPhase {s : LocalState} (h : InRange s) (base : Phase)
    {offset : Int} (hoffset : HalfWord offset) :
    InRange (setCoordinationPhaseLocked s base offset) := by
  unfold setCoordinationPhaseLocked
  extract_lets s' first second firstGreen secondGreen cycle position
  have hs' : InRange s' := h.congr rfl
  have hfirst : 10 ≤ firstGreen ∧ firstGreen ≤ 30 := configuredGreen_range _ _
  have hsecond : 10 ≤ secondGreen ∧ secondGreen ≤ 30 := configuredGreen_range _ _
  have hyellow : yellowSec = 2 := rfl
  have hcycle : cycle = firstGreen + secondGreen + 4 := rfl
  have hlow : 0 ≤ position := Int.tmod_nonneg _ hoffset.1
  have hhigh : position < cycle := Int.tmod_lt_of_pos _ (by omega)
  split_ifs <;> apply hs'.setPhase <;> constructor <;> omega

theorem InRange.advancePhase {s : LocalState} (h : InRange s) :
    InRange (advancePhaseLocked s) := by
  unfold advancePhaseLocked
  split
  · exact h.setCoordinationPhase s.coordinationPhase h.offset
  · split
    · exact h.setPhase _ ⟨by decide, by decide⟩
    · exact h.startGreen _ .ew
    · exact h.setPhase _ ⟨by decide, by decide⟩
    · exact h.startGreen _ .ns
    · exact h.startGreen _ .ns

@[simp] theorem meters_updatePedestrian (s : LocalState) :
    metersOf (updatePedestrianLocked s) = metersOf s := by
  unfold updatePedestrianLocked
  dsimp only
  split_ifs <;> rfl

theorem InRange.capGreen {s : LocalState} (h : InRange s) (d : Direction) :
    InRange (capGreenForPedestrianLocked s d) := by
  have hcap : pedGreenCapSec = 10 := rfl
  obtain ⟨hlow, hhigh⟩ : HalfWord s.timeRemaining := h.time
  unfold capGreenForPedestrianLocked
  split
  · exact h
  · rename_i hserved
    obtain ⟨-, hlong⟩ := not_or.mp hserved
    dsimp only
    generalize (if s.phase = s.initialPhase ∧ s.cyclePlanValid = true then _ else _) = capacity
    have hremoved : ∀ limit : Int, 0 ≤ limit → HalfWord (s.timeRemaining -
        (if s.timeRemaining - pedGreenCapSec > limit then limit
          else s.timeRemaining - pedGreenCapSec)) := by
      intro limit hlimit
      split <;> constructor <;> omega
    have htime := hremoved (if capacity < 0 then 0 else capacity) (by split <;> omega)
    split <;> exact h.withTime rfl htime

theorem InRange.addPedestrianRequest {s : LocalState} (h : InRange s) (d : Direction) :
    InRange (addPedestrianRequestLocked s d) := by
  unfold addPedestrianRequestLocked
  extract_lets requested s'
  have hs' : InRange s' := by
    dsimp only [s']
    split <;> exact h
  change InRange (if requested = true then s' else capGreenForPedestrianLocked s' d)
  split
  · exact hs'
  · exact hs'.capGreen d

theorem InRange.startTrainCommon {s : LocalState} (h : InRange s) (direction : Int)
    (wait : Bool) {eta : Int} (heta : HalfWord eta) :
    InRange (startTrainCommonLocked s direction wait eta) := by
  have hyellow : HalfWord yellowSec := ⟨by decide, by decide⟩
  unfold startTrainCommonLocked
  split
  · exact h
  · extract_lets t
    have ht : InRange t := by
      refine ⟨h.time, ?_, recovery_range.1, h.temporary, h.offset, h.nsCount, h.ewCount,
        h.severity⟩
      change HalfWord (if wait = true then eta else trainPassingSeconds)
      split
      · exact heta
      · exact ⟨by decide, by decide⟩
    change InRange (if t.phase = .nsGreen then _ else _)
    split
    · exact ht.setPhase .nsYellow hyellow
    · split
      · exact ht.setPhase .ewYellow hyellow
      · split
        · refine InRange.setPhase ?_ .railwayHold halfWord_zero
          exact ht
        · exact ht

theorem InRange.startTrainMessage {s : LocalState} (h : InRange s) (direction : Int)
    {eta : Int} (heta : HalfWord eta) : InRange (startTrainMessageLocked s direction eta) := by
  unfold startTrainMessageLocked
  rw [if_neg (not_lt.mpr heta.1)]
  dsimp only
  split
  · have hwaiting : InRange
        { s with
          trainDirection := direction, trainWaitingForClear := true
          trainPassRemaining := eta, nextTrainInSeconds := 0 } :=
      ⟨h.time, heta, h.recovery, h.temporary, h.offset, h.nsCount, h.ewCount, h.severity⟩
    change InRange (if s.trainActive = true then _ else _)
    split
    · exact hwaiting.setPhase .railwayHold halfWord_zero
    · exact hwaiting
  · exact h.startTrainCommon direction true heta

theorem InRange.clearTrain {s : LocalState} (h : InRange s) : InRange (clearTrainLocked s) := by
  unfold clearTrainLocked
  split
  · apply InRange.markStatusDirty
    refine InRange.setPhase ?_ .railwayHold ⟨by decide, by decide⟩
    exact ⟨h.time, halfWord_zero, recovery_range.2, h.temporary, h.offset, h.nsCount,
      h.ewCount, h.severity⟩
  · exact h

theorem InRange.countDown {s : LocalState} (h : InRange s) : InRange (countDown s) := by
  have htime : HalfWord s.timeRemaining := h.time
  unfold LocalTraffic.countDown
  split
  · rename_i hrunning
    exact h.withTime rfl (htime.pred hrunning)
  · exact h

theorem InRange.countPass {s : LocalState} (h : InRange s) : InRange (countPass s) := by
  have hpass : HalfWord s.trainPassRemaining := h.pass
  unfold LocalTraffic.countPass
  split
  · rename_i hcoming
    exact ⟨h.time, hpass.pred hcoming, h.recovery, h.temporary, h.offset, h.nsCount, h.ewCount,
      h.severity⟩
  · exact h

theorem InRange.recoveryTick {s : LocalState} (h : InRange s) (draws : Draws)
    (hrunning : s.trainRecoveryRemaining > 0) : InRange (recoveryTick s draws) := by
  have hrecovery : railwayRecoverySec = 2 := rfl
  obtain ⟨-, hhigh⟩ : 0 ≤ s.trainRecoveryRemaining ∧
    s.trainRecoveryRemaining ≤ railwayRecoverySec := h.recovery
  have hrest : HalfWord (s.trainRecoveryRemaining - 1) := by constructor <;> omega
  unfold LocalTraffic.recoveryTick
  extract_lets t u w
  have hu : InRange u := by
    refine InRange.congr ?_ (meters_updateLights _)
    exact ⟨hrest, h.pass, ⟨hrest.1, by
      change s.trainRecoveryRemaining - 1 ≤ _
      omega⟩, h.temporary, h.offset, h.nsCount, h.ewCount, h.severity⟩
  have hw : InRange w := by
    dsimp only [w]
    split <;> exact hu
  split
  · exact hw.setInitialPhase
  · exact hu

theorem InRange.trafficTick {s : LocalState} (h : InRange s) (draws : Draws) :
    InRange (trafficTickLocked s draws) := by
  unfold trafficTickLocked
  split_ifs with _ _ _ _ hrecovery
  · refine ⟨halfWord_zero, h.pass, h.recovery, h.temporary, h.offset, h.nsCount, h.ewCount, ?_⟩
    exact FaultSeverity.noConfusion
  · refine InRange.congr ?_ (meters_updateLights _)
    exact h.withTime rfl halfWord_zero
  · have hlights := h.countDown.congr (meters_updateLights _)
    unfold trainPendingTick
    dsimp only
    split
    · refine InRange.setPhase ?_ .railwayHold halfWord_zero
      exact hlights
    · exact hlights
  · have hpass : HalfWord (LocalTraffic.countPass s).trainPassRemaining := h.countPass.pass
    unfold trainActiveTick
    dsimp only
    split_ifs
    · refine InRange.congr ?_ (meters_updateLights _)
      exact h.countPass.withTime rfl hpass
    · exact h.countPass.clearTrain
    · exact h.countPass.setPhase .railwayHold hpass
  · exact h.recoveryTick draws hrecovery
  · have hserved := (h.countDown.congr (meters_updateLights _)).congr
      (meters_updatePedestrian _)
    unfold normalTick
    dsimp only
    split
    · exact hserved.advancePhase
    · exact hserved

@[simp] theorem meters_applyTimeSettings (s : LocalState) :
    metersOf (applyTimeSettingsLocked s) = metersOf s := by
  unfold applyTimeSettingsLocked
  split <;> rfl

theorem InRange.withTemporary {s : LocalState} (h : InRange s) {s' : LocalState}
    {temporary : Int} (heq : metersOf s' = { metersOf s with temporary })
    (htemporary : HalfWord temporary) : InRange s' := by
  unfold InRange
  rw [heq]
  exact ⟨h.time, h.pass, h.recovery, htemporary, h.offset, h.nsCount, h.ewCount, h.severity⟩

theorem InRange.updateTemporaryMode {s : LocalState} (h : InRange s) :
    InRange (updateTemporaryModeLocked s) := by
  have htemporary : HalfWord s.tempModeRemaining := h.temporary
  unfold updateTemporaryModeLocked
  dsimp only
  split_ifs with hover
  · exact h
  · have hrest := htemporary.pred (not_le.mp hover)
    refine InRange.congr ?_ (meters_applyTimeSettings _)
    exact h.withTemporary rfl hrest
  · exact h.withTemporary rfl (htemporary.pred (not_le.mp hover))

theorem InRange.withCounts {s : LocalState} (h : InRange s) {s' : LocalState}
    {nsCount ewCount : Int} (heq : metersOf s' = { metersOf s with nsCount, ewCount })
    (hns : 0 ≤ nsCount ∧ nsCount ≤ maxSensorCars) (hew : 0 ≤ ewCount ∧ ewCount ≤ maxSensorCars) :
    InRange s' := by
  unfold InRange
  rw [heq]
  exact ⟨h.time, h.pass, h.recovery, h.temporary, h.offset, hns, hew, h.severity⟩

theorem InRange.addCar {s : LocalState} (h : InRange s) (d : Direction) :
    InRange (addCarLocked s d) := by
  have hmore : ∀ count : Int, 0 ≤ count ∧ count ≤ maxSensorCars → count < maxSensorCars →
      0 ≤ count + 1 ∧ count + 1 ≤ maxSensorCars := by
    intro count hcount hroom
    constructor <;> omega
  unfold addCarLocked
  split_ifs with hns hew
  · exact h.withCounts rfl (hmore _ h.nsCount hns.2) h.ewCount
  · exact h.withCounts rfl h.nsCount (hmore _ h.ewCount hew.2)
  · exact h

theorem InRange.letCarsPass {s : LocalState} (h : InRange s) (d : Direction) :
    InRange (letCarsPassLocked s d) := by
  unfold letCarsPassLocked
  have hleft : ∀ count carsToPass : Int, 0 ≤ count ∧ count ≤ maxSensorCars → 0 ≤ carsToPass →
      0 ≤ count - (if count < carsToPass then count else carsToPass) ∧
        count - (if count < carsToPass then count else carsToPass) ≤ maxSensorCars := by
    intro count carsToPass hcount hpass
    split <;> omega
  have hpass : 0 ≤ (if isPeakTime s.simSeconds = true then 2 else 1 : Int) := by
    split <;> decide
  dsimp only
  split
  · exact h.withCounts rfl (hleft _ _ h.nsCount hpass) h.ewCount
  · exact h.withCounts rfl h.nsCount (hleft _ _ h.ewCount hpass)

theorem InRange.updateVehicleCounts {s : LocalState} (h : InRange s) (draws : Draws) :
    InRange (updateVehicleCountsLocked s draws) := by
  have hpass : InRange (letTrafficPass s) := by
    unfold letTrafficPass
    split_ifs
    · exact h.letCarsPass .ns
    · exact h.letCarsPass .ew
    · exact h
    · exact h
  have hcount : InRange (countCar (letTrafficPass s)) := by
    refine hpass.congr ?_
    unfold countCar
    split <;> rfl
  have hcar : ∀ (t : LocalState) (p : Prop) [Decidable p] (d : Direction), InRange t →
      InRange (if p then addCarLocked t d else t) := by
    intro t p _ d ht
    split
    · exact ht.addCar d
    · exact ht
  unfold updateVehicleCountsLocked
  dsimp only
  split_ifs
  · exact h
  · exact hpass
  · exact hcar _ _ .ew (hcar _ _ .ns hcount)
  · exact hcount

theorem InRange.updateTimeOfDay {s : LocalState} (h : InRange s) :
    InRange (updateTimeOfDayLocked s) := by
  have hclock : InRange (advanceClock s) := by
    unfold advanceClock
    dsimp only
    split <;> exact h.congr (meters_applyTimeSettings _)
  unfold updateTimeOfDayLocked
  dsimp only
  split_ifs
  · exact h
  · exact hclock.startTrainCommon _ false halfWord_zero
  · exact hclock

theorem InRange.setSimSeconds {s : LocalState} (h : InRange s) (seconds : Int)
    (draws : Draws) : InRange (setSimSecondsLocked s seconds draws) := by
  unfold setSimSecondsLocked
  dsimp only
  split <;> exact h.congr (meters_applyTimeSettings _)

theorem InRange.toggleSensor {s : LocalState} (h : InRange s) (d : Direction) :
    InRange (toggleSensorLocked s d) := by
  have htoggled : ∀ count : Int,
      0 ≤ (if count ≥ sensorCarThreshold then 0 else demoHighCarCount) ∧
        (if count ≥ sensorCarThreshold then 0 else demoHighCarCount) ≤ maxSensorCars := by
    intro count
    split <;> decide
  unfold toggleSensorLocked
  dsimp only
  split
  · exact h.withCounts rfl (htoggled _) h.ewCount
  · exact h.withCounts rfl h.nsCount (htoggled _)

theorem InRange.resetDemoInputs {s : LocalState} (h : InRange s) (draws : Draws) :
    InRange (resetDemoInputsLocked s draws) := by
  have hnone : (0 : Int) ≤ 0 ∧ 0 ≤ maxSensorCars := ⟨le_rfl, by decide⟩
  unfold resetDemoInputsLocked
  extract_lets t u v
  have hv : InRange v := ⟨h.time, halfWord_zero, recovery_range.1, halfWord_zero, halfWord_zero,
    hnone, hnone, FaultSeverity.noConfusion⟩
  have hsettings := hv.congr (meters_applyTimeSettings v)
  exact hsettings.setInitialPhase.markStatusDirty

theorem InRange.clearFault {s : LocalState} (h : InRange s) : InRange (clearFaultLocked s) :=
  ⟨h.time, h.pass, h.recovery, h.temporary, h.offset, h.nsCount, h.ewCount,
    FaultSeverity.noConfusion⟩

theorem InRange.modeAction {s s' : LocalState} (h : InRange s) {command : ModeCmdMsg}
    (haction : modeActionLocked s command = some s') : InRange s' := by
  have hduration := halfWord_toNat command.durationSec
  unfold modeActionLocked at haction
  split at haction
  · cases haction
    exact InRange.clearFault (h.withTemporary rfl halfWord_zero)
  · split at haction
    · cases haction
      apply InRange.clearFault
      have hmeters : metersOf (if s.tempModeRemaining ≤ 0 then
          { s with
            tempReturnMode := s.trafficMode
            tempReturnManualOverride := s.manualModeOverride }
          else s) = metersOf s := by
        split <;> rfl
      exact (h.congr hmeters).withTemporary rfl hduration
    · split at haction
      · cases haction
        split
        · split
          · exact InRange.clearFault (h.withTemporary rfl halfWord_zero)
          · exact h.withTemporary rfl halfWord_zero
        · split
          · exact h.clearFault
          · exact h
      · cases haction

theorem InRange.handler {s : LocalState} (h : InRange s) (handler : Handler)
    (msg : TestMessage) (reply : Reply) (draws : Draws) :
    InRange (handler.run s msg reply draws).1 := by
  cases handler with
  | test => exact h
  | simulation =>
      dsimp only [Handler.run]
      unfold handleSimulationMessage
      cases parseSimCommand msg.data with
      | none => exact h
      | some command =>
          dsimp only
          split
          · have haction : InRange (simActionLocked s command.action draws) := by
              cases command.action with
              | start | stop => exact h
              | time minute =>
                  refine InRange.setSimSeconds ?_ _ draws
                  exact h
            exact haction.congr rfl
          · exact h
  | mode =>
      dsimp only [Handler.run]
      unfold handleModeCommand
      dsimp only
      split
      · cases haction : modeActionLocked s (ModeCmdMsg.ofData msg.data) with
        | none => exact h
        | some s' => exact (h.modeAction haction).congr rfl
      · exact h
  | coordination =>
      dsimp only [Handler.run]
      unfold handleCoordinationCommand
      dsimp only
      split
      · exact ⟨h.time, h.pass, h.recovery, h.temporary, halfWord_toNat _, h.nsCount, h.ewCount,
          FaultSeverity.noConfusion⟩
      · exact h
  | sensor =>
      dsimp only [Handler.run]
      unfold handleSensorUpdate
      dsimp only
      split
      · rename_i hvalid
        have hcount : (0 : Int) ≤ (SensorMsg.ofData msg.data).carCount.toNat ∧
            ((SensorMsg.ofData msg.data).carCount.toNat : Int) ≤ maxSensorCars :=
          ⟨Int.natCast_nonneg _, hvalid.2.2⟩
        apply InRange.markStatusDirty
        split
        · exact h.withCounts rfl hcount h.ewCount
        · exact h.withCounts rfl h.nsCount hcount
      · exact h
  | ped =>
      dsimp only [Handler.run]
      unfold handlePedRequest
      dsimp only
      split
      · exact h.addPedestrianRequest _
      · exact h
  | railway =>
      dsimp only [Handler.run]
      unfold handleRailwayMessage
      dsimp only
      split_ifs
      · exact h.startTrainMessage _ (halfWord_toNat _)
      · exact h.clearTrain
      · exact h
      · exact h

theorem InRange.dispatch {s : LocalState} (h : InRange s) (msg : TestMessage) (draws : Draws) :
    InRange (localDispatchMessage s msg draws).1 := by
  unfold localDispatchMessage
  dsimp only
  split
  · exact h
  · split
    · exact h
    · cases handlers.find? (·.accepts msg.header) with
      | none => exact h
      | some entry => exact h.handler entry.handler msg _ draws

theorem InRange.executeKey {s : LocalState} (h : InRange s) (key : Char) (draws : Draws) :
    InRange (executeKey s key draws) := by
  unfold LocalMessages.executeKey
  split
  · exact h
  · exact h.addPedestrianRequest .ns
  · exact h.addPedestrianRequest .ew
  · exact h.toggleSensor .ns
  · exact h.toggleSensor .ew
  · exact h.startTrainCommon 1 false halfWord_zero
  · exact h.startTrainCommon 2 false halfWord_zero
  · exact h.clearTrain
  · exact h.resetDemoInputs draws
  · refine InRange.setSimSeconds ?_ _ draws
    exact h
  · refine InRange.setSimSeconds ?_ _ draws
    exact h
  · refine InRange.setSimSeconds ?_ _ draws
    exact h
  · exact h

theorem InRange.step {s : LocalState} (h : InRange s) (op : LocalOp) :
    InRange (localStep s op) := by
  cases op with
  | linkTimeout | markDirty | links => exact h
  | timeOfDay => exact h.updateTimeOfDay
  | temporaryMode => exact h.updateTemporaryMode
  | trafficTick draws => exact h.trafficTick draws
  | vehicleCounts draws => exact h.updateVehicleCounts draws
  | frame msg draws => exact h.dispatch msg draws
  | input command draws =>
      unfold localStep LocalMessages.executeCommand
      dsimp only
      split
      · exact (h.executeKey _ draws).markStatusDirty
      · exact h

theorem meters_init (intersectionId : UInt8) (draws : Draws) :
    metersOf (localStateInit intersectionId draws) =
      { time := 20, pass := 0, recovery := 0, temporary := 0, offset := 0, nsCount := 0
        ewCount := 0, severity := .low } := by
  unfold localStateInit
  generalize intersectionOf intersectionId = id
  fin_cases id <;> rfl

theorem inRange_init (intersectionId : UInt8) (draws : Draws) :
    InRange (localStateInit intersectionId draws) := by
  have hnone : (0 : Int) ≤ 0 ∧ 0 ≤ maxSensorCars := ⟨le_rfl, by decide⟩
  unfold InRange
  rw [meters_init]
  exact ⟨⟨by decide, by decide⟩, halfWord_zero, recovery_range.1, halfWord_zero, halfWord_zero,
    hnone, hnone, FaultSeverity.noConfusion⟩

theorem inRange_reachable {s : LocalState} (h : Reachable Booted localStep s) : InRange s := by
  refine h.invariant ?_ fun s op hs => hs.step op
  rintro s ⟨intersectionId, draws, rfl⟩
  exact inRange_init intersectionId draws

end TrafficLight.LocalMeters
