import TrafficLight.LocalMeters
import TrafficLight.Telemetry

/-!
The reports of a Local, from `local_state.c` and `local_comm.c`: the status and
the fault of a state, the heartbeat made from a status, and the frame each of
them travels in.
-/

namespace TrafficLight.LocalReports

open TrafficLight.Protocol
open TrafficLight.LocalData
open TrafficLight.LocalTraffic
open TrafficLight.LocalMeters
open TrafficLight.Telemetry
open TrafficLight.Decimal

/-- A flag on the wire. -/
def flag (b : Bool) : UInt8 := if b then 1 else 0

def displayMode (s : LocalState) : TrafficLightMode :=
  if s.trainPending ∨ s.trainActive ∨ s.trainRecoveryRemaining > 0 then .railway
  else s.trafficMode

/-- The simulated second of the day, never negative. -/
def secondOfDay (s : LocalState) : Int :=
  let seconds := s.simSeconds.tmod secondsPerDay
  if seconds < 0 then seconds + secondsPerDay else seconds

def fillStatusLocked (s : LocalState) : StatusMsg :=
  let positive := fun n : Int => if n > 0 then n else 0
  { intersectionId := UInt8.ofNat s.intersectionId.val
    mode := (displayMode s).toByte
    phase := s.phase.toByte
    nsState := s.nsLight.toByte
    ewState := s.ewLight.toByte
    pedestrianNs := flag s.pedNsWalk
    pedestrianEw := flag s.pedEwWalk
    railwayPreempt :=
      flag (decide (s.trainPending ∨ s.trainActive ∨ s.trainRecoveryRemaining > 0))
    timeRemaining := UInt16.ofInt (positive s.timeRemaining)
    telemetryVersion := statusTelemetryVersion
    reserved := 0
    statusSequence := s.statusSequence
    lastCommandId := s.lastAppliedCommandId
    simMinuteOfDay := UInt16.ofInt ((secondOfDay s).tdiv 60)
    temporaryRemaining := UInt16.ofInt (positive s.tempModeRemaining)
    coordinationOffsetSec := UInt16.ofInt (positive s.coordinationOffsetSec)
    sensorNsCount := UInt8.ofInt s.sensorNsCount
    sensorEwCount := UInt8.ofInt s.sensorEwCount
    pedestrianNsRequest := flag s.pedNsRequest
    pedestrianEwRequest := flag s.pedEwRequest
    simRunning := flag s.simRunning
    trainPending := flag s.trainPending
    trainActive := flag s.trainActive
    trainRecoveryRemaining := UInt8.ofInt (positive s.trainRecoveryRemaining)
    manualModeOverride := flag s.manualModeOverride
    manualSensorOverride := flag s.manualSensorOverride
    coordinationPending := flag s.coordinationPending
    faultActive := flag s.faultActive
    faultType := s.faultType.toByte
    faultSeverity := if s.faultActive then s.faultSeverity.toByte else 0 }

/-- The payload of `prepare_fault_message_locked`. -/
def prepareFaultMessageLocked (s : LocalState) : FaultMsg :=
  { sourceId := UInt8.ofNat s.intersectionId.val
    faultType := s.faultType.toByte
    severity := s.faultSeverity.toByte
    reserved := 0
    description := descriptionOf (ascii s.faultDescription.toList) }

/-- The heartbeat that goes out with a status; `sequence` counts the earlier ones. -/
def heartbeatOf (status : StatusMsg) (sequence : UInt16) : HeartbeatMsg :=
  { senderId := status.intersectionId
    healthy := flag (decide (status.faultActive = 0 ∧ status.mode ≠ modeFailsafe))
    sequence := bumpSequence sequence }

/-- The payload of `prepare_heartbeat_message_locked`. -/
def prepareHeartbeatMessageLocked (s : LocalState) : HeartbeatMsg :=
  { senderId := UInt8.ofNat s.intersectionId.val
    healthy := flag (decide (s.faultActive = false ∧ s.trafficMode ≠ .failsafe))
    sequence := bumpSequence s.heartbeatSequence }

/-- `send_payload`: the whole envelope is sent. -/
def sendPayload (type : UInt16) (payload : List UInt8) (timestamp : Fin 32 → UInt8) :
    List UInt8 :=
  messageBytes
    { header :=
        { type, src := controllerLocal, dst := controllerCentral, reserved := 0, timestamp }
      data := dataOfBytes payload }

theorem toNat_ofInt_halfWord {n : Int} (h : HalfWord n) : ((UInt16.ofInt n).toNat : Int) = n := by
  obtain ⟨hlow, hhigh⟩ := h
  unfold UInt16.ofInt
  rw [UInt16.toNat_ofNat']
  omega

theorem toNat_ofInt_byte {n : Int} (hlow : 0 ≤ n) (hhigh : n ≤ 255) :
    ((UInt8.ofInt n).toNat : Int) = n := by
  unfold UInt8.ofInt
  rw [UInt8.toNat_ofNat']
  omega

theorem secondOfDay_range (s : LocalState) :
    0 ≤ secondOfDay s ∧ secondOfDay s < secondsPerDay := by
  have hday : secondsPerDay = 86400 := rfl
  have hlow : -secondsPerDay < s.simSeconds.tmod secondsPerDay := Int.lt_tmod_of_pos _ (by omega)
  have hhigh : s.simSeconds.tmod secondsPerDay < secondsPerDay :=
    Int.tmod_lt_of_pos _ (by omega)
  unfold secondOfDay
  dsimp only
  split <;> omega

theorem minute_range (s : LocalState) :
    0 ≤ (secondOfDay s).tdiv 60 ∧ (secondOfDay s).tdiv 60 < 1440 := by
  obtain ⟨hlow, hhigh⟩ := secondOfDay_range s
  have hday : secondsPerDay = 86400 := rfl
  rw [Int.tdiv_eq_ediv_of_nonneg hlow]
  omega

/-- The counters of a status are the numbers of the state. -/
structure Untruncated (s : LocalState) (status : StatusMsg) : Prop where
  time : (status.timeRemaining.toNat : Int) = s.timeRemaining
  minute : (status.simMinuteOfDay.toNat : Int) = (secondOfDay s).tdiv 60
  temporary : (status.temporaryRemaining.toNat : Int) = s.tempModeRemaining
  offset : (status.coordinationOffsetSec.toNat : Int) = s.coordinationOffsetSec
  nsCount : (status.sensorNsCount.toNat : Int) = s.sensorNsCount
  ewCount : (status.sensorEwCount.toNat : Int) = s.sensorEwCount
  recovery : (status.trainRecoveryRemaining.toNat : Int) = s.trainRecoveryRemaining

theorem untruncated_fillStatus {s : LocalState} (h : InRange s) :
    Untruncated s (fillStatusLocked s) := by
  have hpositive : ∀ n : Int, 0 ≤ n → (if n > 0 then n else 0) = n := by
    intro n hn
    split <;> omega
  have hcars : maxSensorCars = 12 := rfl
  have hrecovery : railwayRecoverySec = 2 := rfl
  have htime : HalfWord s.timeRemaining := h.time
  have htemporary : HalfWord s.tempModeRemaining := h.temporary
  have hoffset : HalfWord s.coordinationOffsetSec := h.offset
  obtain ⟨hnsLow, hnsHigh⟩ : 0 ≤ s.sensorNsCount ∧ s.sensorNsCount ≤ maxSensorCars := h.nsCount
  obtain ⟨hewLow, hewHigh⟩ : 0 ≤ s.sensorEwCount ∧ s.sensorEwCount ≤ maxSensorCars := h.ewCount
  obtain ⟨hlow, hhigh⟩ : 0 ≤ s.trainRecoveryRemaining ∧
    s.trainRecoveryRemaining ≤ railwayRecoverySec := h.recovery
  obtain ⟨hminuteLow, hminuteHigh⟩ := minute_range s
  constructor
  · show ((UInt16.ofInt (if s.timeRemaining > 0 then _ else _)).toNat : Int) = _
    rw [hpositive _ htime.1, toNat_ofInt_halfWord htime]
  · exact toNat_ofInt_halfWord ⟨hminuteLow, by omega⟩
  · show ((UInt16.ofInt (if s.tempModeRemaining > 0 then _ else _)).toNat : Int) = _
    rw [hpositive _ htemporary.1, toNat_ofInt_halfWord htemporary]
  · show ((UInt16.ofInt (if s.coordinationOffsetSec > 0 then _ else _)).toNat : Int) = _
    rw [hpositive _ hoffset.1, toNat_ofInt_halfWord hoffset]
  · exact toNat_ofInt_byte hnsLow (by omega)
  · exact toNat_ofInt_byte hewLow (by omega)
  · show ((UInt8.ofInt (if s.trainRecoveryRemaining > 0 then _ else _)).toNat : Int) = _
    rw [hpositive _ hlow, toNat_ofInt_byte hlow (by omega)]

end TrafficLight.LocalReports
