import Mathlib.Data.List.TakeWhile
import TrafficLight.Decimal
import TrafficLight.Protocol

/-!
The payloads of the reports to Central: status, fault, heartbeat and railway
status, in the x86_64 layout. Fields keep their wire numbers here; what a
number may be is checked by the receiver.
-/

namespace TrafficLight.Telemetry

open TrafficLight.Protocol
open TrafficLight.Decimal

def statusTelemetryVersion : UInt8 := 1

def modeFailsafe : UInt8 := 3
def phaseRailwayHold : UInt8 := 4
def lightGreen : UInt8 := 3
def faultNotWorking : UInt8 := 5
def sevLow : UInt8 := 1
def sevCritical : UInt8 := 3
def trainClear : UInt8 := 3
def gateFault : UInt8 := 4

/-- `heartbeat_msg_t` -/
structure HeartbeatMsg where
  senderId : UInt8
  healthy : UInt8
  sequence : UInt16
  deriving DecidableEq

def HeartbeatMsg.ofData (d : Data) : HeartbeatMsg :=
  { senderId := d 0
    healthy := d 1
    sequence := le16 (d 2) (d 3) }

def HeartbeatMsg.toBytes (m : HeartbeatMsg) : List UInt8 :=
  [m.senderId, m.healthy, m.sequence.toUInt8, (m.sequence >>> 8).toUInt8]

/-- `railway_status_msg_t` -/
structure RailwayStatusMsg where
  crossingId : UInt8
  trainState : UInt8
  gateState : UInt8
  fault : UInt8
  trackStates : UInt8
  upState : UInt8
  downState : UInt8
  reserved : UInt8
  deriving DecidableEq

def RailwayStatusMsg.ofData (d : Data) : RailwayStatusMsg :=
  { crossingId := d 0
    trainState := d 1
    gateState := d 2
    fault := d 3
    trackStates := d 4
    upState := d 5
    downState := d 6
    reserved := d 7 }

def RailwayStatusMsg.toBytes (m : RailwayStatusMsg) : List UInt8 :=
  [m.crossingId, m.trainState, m.gateState, m.fault, m.trackStates, m.upState,
    m.downState, m.reserved]

/-- `status_msg_t` -/
structure StatusMsg where
  intersectionId : UInt8
  mode : UInt8
  phase : UInt8
  nsState : UInt8
  ewState : UInt8
  pedestrianNs : UInt8
  pedestrianEw : UInt8
  railwayPreempt : UInt8
  timeRemaining : UInt16
  telemetryVersion : UInt8
  reserved : UInt8
  statusSequence : UInt16
  lastCommandId : UInt16
  simMinuteOfDay : UInt16
  temporaryRemaining : UInt16
  coordinationOffsetSec : UInt16
  sensorNsCount : UInt8
  sensorEwCount : UInt8
  pedestrianNsRequest : UInt8
  pedestrianEwRequest : UInt8
  simRunning : UInt8
  trainPending : UInt8
  trainActive : UInt8
  trainRecoveryRemaining : UInt8
  manualModeOverride : UInt8
  manualSensorOverride : UInt8
  coordinationPending : UInt8
  faultActive : UInt8
  faultType : UInt8
  faultSeverity : UInt8
  deriving DecidableEq

def StatusMsg.ofData (d : Data) : StatusMsg :=
  { intersectionId := d 0
    mode := d 1
    phase := d 2
    nsState := d 3
    ewState := d 4
    pedestrianNs := d 5
    pedestrianEw := d 6
    railwayPreempt := d 7
    timeRemaining := le16 (d 8) (d 9)
    telemetryVersion := d 10
    reserved := d 11
    statusSequence := le16 (d 12) (d 13)
    lastCommandId := le16 (d 14) (d 15)
    simMinuteOfDay := le16 (d 16) (d 17)
    temporaryRemaining := le16 (d 18) (d 19)
    coordinationOffsetSec := le16 (d 20) (d 21)
    sensorNsCount := d 22
    sensorEwCount := d 23
    pedestrianNsRequest := d 24
    pedestrianEwRequest := d 25
    simRunning := d 26
    trainPending := d 27
    trainActive := d 28
    trainRecoveryRemaining := d 29
    manualModeOverride := d 30
    manualSensorOverride := d 31
    coordinationPending := d 32
    faultActive := d 33
    faultType := d 34
    faultSeverity := d 35 }

def StatusMsg.toBytes (m : StatusMsg) : List UInt8 :=
  [m.intersectionId, m.mode, m.phase, m.nsState, m.ewState, m.pedestrianNs,
    m.pedestrianEw, m.railwayPreempt, m.timeRemaining.toUInt8,
    (m.timeRemaining >>> 8).toUInt8, m.telemetryVersion, m.reserved,
    m.statusSequence.toUInt8, (m.statusSequence >>> 8).toUInt8,
    m.lastCommandId.toUInt8, (m.lastCommandId >>> 8).toUInt8,
    m.simMinuteOfDay.toUInt8, (m.simMinuteOfDay >>> 8).toUInt8,
    m.temporaryRemaining.toUInt8, (m.temporaryRemaining >>> 8).toUInt8,
    m.coordinationOffsetSec.toUInt8, (m.coordinationOffsetSec >>> 8).toUInt8,
    m.sensorNsCount, m.sensorEwCount, m.pedestrianNsRequest, m.pedestrianEwRequest,
    m.simRunning, m.trainPending, m.trainActive, m.trainRecoveryRemaining,
    m.manualModeOverride, m.manualSensorOverride, m.coordinationPending, m.faultActive,
    m.faultType, m.faultSeverity]

/-- `fault_msg_t` -/
structure FaultMsg where
  sourceId : UInt8
  faultType : UInt8
  severity : UInt8
  reserved : UInt8
  description : Fin 32 → UInt8

def FaultMsg.ofData (d : Data) : FaultMsg :=
  { sourceId := d 0
    faultType := d 1
    severity := d 2
    reserved := d 3
    description := fun i => d ⟨4 + i.val, by omega⟩ }

def FaultMsg.toBytes (m : FaultMsg) : List UInt8 :=
  [m.sourceId, m.faultType, m.severity, m.reserved] ++ List.ofFn m.description

@[simp] theorem HeartbeatMsg.ofData_toBytes (m : HeartbeatMsg) :
    ofData (dataOfBytes m.toBytes) = m := by
  have hsequence := le16_split m.sequence
  cases m
  simpa [ofData, dataOfBytes, toBytes] using hsequence

@[simp] theorem RailwayStatusMsg.ofData_toBytes (m : RailwayStatusMsg) :
    ofData (dataOfBytes m.toBytes) = m := rfl

@[simp] theorem StatusMsg.ofData_toBytes (m : StatusMsg) :
    ofData (dataOfBytes m.toBytes) = m := by
  have htime := le16_split m.timeRemaining
  have hsequence := le16_split m.statusSequence
  have hcommand := le16_split m.lastCommandId
  have hminute := le16_split m.simMinuteOfDay
  have htemporary := le16_split m.temporaryRemaining
  have hoffset := le16_split m.coordinationOffsetSec
  cases m
  simp_all [ofData, dataOfBytes, toBytes]

@[simp] theorem FaultMsg.ofData_toBytes (m : FaultMsg) :
    ofData (dataOfBytes m.toBytes) = m := by
  have hdescription : (ofData (dataOfBytes m.toBytes)).description = m.description := by
    funext i
    have hindex : 4 + i.val = i.val + 1 + 1 + 1 + 1 := by omega
    simp only [ofData, dataOfBytes, toBytes, hindex, List.cons_append, List.nil_append,
      List.getD_cons_succ]
    rw [List.getD_eq_getElem?_getD, List.getElem?_ofFn, dif_pos i.isLt]
    rfl
  cases m
  simp only [ofData, mk.injEq] at hdescription ⊢
  exact ⟨rfl, rfl, rfl, rfl, hdescription⟩

/-- The time of day as `get_timestamp` prints it into a cleared field. -/
def timestampOf (hour minute second : Nat) : Fin 32 → UInt8 :=
  let twoDigits := fun n => [digit (n / 10 % 10), digit (n % 10)]
  fun i => (twoDigits hour ++ ascii [':'] ++ twoDigits minute ++ ascii [':'] ++
    twoDigits second).getD i.val 0

@[simp] theorem terminated_timestampOf (hour minute second : Nat) :
    terminated (timestampOf hour minute second) = true :=
  decide_eq_true ⟨31, rfl⟩

/-- A text printed into a cleared description; what does not fit is cut off. -/
def descriptionOf (text : List UInt8) : Fin 32 → UInt8 :=
  fun i => (text.take 31).getD i.val 0

@[simp] theorem terminated_descriptionOf (text : List UInt8) :
    terminated (descriptionOf text) = true := by
  apply decide_eq_true
  refine ⟨31, ?_⟩
  unfold descriptionOf
  rw [List.getD_eq_getElem?_getD, List.getElem?_eq_none]
  · rfl
  · exact List.length_take_le 31 text

def headerSize : Nat := 40
def dataSize : Nat := 64

/-- `msg_header_t` in memory. -/
def headerBytes (h : MsgHeader) : List UInt8 :=
  [h.type.toUInt8, (h.type >>> 8).toUInt8, h.src.toUInt8, (h.src >>> 8).toUInt8,
    h.dst.toUInt8, (h.dst >>> 8).toUInt8, h.reserved.toUInt8, (h.reserved >>> 8).toUInt8] ++
    List.ofFn h.timestamp

def headerOfBytes (bytes : List UInt8) : MsgHeader :=
  let byte := fun i => bytes.getD i 0
  { type := le16 (byte 0) (byte 1)
    src := le16 (byte 2) (byte 3)
    dst := le16 (byte 4) (byte 5)
    reserved := le16 (byte 6) (byte 7)
    timestamp := fun i => byte (8 + i.val) }

/-- `test_message_t` in memory. -/
def messageBytes (m : TestMessage) : List UInt8 :=
  headerBytes m.header ++ List.ofFn m.data

def messageOfBytes (bytes : List UInt8) : TestMessage :=
  { header := headerOfBytes bytes
    data := dataOfBytes (bytes.drop headerSize) }

@[simp] theorem length_headerBytes (h : MsgHeader) : (headerBytes h).length = headerSize := by
  simp [headerBytes, headerSize]

@[simp] theorem length_messageBytes (m : TestMessage) :
    (messageBytes m).length = headerSize + dataSize := by
  simp [messageBytes, dataSize]

@[simp] theorem headerOfBytes_append (h : MsgHeader) (payload : List UInt8) :
    headerOfBytes (headerBytes h ++ payload) = h := by
  have htimestamp : (headerOfBytes (headerBytes h ++ payload)).timestamp = h.timestamp := by
    funext i
    have hindex : 8 + i.val = i.val + 1 + 1 + 1 + 1 + 1 + 1 + 1 + 1 := by omega
    simp only [headerOfBytes, headerBytes, hindex, List.cons_append, List.nil_append,
      List.getD_cons_succ]
    rw [List.getD_eq_getElem?_getD, List.getElem?_append_left (by simp), List.getElem?_ofFn,
      dif_pos i.isLt]
    rfl
  have htype := le16_split h.type
  have hsrc := le16_split h.src
  have hdst := le16_split h.dst
  have hreserved := le16_split h.reserved
  cases h
  simp only [headerOfBytes, MsgHeader.mk.injEq] at htimestamp ⊢
  exact ⟨htype, hsrc, hdst, hreserved, htimestamp⟩

@[simp] theorem drop_headerBytes (h : MsgHeader) (payload : List UInt8) :
    (headerBytes h ++ payload).drop headerSize = payload :=
  List.drop_left' (length_headerBytes h)

@[simp] theorem dataOfBytes_ofFn (d : Data) : dataOfBytes (List.ofFn d) = d := by
  funext i
  unfold dataOfBytes
  rw [List.getD_eq_getElem?_getD, List.getElem?_ofFn, dif_pos i.isLt]
  rfl

theorem ofFn_dataOfBytes {text : List UInt8} (hlength : text.length ≤ 64) :
    List.ofFn (dataOfBytes text) = text ++ List.replicate (64 - text.length) 0 := by
  apply List.ext_getElem
  · simp
    omega
  · intro i hi hi'
    simp only [List.getElem_ofFn, dataOfBytes, List.getElem_append]
    split
    · rename_i hlt
      simp [hlt]
    · rename_i hge
      simp [List.getD_eq_getElem?_getD, List.getElem?_eq_none (by omega : text.length ≤ i)]

theorem ofFn_dataOfBytes_lt {text : List UInt8} (hlength : text.length < 64) :
    List.ofFn (dataOfBytes text) = text ++ 0 :: List.replicate (63 - text.length) 0 := by
  have hcount : 64 - text.length = 63 - text.length + 1 := by omega
  rw [ofFn_dataOfBytes hlength.le, hcount, List.replicate_succ]

theorem takeWhile_dataOfBytes {text : List UInt8} (hlength : text.length < 64)
    (hnonzero : ∀ c ∈ text, c ≠ 0) :
    (List.ofFn (dataOfBytes text)).takeWhile (· ≠ 0) = text := by
  rw [ofFn_dataOfBytes_lt hlength, List.takeWhile_append_of_pos (by simpa using hnonzero)]
  simp

theorem dropWhile_dataOfBytes {text : List UInt8} (hlength : text.length < 64)
    (hnonzero : ∀ c ∈ text, c ≠ 0) :
    (List.ofFn (dataOfBytes text)).dropWhile (· ≠ 0) =
      0 :: List.replicate (63 - text.length) 0 := by
  rw [ofFn_dataOfBytes_lt hlength, List.dropWhile_append_of_pos (by simpa using hnonzero)]
  simp

theorem take_eq_ofFn {bytes : List UInt8} {n : Nat} (hlength : n ≤ bytes.length) :
    bytes.take n = List.ofFn fun i : Fin n => bytes.getD i.val 0 := by
  apply List.ext_getElem
  · simpa using hlength
  · intro i hi hi'
    have hindex : i < bytes.length := by
      rw [List.length_take] at hi
      omega
    rw [List.getElem_take, List.getElem_ofFn, List.getD_eq_getElem?_getD,
      List.getElem?_eq_getElem hindex]
    rfl

theorem headerBytes_headerOfBytes {bytes : List UInt8} (hlength : headerSize ≤ bytes.length) :
    headerBytes (headerOfBytes bytes) = bytes.take headerSize := by
  have hsize : 40 ≤ bytes.length := hlength
  have hsplit : bytes.take headerSize = bytes.take 8 ++ (bytes.drop 8).take 32 :=
    @List.take_add _ bytes 8 32
  have htimestamp : (bytes.drop 8).take 32 = List.ofFn (headerOfBytes bytes).timestamp := by
    rw [take_eq_ofFn (by rw [List.length_drop]; omega)]
    congr 1
    funext i
    show (bytes.drop 8).getD i.val 0 = bytes.getD (8 + i.val) 0
    rw [List.getD_eq_getElem?_getD, List.getElem?_drop, ← List.getD_eq_getElem?_getD]
  rw [hsplit, htimestamp, take_eq_ofFn (by omega)]
  unfold headerBytes
  congr 1
  simp only [headerOfBytes, le16_low, le16_high]
  rfl

@[simp] theorem messageOfBytes_messageBytes (m : TestMessage) :
    messageOfBytes (messageBytes m) = m := by
  unfold messageOfBytes messageBytes
  rw [headerOfBytes_append, drop_headerBytes, dataOfBytes_ofFn]

end TrafficLight.Telemetry
