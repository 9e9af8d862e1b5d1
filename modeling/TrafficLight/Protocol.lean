import Mathlib.Algebra.GroupWithZero.Nat
import Mathlib.Data.Fintype.Basic
import Mathlib.Data.Fintype.Pi

/-!
The shared message protocol: timing constants, enumerations and the frame that
every controller sends. Payload structures are read out of the data bytes in
the little-endian x86_64 layout, as `memcpy` does.
-/

namespace TrafficLight.Protocol

def numIntersections : Nat := 6
def numCrossings : Nat := 3

def greenBaseSec : Int := 20
def greenMinSec : Int := 10
def greenMaxSec : Int := 30
def yellowSec : Int := 2
def pedWalkStartSec : Int := 1
def pedWalkEndSec : Int := 5
def sensorCarThreshold : Int := 5
def sensorAdjustSec : Int := 5
def railwayRecoverySec : Int := 2

instance neZeroCrossings : NeZero 3 := ⟨by decide⟩
instance neZeroIntersections : NeZero 6 := ⟨by decide⟩
instance neZeroTimestamp : NeZero 32 := ⟨by decide⟩
instance neZeroData : NeZero 64 := ⟨by decide⟩

def msgTest : UInt16 := 1
def msgHeartbeat : UInt16 := 2
def msgModeCommand : UInt16 := 3
def msgStatusUpdate : UInt16 := 4
def msgFaultAlert : UInt16 := 5
def msgRailwayPreempt : UInt16 := 6
def msgTrainClear : UInt16 := 7
def msgRailwayStatus : UInt16 := 8
def msgSensorUpdate : UInt16 := 9
def msgPedRequest : UInt16 := 10
def msgCoordinationCommand : UInt16 := 11

def controllerLocal : UInt16 := 1
def controllerTrain : UInt16 := 2
def controllerCentral : UInt16 := 3

def cmdSetMode : UInt8 := 0
def cmdTemporary : UInt8 := 1
def cmdRevert : UInt8 := 2
def cmdPrioSchedule : UInt8 := 1
def cmdPrioOperator : UInt8 := 2
def intersectionAll : UInt8 := 0xFF

/-- `gate_state_t` -/
inductive GateState
  | open
  | closing
  | closed
  | opening
  | fault
  deriving DecidableEq, Repr

/-- `traffic_light_mode` -/
inductive TrafficLightMode
  | fixed
  | sensor
  | railway
  | failsafe
  deriving DecidableEq, Repr

/-- `light_state_t` -/
inductive LightState
  | off
  | red
  | yellow
  | green
  deriving DecidableEq, Repr

/-- `phase_t` -/
inductive Phase
  | nsGreen
  | nsYellow
  | ewGreen
  | ewYellow
  | railwayHold
  deriving DecidableEq, Repr

/-- `direction_t` -/
inductive Direction
  | ns
  | ew
  deriving DecidableEq, Repr

instance : Fintype Direction where
  elems := {.ns, .ew}
  complete := by intro d; cases d <;> decide

/-- `fault_type_t` -/
inductive FaultType
  | none
  | light
  | sensor
  | comm
  | gate
  | notWorking
  deriving DecidableEq, Repr

/-- `fault_severity_t`; `unset` is the zero of a cleared record. -/
inductive FaultSeverity
  | unset
  | low
  | medium
  | critical
  deriving DecidableEq, Repr

/-- The wire number of a mode. -/
def TrafficLightMode.toByte : TrafficLightMode → UInt8
  | .fixed => 0
  | .sensor => 1
  | .railway => 2
  | .failsafe => 3

/-- The wire number of a phase. -/
def Phase.toByte : Phase → UInt8
  | .nsGreen => 0
  | .nsYellow => 1
  | .ewGreen => 2
  | .ewYellow => 3
  | .railwayHold => 4

/-- The wire number of a direction. -/
def Direction.toByte : Direction → UInt8
  | .ns => 0
  | .ew => 1

/-- The wire number of a lamp. -/
def LightState.toByte : LightState → UInt8
  | .off => 0
  | .red => 1
  | .yellow => 2
  | .green => 3

/-- The wire number of a gate position. -/
def GateState.toByte : GateState → UInt8
  | .open => 0
  | .closing => 1
  | .closed => 2
  | .opening => 3
  | .fault => 4

/-- The wire number of a fault type. -/
def FaultType.toByte : FaultType → UInt8
  | .none => 0
  | .light => 1
  | .sensor => 2
  | .comm => 3
  | .gate => 4
  | .notWorking => 5

/-- The wire number of a severity. -/
def FaultSeverity.toByte : FaultSeverity → UInt8
  | .unset => 0
  | .low => 1
  | .medium => 2
  | .critical => 3

/-- The opposite approach. -/
def Direction.other : Direction → Direction
  | .ns => .ew
  | .ew => .ns

/-- `msg_header_t` -/
structure MsgHeader where
  type : UInt16
  src : UInt16
  dst : UInt16
  reserved : UInt16
  timestamp : Fin 32 → UInt8

/-- The `data` field of a frame. -/
abbrev Data := Fin 64 → UInt8

/-- `test_message_t`, the envelope of every message. -/
structure TestMessage where
  header : MsgHeader
  data : Data

/-- `reply_t`. The timestamp is display text and is left out. -/
structure Reply where
  status : Int
  commandId : UInt16
  deriving DecidableEq

/-- A 16-bit field stored low byte first. -/
def le16 (lo hi : UInt8) : UInt16 :=
  lo.toUInt16 ||| (hi.toUInt16 <<< 8)

theorem le16_split (w : UInt16) : le16 w.toUInt8 (w >>> 8).toUInt8 = w := by
  have hlow (v : BitVec 16) (i : Nat) :
      (v % 256#16).getLsbD i = (decide (i < 8) && v.getLsbD i) := by
    simp [BitVec.getLsbD, BitVec.toNat_umod, Nat.testBit_mod_two_pow v.toNat 8 i]
  apply UInt16.eq_of_toBitVec_eq
  apply BitVec.eq_of_getLsbD_eq
  intro i hi
  have hbits : (le16 w.toUInt8 (w >>> 8).toUInt8).toBitVec.getLsbD i =
      ((w.toBitVec % 256#16).getLsbD i || decide (i < 16) && !decide (i < 8) &&
        (w.toBitVec >>> 8 % 256#16).getLsbD (i - 8)) := by
    simp [le16]
  rw [hbits, hlow, hlow, BitVec.getLsbD_ushiftRight]
  by_cases hbyte : i < 8
  · simp [hbyte]
  · have hhigh : i - 8 < 8 := by omega
    have hindex : 8 + (i - 8) = i := by omega
    simp only [hbyte, hhigh, hindex, hi, decide_true, decide_false, Bool.not_false, Bool.true_and,
      Bool.false_and, Bool.false_or]

theorem le16_low (lo hi : UInt8) : (le16 lo hi).toUInt8 = lo := by
  apply UInt8.eq_of_toBitVec_eq
  apply BitVec.eq_of_getLsbD_eq
  intro i hbyte
  have hindex : ¬ 8 ≤ i := by omega
  simp [le16, hbyte]

theorem le16_high (lo hi : UInt8) : (le16 lo hi >>> 8).toUInt8 = hi := by
  apply UInt8.eq_of_toBitVec_eq
  apply BitVec.eq_of_getLsbD_eq
  intro i hbyte
  have hword : 8 + i < 16 := by omega
  simp [le16, hbyte, hword]

/-- Payload bytes copied into a zeroed data field. -/
def dataOfBytes (bytes : List UInt8) : Data :=
  fun i => bytes.getD i.val 0

/-- Payload bytes copied over the start of a data field. -/
def overwrite (d : Data) (bytes : List UInt8) : Data :=
  fun i => bytes.getD i.val (d i)

/-- A text field that holds a NUL. -/
def terminated (timestamp : Fin 32 → UInt8) : Bool :=
  decide (∃ i, timestamp i = 0)

/-- A timestamp field whose first byte is already the terminator. -/
def blankTimestamp : Fin 32 → UInt8 := fun _ => 0

/-- A frame with the given routing and payload bytes. -/
def frameOf (type src dst : UInt16) (bytes : List UInt8) : TestMessage :=
  { header := { type, src, dst, reserved := 0, timestamp := blankTimestamp }
    data := dataOfBytes bytes }

/-- `mode_cmd_msg_t` -/
structure ModeCmdMsg where
  intersectionId : UInt8
  newMode : UInt8
  action : UInt8
  priority : UInt8
  durationSec : UInt16
  commandId : UInt16
  deriving DecidableEq

def ModeCmdMsg.ofData (d : Data) : ModeCmdMsg :=
  { intersectionId := d 0
    newMode := d 1
    action := d 2
    priority := d 3
    durationSec := le16 (d 4) (d 5)
    commandId := le16 (d 6) (d 7) }

def ModeCmdMsg.toBytes (m : ModeCmdMsg) : List UInt8 :=
  [m.intersectionId, m.newMode, m.action, m.priority, m.durationSec.toUInt8,
    (m.durationSec >>> 8).toUInt8, m.commandId.toUInt8, (m.commandId >>> 8).toUInt8]

@[simp] theorem ModeCmdMsg.ofData_overwrite (d : Data) (m : ModeCmdMsg) :
    ofData (overwrite d m.toBytes) = m := by
  have hduration := le16_split m.durationSec
  have hid := le16_split m.commandId
  cases m
  simp_all [ofData, overwrite, toBytes]

/-- `coordination_command_msg_t` -/
structure CoordinationCommandMsg where
  intersectionId : UInt8
  mode : UInt8
  phase : UInt8
  reserved : UInt8
  cycleOffsetSec : UInt16
  commandId : UInt16
  deriving DecidableEq

def CoordinationCommandMsg.ofData (d : Data) : CoordinationCommandMsg :=
  { intersectionId := d 0
    mode := d 1
    phase := d 2
    reserved := d 3
    cycleOffsetSec := le16 (d 4) (d 5)
    commandId := le16 (d 6) (d 7) }

def CoordinationCommandMsg.toBytes (m : CoordinationCommandMsg) : List UInt8 :=
  [m.intersectionId, m.mode, m.phase, m.reserved, m.cycleOffsetSec.toUInt8,
    (m.cycleOffsetSec >>> 8).toUInt8, m.commandId.toUInt8, (m.commandId >>> 8).toUInt8]

@[simp] theorem CoordinationCommandMsg.ofData_overwrite (d : Data)
    (m : CoordinationCommandMsg) : ofData (overwrite d m.toBytes) = m := by
  have hoffset := le16_split m.cycleOffsetSec
  have hid := le16_split m.commandId
  cases m
  simp_all [ofData, overwrite, toBytes]

/-- `railway_msg_t` -/
structure RailwayMsg where
  intersectionId : UInt8
  active : UInt8
  etaSeconds : UInt16
  deriving DecidableEq

def RailwayMsg.ofData (d : Data) : RailwayMsg :=
  { intersectionId := d 0
    active := d 1
    etaSeconds := le16 (d 2) (d 3) }

/-- The bytes of a `railway_msg_t`. -/
def RailwayMsg.toBytes (m : RailwayMsg) : List UInt8 :=
  [m.intersectionId, m.active, m.etaSeconds.toUInt8, (m.etaSeconds >>> 8).toUInt8]

theorem RailwayMsg.ofData_toBytes (m : RailwayMsg) : ofData (dataOfBytes m.toBytes) = m := by
  have heta := le16_split m.etaSeconds
  cases m
  simpa [ofData, dataOfBytes, toBytes] using heta

/-- `sensor_msg_t` -/
structure SensorMsg where
  intersectionId : UInt8
  direction : UInt8
  carCount : UInt8
  deriving DecidableEq

def SensorMsg.ofData (d : Data) : SensorMsg :=
  { intersectionId := d 0
    direction := d 1
    carCount := d 2 }

/-- `ped_msg_t` -/
structure PedMsg where
  intersectionId : UInt8
  direction : UInt8
  pressed : UInt8
  deriving DecidableEq

def PedMsg.ofData (d : Data) : PedMsg :=
  { intersectionId := d 0
    direction := d 1
    pressed := d 2 }

end TrafficLight.Protocol
