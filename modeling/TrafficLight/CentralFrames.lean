import Mathlib.Logic.Function.Basic
import TrafficLight.CentralCommands
import TrafficLight.Telemetry

/-!
The wire side of Central, from `ipc.c`: which frames are well formed, how a
received frame becomes an envelope, and how a peer's reply is read.
-/

namespace TrafficLight.CentralFrames

open TrafficLight.Protocol
open TrafficLight.Telemetry
open TrafficLight.CentralCommands
open TrafficLight.Decimal

def controllerValid (controller : UInt16) : Bool :=
  controller ≥ controllerLocal ∧ controller ≤ controllerCentral

def targetValid (target : UInt8) : Bool :=
  target.toNat < numIntersections ∨ target = intersectionAll

/-- How many senders share a kind of source. -/
def senderCount (source : UInt16) : Nat :=
  if source = controllerTrain then numCrossings else numIntersections

def testValid (message : TestMessage) (destination : UInt16) : Bool :=
  if message.header.src = controllerCentral ∧ destination = controllerLocal ∧
      [message.data 0, message.data 1, message.data 2] = ascii ['S', 'I', 'M'] then
    match centralSimulationDecode message with
    | some simulation => simulation.commandId ≠ 0 ∧ simulation.target < numIntersections
    | none => false
  else decide (∃ i, message.data i = 0)

def heartbeatValid (source : UInt16) (value : HeartbeatMsg) : Bool :=
  value.senderId.toNat < senderCount source ∧ value.healthy ≤ 1

def statusValid (source destination : UInt16) (value : StatusMsg) : Bool :=
  source = controllerLocal ∧ destination = controllerCentral ∧
    value.intersectionId.toNat < numIntersections ∧ value.mode ≤ modeFailsafe ∧
    value.phase ≤ phaseRailwayHold ∧ value.nsState ≤ lightGreen ∧
    value.ewState ≤ lightGreen ∧ value.pedestrianNs ≤ 1 ∧ value.pedestrianEw ≤ 1 ∧
    value.railwayPreempt ≤ 1 ∧ value.telemetryVersion ≤ statusTelemetryVersion ∧
    value.reserved = 0 ∧ value.pedestrianNsRequest ≤ 1 ∧ value.pedestrianEwRequest ≤ 1 ∧
    value.simRunning ≤ 1 ∧ value.trainPending ≤ 1 ∧ value.trainActive ≤ 1 ∧
    value.manualModeOverride ≤ 1 ∧ value.manualSensorOverride ≤ 1 ∧
    value.coordinationPending ≤ 1 ∧ value.faultActive ≤ 1 ∧
    value.faultType ≤ faultNotWorking ∧ value.faultSeverity ≤ sevCritical ∧
    (value.telemetryVersion = 0 ∨ value.simMinuteOfDay < 24 * 60)

def railwayStatusValid (source destination : UInt16) (value : RailwayStatusMsg) : Bool :=
  source = controllerTrain ∧ destination = controllerCentral ∧
    value.crossingId.toNat < numCrossings ∧ value.trainState ≤ trainClear ∧
    value.gateState ≤ gateFault ∧ value.fault ≤ faultNotWorking ∧ value.trackStates ≤ 1 ∧
    value.upState ≤ trainClear ∧ value.downState ≤ trainClear ∧ value.reserved = 0

def faultValid (source destination : UInt16) (value : FaultMsg) : Bool :=
  (source = controllerLocal ∨ source = controllerTrain) ∧ destination = controllerCentral ∧
    value.sourceId.toNat < senderCount source ∧ value.faultType ≤ faultNotWorking ∧
    value.severity ≥ sevLow ∧ value.severity ≤ sevCritical ∧ value.reserved = 0 ∧
    terminated value.description

def modeCommandFrameValid (source destination : UInt16) (value : ModeCmdMsg) : Bool :=
  source = controllerCentral ∧ destination = controllerLocal ∧
    targetValid value.intersectionId ∧ value.newMode ≤ TrafficLightMode.sensor.toByte ∧
    value.action ≤ cmdRevert ∧ value.priority ≥ cmdPrioSchedule ∧
    value.priority ≤ cmdPrioOperator ∧ value.commandId ≠ 0 ∧
    (if value.action = cmdTemporary then value.durationSec ≠ 0 else value.durationSec = 0)

def coordinationFrameValid (source destination : UInt16) (value : CoordinationCommandMsg) :
    Bool :=
  source = controllerCentral ∧ destination = controllerLocal ∧
    targetValid value.intersectionId ∧ value.mode = TrafficLightMode.fixed.toByte ∧
    (value.phase = Phase.nsGreen.toByte ∨ value.phase = Phase.ewGreen.toByte) ∧
    value.reserved = 0 ∧ value.commandId ≠ 0 ∧
    value.cycleOffsetSec.toNat < coordinationMaxCycleSec

/-- The envelope has its full size by its type. -/
def centralFrameValid (message : TestMessage) (destination : UInt16) : Bool :=
  if controllerValid destination = false ∨ controllerValid message.header.src = false ∨
      message.header.dst ≠ destination ∨ message.header.reserved ≠ 0 ∨
      terminated message.header.timestamp = false then false
  else
    let source := message.header.src
    if message.header.type = msgTest then testValid message destination
    else if message.header.type = msgHeartbeat then
      heartbeatValid source (.ofData message.data)
    else if message.header.type = msgStatusUpdate then
      statusValid source destination (.ofData message.data)
    else if message.header.type = msgRailwayStatus then
      railwayStatusValid source destination (.ofData message.data)
    else if message.header.type = msgFaultAlert then
      faultValid source destination (.ofData message.data)
    else if message.header.type = msgModeCommand then
      modeCommandFrameValid source destination (.ofData message.data)
    else if message.header.type = msgCoordinationCommand then
      coordinationFrameValid source destination (.ofData message.data)
    else false

/-- The size of a compact frame and of its payload, if the type has one. An
older Train sends a railway status without the last four bytes. -/
def compactSizes (type : UInt16) (size : Nat) : Option (Nat × Nat) :=
  if type = msgHeartbeat then some (headerSize + 4, 4)
  else if type = msgStatusUpdate then some (headerSize + 36, 36)
  else if type = msgFaultAlert then some (headerSize + 36, 36)
  else if type = msgRailwayStatus then
    if size = headerSize + 4 then some (size, 4) else some (headerSize + 8, 8)
  else none

/-- The envelope that a frame stands for. The Train numbers its crossings from
one in compact frames. -/
def frameEnvelope (frame : List UInt8) : Option TestMessage :=
  let size := frame.length
  if size = headerSize + dataSize then some (messageOfBytes frame)
  else
    let header := headerOfBytes frame
    match compactSizes header.type size with
    | none => none
    | some (expected, payloadSize) =>
        if size ≠ expected ∨ payloadSize > dataSize ∨ headerSize > size ∨
            payloadSize > size - headerSize then none
        else
          let data := dataOfBytes ((frame.drop headerSize).take payloadSize)
          if header.src = controllerTrain ∧
              (header.type = msgRailwayStatus ∨ header.type = msgFaultAlert) then
            let id := data 0
            if id < 1 ∨ id.toNat > numCrossings then none
            else some { header, data := Function.update data 0 (id - 1) }
          else some { header, data }

/-- A frame that is not understood is `none`. -/
def centralFrameNormalize (frame : List UInt8) (destination : UInt16) : Option TestMessage :=
  if frame.length < headerSize ∨ frame.length > headerSize + dataSize then none
  else (frameEnvelope frame).filter (centralFrameValid · destination)

theorem frameNormalize_of_envelope {frame : List UInt8} {message : TestMessage}
    {destination : UInt16} (hlow : headerSize ≤ frame.length)
    (hhigh : frame.length ≤ headerSize + dataSize)
    (henvelope : frameEnvelope frame = some message)
    (hvalid : centralFrameValid message destination = true) :
    centralFrameNormalize frame destination = some message := by
  unfold centralFrameNormalize
  rw [if_neg (by omega), henvelope]
  exact Option.filter_some_pos hvalid

/-- `reply_t` with its timestamp. -/
structure ReplyMsg where
  status : Int8
  timestamp : Fin 32 → UInt8
  commandId : UInt16
  deriving DecidableEq

/-- `central_send_result_t` -/
inductive SendResult
  | ok
  | transport
  | rejected
  | protocol
  deriving DecidableEq, Repr

/-- A byte that differs from the expected one and from zero. -/
def pendingByte (expected : UInt8) : UInt8 :=
  if expected = 0xa5 then 0x5a else 0xa5

/-- The buffer a reply is received into; nothing in it looks like an answer. -/
def prepareReply (request : TestMessage) : ReplyMsg :=
  let id := centralCommandId request
  { status := Int8.ofInt (-91)
    timestamp := fun _ => 0xa5
    commandId := le16 (pendingByte id.toUInt8) (pendingByte (id >>> 8).toUInt8) }

def validateReply (request : TestMessage) (reply : ReplyMsg) (kernelStatus : Int) :
    SendResult :=
  let id := centralCommandId request
  if kernelStatus ≠ 0 ∨ terminated reply.timestamp = false then .protocol
  else if reply.status = -1 then
    match centralSimulationDecode request with
    | some _ => if reply.commandId = id then .rejected else .protocol
    | none =>
        if reply.commandId = 0 ∨ reply.commandId = id then .rejected else .protocol
  else if reply.status ≠ 0 ∨ reply.commandId ≠ id then .protocol
  else .ok

end TrafficLight.CentralFrames
