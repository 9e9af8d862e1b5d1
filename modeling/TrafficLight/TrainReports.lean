import TrafficLight.CrossingCalls
import TrafficLight.Telemetry

/-!
The reports of the train controller, from `train_controller.c`: the railway
status of a crossing and the fault alert, each sent as a compact frame with the
crossings numbered from one.
-/

namespace TrafficLight.TrainReports

open TrafficLight.Protocol
open TrafficLight.CrossingMachine
open TrafficLight.Telemetry
open TrafficLight.Decimal

/-- The wire number of a track state is that of the train state. -/
def trackByte : TrackState → UInt8
  | .none => 0
  | .approaching => 1
  | .onCrossing => 2
  | .cleared => 3

def cxFaultStr : CxFault → String
  | .none => "NONE"
  | .gateCloseTimeout => "GATE_CLOSE_TIMEOUT"
  | .gateOpenTimeout => "GATE_OPEN_TIMEOUT"
  | .gateUnexpected => "GATE_UNEXPECTED"
  | .trainTimeout => "TRAIN_TIMEOUT"
  | .trainEarly => "TRAIN_EARLY"
  | .injected => "INJECTED"

/-- The train state of both tracks together. -/
def trainState (cx : Crossing) : TrackState :=
  if cx.track .up = .onCrossing ∨ cx.track .down = .onCrossing then .onCrossing
  else if cx.track .up = .approaching ∨ cx.track .down = .approaching then .approaching
  else if cx.track .up = .cleared ∨ cx.track .down = .cleared then .cleared
  else .none

/-- The payload of `send_railway_status` for one crossing. -/
def railwayStatusOf (cx : Crossing) : RailwayStatusMsg :=
  { crossingId := cx.id
    trainState := trackByte (trainState cx)
    gateState := cx.gate.toByte
    fault := if cx.fault ≠ .none then FaultType.gate.toByte else FaultType.none.toByte
    trackStates := 1
    upState := trackByte (cx.track .up)
    downState := trackByte (cx.track .down)
    reserved := 0 }

/-- The payload of `cx_fault_alert`. -/
def faultAlertOf (cx : Crossing) (fault : CxFault) : FaultMsg :=
  { sourceId := cx.id
    faultType := FaultType.gate.toByte
    severity := FaultSeverity.critical.toByte
    reserved := 0
    description := descriptionOf
      (ascii cx.name.toList ++ ascii [':', ' '] ++ ascii (cxFaultStr fault).toList) }

/-- A compact frame of the train controller to Central. -/
def compactFrame (type : UInt16) (payload : List UInt8) (timestamp : Fin 32 → UInt8) :
    List UInt8 :=
  headerBytes
    { type, src := controllerTrain, dst := controllerCentral, reserved := 0, timestamp } ++
    payload

theorem trackByte_le (t : TrackState) : trackByte t ≤ trainClear := by
  cases t <;> decide

theorem gateByte_le (gate : GateState) : gate.toByte ≤ gateFault := by
  cases gate <;> decide

end TrafficLight.TrainReports
