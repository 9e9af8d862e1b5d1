import TrafficLight.LocalTraffic
import TrafficLight.Decimal

/-!
The messages and console inputs of a Local, from `local_ipc.c` and
`local_commands.c`, in the default build with demo commands and traffic
simulation. Every handler returns the new state and the reply.
-/

namespace TrafficLight.LocalMessages

open TrafficLight.Decimal
open TrafficLight.Protocol
open TrafficLight.LocalData
open TrafficLight.LocalTraffic

/-- The effect of a SIM1 command. -/
inductive SimAction
  | start
  | stop
  | time (minute : Nat)
  deriving DecidableEq

structure SimCommand where
  target : Nat
  commandId : Nat
  action : SimAction
  deriving DecidableEq

/-- `parse_sim_number`. Its digit loop is `readBounded`. -/
def parseSimNumber (maximum : Nat) (text : List UInt8) : Option Nat :=
  match text with
  | [] => none
  | c :: rest =>
      if c = 48 ∧ rest ≠ [] then none else readBounded maximum 0 text

/-- The text up to the first NUL, if there is one. -/
def simText (data : Data) : Option (List UInt8) :=
  let bytes := List.ofFn data
  if bytes.all (· ≠ 0) then none else some (bytes.takeWhile (· ≠ 0))

/-- At most `slots` tokens, each followed by one space or the end. -/
def simTokens : Nat → List UInt8 → Option (List (List UInt8))
  | _, [] => some []
  | 0, _ :: _ => none
  | slots + 1, text =>
      let token := text.takeWhile (· ≠ 32)
      match text.dropWhile (· ≠ 32) with
      | [] => some [token]
      | _ :: rest =>
          if rest = [] ∨ rest.head? = some 32 then none
          else (simTokens slots rest).map (token :: ·)

def parseSimCommand (data : Data) : Option SimCommand := do
  let text ← simText data
  let tokens ← simTokens 5 text
  match tokens with
  | magic :: targetText :: idText :: actionText :: more =>
      if magic ≠ ascii ['S', 'I', 'M', '1'] then none
      else
        let target ← parseSimNumber (numIntersections - 1) targetText
        let commandId ← parseSimNumber 65535 idText
        if commandId = 0 then none
        else
          match more with
          | [] =>
              if actionText = ascii ['S', 'T', 'A', 'R', 'T'] then
                some { target, commandId, action := .start }
              else if actionText = ascii ['S', 'T', 'O', 'P'] then
                some { target, commandId, action := .stop }
              else none
          | [minuteText] =>
              if actionText = ascii ['T', 'I', 'M', 'E'] then
                (parseSimNumber 1439 minuteText).map fun minute =>
                  { target, commandId, action := .time minute }
              else none
          | _ => none
  | _ => none

def replyStatus (accepted : Bool) : Int := if accepted then 0 else -1

/-- A recognised command is recorded by its number. -/
def applied (s : LocalState) (commandId : UInt16) : LocalState :=
  markStatusDirtyLocked { s with lastAppliedCommandId := commandId }

def simActionLocked (s : LocalState) (action : SimAction) (draws : Draws) : LocalState :=
  match action with
  | .start =>
      { s with
        simRunning := true
        nextCarInSeconds := randomCarGapSeconds s draws
        nextTrainInSeconds := randomTrainGapSeconds s draws
        nextTrainDirection := randomTrainDirection draws }
  | .stop => { s with simRunning := false }
  | .time minute => setSimMinuteLocked s minute draws

def handleSimulationMessage (s : LocalState) (msg : TestMessage) (reply : Reply)
    (draws : Draws) : LocalState × Reply :=
  match parseSimCommand msg.data with
  | none => (s, { reply with status := -1 })
  | some command =>
      let commandId := UInt16.ofNat command.commandId
      let reply := { reply with commandId }
      if msg.header.src = controllerCentral ∧ msg.header.dst = controllerLocal ∧
          targetMatchesLocal s (UInt8.ofNat command.target) then
        (applied (simActionLocked s command.action draws) commandId,
          { reply with status := replyStatus true })
      else (s, { reply with status := replyStatus false })

/-- Only the display timestamps are touched. -/
def handleTestMessage (s : LocalState) (_msg : TestMessage) (reply : Reply) :
    LocalState × Reply :=
  (s, { reply with status := 0 })

def trafficModeOfByte : UInt8 → TrafficLightMode
  | 0 => .fixed
  | 1 => .sensor
  | 2 => .railway
  | _ => .failsafe

/-- The state after a mode command that passed the common checks, if one of
the actions takes it. -/
def modeActionLocked (s : LocalState) (command : ModeCmdMsg) : Option LocalState :=
  if command.action = cmdSetMode ∧ command.durationSec = 0 then
    some <| clearFaultLocked
      { s with
        trafficMode := trafficModeOfByte command.newMode
        manualModeOverride := true
        tempModeRemaining := 0 }
  else if command.action = cmdTemporary ∧ command.durationSec > 0 then
    let s :=
      if s.tempModeRemaining ≤ 0 then
        { s with
          tempReturnMode := s.trafficMode
          tempReturnManualOverride := s.manualModeOverride }
      else s
    some <| clearFaultLocked
      { s with
        trafficMode := trafficModeOfByte command.newMode
        manualModeOverride := true
        tempModeRemaining := command.durationSec.toNat }
  else if command.action = cmdRevert ∧ command.durationSec = 0 then
    let s :=
      if s.tempModeRemaining > 0 then
        { s with
          trafficMode := s.tempReturnMode
          manualModeOverride := s.tempReturnManualOverride
          tempModeRemaining := 0 }
      else s
    some <|
      if s.trafficMode = .failsafe then clearFaultLocked { s with trafficMode := .fixed }
      else s
  else none

def modeCommandValid (s : LocalState) (msg : TestMessage) (command : ModeCmdMsg) : Bool :=
  msg.header.src = controllerCentral ∧ targetMatchesLocal s command.intersectionId ∧
    command.commandId ≠ 0 ∧ command.newMode ≤ TrafficLightMode.sensor.toByte ∧
    command.priority ≥ cmdPrioSchedule ∧ command.priority ≤ cmdPrioOperator ∧
    command.action ≤ cmdRevert

def handleModeCommand (s : LocalState) (msg : TestMessage) (reply : Reply) :
    LocalState × Reply :=
  let command := ModeCmdMsg.ofData msg.data
  let reply := { reply with commandId := command.commandId }
  if modeCommandValid s msg command then
    match modeActionLocked s command with
    | some s => (applied s command.commandId, { reply with status := replyStatus true })
    | none => (s, { reply with status := replyStatus false })
  else (s, { reply with status := replyStatus false })

def phaseOfByte : UInt8 → Phase
  | 0 => .nsGreen
  | 1 => .nsYellow
  | 2 => .ewGreen
  | 3 => .ewYellow
  | _ => .railwayHold

def coordinationCommandValid (s : LocalState) (msg : TestMessage)
    (command : CoordinationCommandMsg) : Bool :=
  msg.header.src = controllerCentral ∧ targetMatchesLocal s command.intersectionId ∧
    command.commandId ≠ 0 ∧ command.mode = TrafficLightMode.fixed.toByte ∧
    command.reserved = 0 ∧
    (command.cycleOffsetSec.toNat : Int) < localFixedCycleSecondsLocked s ∧
    (command.phase = Phase.nsGreen.toByte ∨ command.phase = Phase.ewGreen.toByte)

/-- Even the same phase may request a different offset. -/
def handleCoordinationCommand (s : LocalState) (msg : TestMessage) (reply : Reply) :
    LocalState × Reply :=
  let command := CoordinationCommandMsg.ofData msg.data
  let reply := { reply with commandId := command.commandId }
  if coordinationCommandValid s msg command then
    let s := clearFaultLocked
      { s with
        trafficMode := .fixed
        manualModeOverride := true
        coordinationPhase := phaseOfByte command.phase
        coordinationOffsetSec := command.cycleOffsetSec.toNat
        coordinationPending := true }
    (applied s command.commandId, { reply with status := replyStatus true })
  else (s, { reply with status := replyStatus false })

def directionOfByte : UInt8 → Direction
  | 0 => .ns
  | _ => .ew

def handleSensorUpdate (s : LocalState) (msg : TestMessage) (reply : Reply) :
    LocalState × Reply :=
  let sensor := SensorMsg.ofData msg.data
  if targetMatchesLocal s sensor.intersectionId ∧ sensor.direction ≤ Direction.ew.toByte ∧
      (sensor.carCount.toNat : Int) ≤ maxSensorCars then
    let s := { s with manualSensorOverride := true }
    let s :=
      if directionOfByte sensor.direction = .ns then
        { s with sensorNsCount := sensor.carCount.toNat }
      else { s with sensorEwCount := sensor.carCount.toNat }
    (markStatusDirtyLocked s, { reply with status := replyStatus true })
  else (s, { reply with status := replyStatus false })

def handlePedRequest (s : LocalState) (msg : TestMessage) (reply : Reply) :
    LocalState × Reply :=
  let ped := PedMsg.ofData msg.data
  if targetMatchesLocal s ped.intersectionId ∧ ped.direction ≤ Direction.ew.toByte ∧
      ped.pressed ≠ 0 then
    (addPedestrianRequestLocked s (directionOfByte ped.direction),
      { reply with status := replyStatus true })
  else (s, { reply with status := replyStatus false })

def handleRailwayMessage (s : LocalState) (msg : TestMessage) (reply : Reply) :
    LocalState × Reply :=
  let railway := RailwayMsg.ofData msg.data
  if msg.header.src = controllerTrain ∧ railwayMatchesLocal s railway.intersectionId then
    if msg.header.type = msgRailwayPreempt ∧ railway.active ≠ 0 then
      (startTrainMessageLocked s (railwayDisplayLine railway.intersectionId)
        railway.etaSeconds.toNat, { reply with status := replyStatus true })
    else if msg.header.type = msgTrainClear then
      (clearTrainLocked s, { reply with status := replyStatus true })
    else (s, { reply with status := replyStatus false })
  else (s, { reply with status := replyStatus false })

/-- The handler functions of the table. -/
inductive Handler
  | simulation
  | test
  | mode
  | coordination
  | sensor
  | ped
  | railway
  deriving DecidableEq

/-- `message_handler_entry_t`; a missing sender accepts every controller. -/
structure MessageHandlerEntry where
  msgType : UInt16
  sender : Option UInt16
  handler : Handler

def handlers : List MessageHandlerEntry :=
  [⟨msgTest, some controllerCentral, .simulation⟩,
    ⟨msgTest, none, .test⟩,
    ⟨msgModeCommand, some controllerCentral, .mode⟩,
    ⟨msgCoordinationCommand, some controllerCentral, .coordination⟩,
    ⟨msgSensorUpdate, none, .sensor⟩,
    ⟨msgPedRequest, none, .ped⟩,
    ⟨msgRailwayPreempt, some controllerTrain, .railway⟩,
    ⟨msgTrainClear, some controllerTrain, .railway⟩]

def MessageHandlerEntry.accepts (entry : MessageHandlerEntry) (header : MsgHeader) : Bool :=
  entry.msgType = header.type ∧ (entry.sender = none ∨ entry.sender = some header.src)

def Handler.run (handler : Handler) (s : LocalState) (msg : TestMessage) (reply : Reply)
    (draws : Draws) : LocalState × Reply :=
  match handler with
  | .simulation => handleSimulationMessage s msg reply draws
  | .test => handleTestMessage s msg reply
  | .mode => handleModeCommand s msg reply
  | .coordination => handleCoordinationCommand s msg reply
  | .sensor => handleSensorUpdate s msg reply
  | .ped => handlePedRequest s msg reply
  | .railway => handleRailwayMessage s msg reply

/-- The new state, the reply and the return value. -/
def localDispatchMessage (s : LocalState) (msg : TestMessage) (draws : Draws) :
    LocalState × Reply × Int :=
  let reply : Reply := { status := 0, commandId := 0 }
  if msg.header.dst ≠ controllerLocal then (s, reply, -1)
  else if msg.header.type = msgHeartbeat then (s, reply, 0)
  else
    match handlers.find? (·.accepts msg.header) with
    | some entry =>
        let (s, reply) := entry.handler.run s msg reply draws
        (s, reply, 0)
    | none => (s, reply, -1)

/-- A command is a single key. -/
def validInput : List Char → Bool
  | [key] => key ∈ ['m', 'n', 'e', 'x', 'z', '1', '2', 'c', 'r'] ∨ key ∈ ['p', 'o', 'l']
  | _ => false

/-- The switch over the key of a valid input. -/
def executeKey (s : LocalState) (key : Char) (draws : Draws) : LocalState :=
  match key with
  | 'm' =>
      { s with
        manualModeOverride := true
        trafficMode := if s.trafficMode = .fixed then .sensor else .fixed }
  | 'n' => addPedestrianRequestLocked s .ns
  | 'e' => addPedestrianRequestLocked s .ew
  | 'x' => toggleSensorLocked s .ns
  | 'z' => toggleSensorLocked s .ew
  | '1' => startTrainLocked s 1
  | '2' => startTrainLocked s 2
  | 'c' => clearTrainLocked s
  | 'r' => resetDemoInputsLocked s draws
  | 'p' => setSimHourLocked s 7 draws
  | 'o' => setSimHourLocked s 12 draws
  | 'l' => setSimHourLocked s 22 draws
  | _ => s

/-- The new state and the return value. -/
def executeCommand (s : LocalState) (command : List Char) (draws : Draws) :
    LocalState × Int :=
  if validInput command then
    (markStatusDirtyLocked (executeKey s (command.headD ' ') draws), 0)
  else (s, -1)

end TrafficLight.LocalMessages
