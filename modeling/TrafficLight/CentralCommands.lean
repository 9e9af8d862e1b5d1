import Mathlib.Data.List.Basic
import TrafficLight.Decimal
import TrafficLight.Protocol

/-!
Commands as Central builds them, from `commands.c`: the id and the target of a
mode, coordination or SIM1 message, and the SIM1 text that travels in a test
message.
-/

namespace TrafficLight.CentralCommands

open TrafficLight.Protocol
open TrafficLight.Decimal

def coordinationMaxCycleSec : Nat := 64

/-- `central_sim_action_t` -/
inductive CentralSimAction
  | start
  | stop
  | time
  deriving DecidableEq, Repr

/-- `central_sim_command_t` -/
structure CentralSimCommand where
  target : Nat
  commandId : UInt16
  action : CentralSimAction
  minute : Nat
  deriving DecidableEq

def parseNumber (text : List UInt8) (minimum maximum : Nat) : Option Nat :=
  if text = [] then none
  else (readBounded maximum 0 text).filter fun value => ¬ value < minimum

/-- The text that `simulation_encode` prints. -/
def simulationText (command : CentralSimCommand) : List UInt8 :=
  let start := ascii ['S', 'I', 'M', '1', ' '] ++ decimal command.target ++ ascii [' '] ++
    decimal command.commandId.toNat ++ ascii [' ']
  match command.action with
  | .time => start ++ ascii ['T', 'I', 'M', 'E', ' '] ++ decimal command.minute
  | .start => start ++ ascii ['S', 'T', 'A', 'R', 'T']
  | .stop => start ++ ascii ['S', 'T', 'O', 'P']

def simulationEncode (message : TestMessage) (command : CentralSimCommand) : TestMessage :=
  { message with data := dataOfBytes (simulationText command) }

/-- A token is ended by each single space. -/
def splitSpaces : List UInt8 → List (List UInt8)
  | [] => [[]]
  | c :: text =>
      if c = 32 then [] :: splitSpaces text
      else
        match splitSpaces text with
        | [] => [[c]]
        | token :: tokens => (c :: token) :: tokens

/-- The fields of a SIM1 text that has been split into tokens. -/
def simulationFields (tokens : List (List UInt8)) : Option CentralSimCommand :=
  match tokens with
  | magic :: targetText :: idText :: actionText :: more =>
      if magic ≠ ascii ['S', 'I', 'M', '1'] then none
      else do
        let target ← parseNumber targetText 0 intersectionAll.toNat
        if target ≥ numIntersections ∧ target ≠ intersectionAll.toNat then none
        let id ← parseNumber idText 0 65535
        let commandId := UInt16.ofNat id
        match more with
        | [] =>
            if actionText = ascii ['S', 'T', 'A', 'R', 'T'] then
              some { target, commandId, action := .start, minute := 0 }
            else if actionText = ascii ['S', 'T', 'O', 'P'] then
              some { target, commandId, action := .stop, minute := 0 }
            else none
        | [minuteText] =>
            if actionText = ascii ['T', 'I', 'M', 'E'] then
              (parseNumber minuteText 0 1439).map fun minute =>
                { target, commandId, action := .time, minute }
            else none
        | _ => none
  | _ => none

def centralSimulationDecode (message : TestMessage) : Option CentralSimCommand :=
  if message.header.type ≠ msgTest ∨ message.header.src ≠ controllerCentral ∨
      message.header.dst ≠ controllerLocal ∨ message.header.reserved ≠ 0 ∨
      terminated message.header.timestamp = false then none
  else
    let bytes := List.ofFn message.data
    let text := bytes.takeWhile (· ≠ 0)
    let rest := bytes.dropWhile (· ≠ 0)
    if rest = [] ∨ rest.any (· ≠ 0) then none
    else
      let tokens := splitSpaces text
      if tokens.length > 5 then none
      else
        -- only the canonical spelling of a command is accepted
        (simulationFields tokens).filter fun command =>
          dataOfBytes (simulationText command) = message.data

def centralCommandId (message : TestMessage) : UInt16 :=
  if message.header.type = msgModeCommand then (ModeCmdMsg.ofData message.data).commandId
  else if message.header.type = msgCoordinationCommand then
    (CoordinationCommandMsg.ofData message.data).commandId
  else
    match centralSimulationDecode message with
    | some simulation => simulation.commandId
    | none => 0

def centralCommandTarget (message : TestMessage) : Nat :=
  if message.header.type = msgModeCommand then
    (ModeCmdMsg.ofData message.data).intersectionId.toNat
  else if message.header.type = msgCoordinationCommand then
    (CoordinationCommandMsg.ofData message.data).intersectionId.toNat
  else
    match centralSimulationDecode message with
    | some simulation => simulation.target
    | none => numIntersections

def centralCommandSetId (message : TestMessage) (id : UInt16) : TestMessage :=
  if message.header.type = msgModeCommand then
    let command := { ModeCmdMsg.ofData message.data with commandId := id }
    { message with data := overwrite message.data command.toBytes }
  else if message.header.type = msgCoordinationCommand then
    let command := { CoordinationCommandMsg.ofData message.data with commandId := id }
    { message with data := overwrite message.data command.toBytes }
  else
    match centralSimulationDecode message with
    | some simulation => simulationEncode message { simulation with commandId := id }
    | none => message

def centralCommandSetTarget (message : TestMessage) (target : Nat) : TestMessage :=
  if target ≥ numIntersections ∧ target ≠ intersectionAll.toNat then message
  else if message.header.type = msgModeCommand then
    let command :=
      { ModeCmdMsg.ofData message.data with intersectionId := UInt8.ofNat target }
    { message with data := overwrite message.data command.toBytes }
  else if message.header.type = msgCoordinationCommand then
    let command :=
      { CoordinationCommandMsg.ofData message.data with intersectionId := UInt8.ofNat target }
    { message with data := overwrite message.data command.toBytes }
  else
    match centralSimulationDecode message with
    | some simulation => simulationEncode message { simulation with target }
    | none => message

theorem data_of_centralSimulationDecode {message : TestMessage} {command : CentralSimCommand}
    (h : centralSimulationDecode message = some command) :
    message.data = dataOfBytes (simulationText command) := by
  unfold centralSimulationDecode at h
  split at h
  · cases h
  · dsimp only at h
    split at h
    · cases h
    · split at h
      · cases h
      · have hcanonical := (Option.filter_eq_some_iff.mp h).2
        exact (of_decide_eq_true hcanonical).symm

end TrafficLight.CentralCommands
