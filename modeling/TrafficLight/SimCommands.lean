import TrafficLight.Decimal
import TrafficLight.RailSimulator
import TrafficLight.Runs

/-!
The command interface of the simulator. `requestOf` reads a command string the
way `command_locked` does, test by test; `perform` does what was asked. A run
of the simulator is a list of ticks and commands.
-/

namespace TrafficLight.SimCommands

open TrafficLight.Runs
open TrafficLight.Protocol
open TrafficLight.CrossingMachine
open TrafficLight.Slots
open TrafficLight.RailSimulator
open TrafficLight.Decimal

/-- `isspace` in the C locale. -/
def isSpace (c : UInt8) : Bool := c = 32 ∨ (9 ≤ c ∧ c ≤ 13)

/-- The rest of a text that starts with the given word, as tested by `strncmp`. -/
def afterWord (word text : List UInt8) : Option (List UInt8) :=
  if word.isPrefixOf text then some (text.drop word.length) else none

/-- One `%15s` of `sscanf`: the word and the text after it. -/
def scanWord (text : List UInt8) : Option (List UInt8 × List UInt8) :=
  let text := text.dropWhile isSpace
  let word := (text.takeWhile fun c => ! isSpace c).take 15
  if word = [] then none else some (word, text.drop word.length)

/-- `sscanf(text, "%15s %15s", arg1, arg2) == 2` -/
def scanTwo (text : List UInt8) : Option (List UInt8 × List UInt8) :=
  match scanWord text with
  | some (arg1, rest) =>
      match scanWord rest with
      | some (arg2, _) => some (arg1, arg2)
      | none => none
  | none => none

/-- The leading digits of a text, as a number. -/
def readDigits (value : Int) : List UInt8 → Int
  | [] => value
  | c :: text =>
      if isDigit c then readDigits (value * 10 + (c.toNat - 48)) text else value

/-- `atoi` -/
def atoi (text : List UInt8) : Int :=
  match text.dropWhile isSpace with
  | 45 :: digits => - readDigits 0 digits
  | 43 :: digits => readDigits 0 digits
  | digits => readDigits 0 digits

/-- The crossing number a digit stands for. -/
def digitId : List UInt8 → Option UInt8
  | c :: _ => if 49 ≤ c ∧ c ≤ 51 then some (c - 48) else none
  | [] => none

/-- `parse_crossing_id`, with -1 as no number. -/
def parseCrossingId : List UInt8 → Option UInt8
  | 80 :: text | 112 :: text => digitId text
  | text => digitId text

/-- What a command string asks for. -/
inductive SimRequest
  | empty
  | trainBoth
  | trainLine (dir : TrackDirection)
  | trainAt (arg1 : List UInt8) (dir : TrackDirection) (noExit : Bool)
  | faultNumbered (id : UInt8)
  | fault (id : Option UInt8)
  | reset (id : Option UInt8)
  | scale (n : Int)
  | status
  | help
  | unknown (cmd : List UInt8)
  deriving DecidableEq

def directionOf (arg2 : List UInt8) : TrackDirection :=
  if arg2 = ascii ['d', 'o', 'w', 'n'] ∨ arg2 = ascii ['D', 'O', 'W', 'N'] then .down else .up

/-- The two commands with a crossing and a direction; without both arguments
the command falls through to the later tests. -/
def trainRequest (word : List UInt8) (noExit : Bool) (cmd : List UInt8) : Option SimRequest :=
  match afterWord word cmd with
  | some rest =>
      match scanTwo rest with
      | some (arg1, arg2) => some (.trainAt arg1 (directionOf arg2) noExit)
      | none => none
  | none => none

/-- `p#-fault` -/
def numberedFault : List UInt8 → Option SimRequest
  | p :: c :: rest =>
      if (p = 112 ∨ p = 80) ∧ 49 ≤ c ∧ c ≤ 51 ∧
          rest = ascii ['-', 'f', 'a', 'u', 'l', 't'] then
        some (.faultNumbered (c - 48))
      else none
  | _ => none

/-- The tests from `p#-fault` on. -/
def laterRequest (cmd : List UInt8) : SimRequest :=
  match numberedFault cmd with
  | some request => request
  | none =>
      match afterWord (ascii ['f', 'a', 'u', 'l', 't', ' ']) cmd with
      | some rest => .fault (parseCrossingId rest)
      | none =>
          match afterWord (ascii ['r', 'e', 's', 'e', 't', ' ']) cmd with
          | some rest => .reset (parseCrossingId rest)
          | none =>
              match afterWord (ascii ['s', 'c', 'a', 'l', 'e', ' ']) cmd with
              | some rest => .scale (atoi rest)
              | none =>
                  if cmd = ascii ['s', 't', 'a', 't', 'u', 's'] then .status
                  else if cmd = ascii ['h', 'e', 'l', 'p'] then .help
                  else .unknown cmd

/-- The tests of `command_locked` in their order. -/
def requestOf (cmd : List UInt8) : SimRequest :=
  let cmd := cmd.dropWhile isSpace
  if cmd = [] then .empty
  else if cmd = ascii ['t', 'r', 'a', 'i', 'n', '-', 'b', 'o', 't', 'h'] then .trainBoth
  else if cmd = ascii ['t', 'r', 'a', 'i', 'n', '-', 'u', 'p'] then .trainLine .up
  else if cmd = ascii ['t', 'r', 'a', 'i', 'n', '-', 'd', 'o', 'w', 'n'] then .trainLine .down
  else
    match trainRequest (ascii ['t', 'r', 'a', 'i', 'n', ' ']) false cmd with
    | some request => request
    | none =>
        match trainRequest (ascii ['n', 'o', 'e', 'x', 'i', 't', ' ']) true cmd with
        | some request => request
        | none => laterRequest cmd

/-- The replies of `command_locked`. -/
inductive SimReply
  | emptyCommand
  | busy (name : String) (dir : TrackDirection)
  | queueFull
  | bothStarted
  | lineStarted (dir : TrackDirection)
  | invalidArgument (arg1 : List UInt8)
  | trainStarted (name : String) (dir : TrackDirection) (noExit : Bool)
  | faultInjected (id : UInt8)
  | crossingNotFound
  | invalidCrossing
  | resetDone (id : UInt8)
  | scaleSet (n : Int)
  | scaleRange
  | status (sim : RailSim)
  | help
  | unknownCommand (cmd : List UInt8)

def asciiString (text : List UInt8) : String :=
  String.ofList (text.map fun c => Char.ofNat c.toNat)

def dirName : TrackDirection → String
  | .up => "UP"
  | .down => "DOWN"

/-- The reply as printed, before it is cut to the length of the buffer. -/
def SimReply.text : SimReply → String
  | .emptyCommand => "ERROR: Empty command"
  | .busy name dir => "BUSY: Train already running on " ++ name ++ " " ++ dirName dir ++ " track"
  | .queueFull => "BUSY: Simulation event queue full"
  | .bothStarted => "OK: Train UP (P3->P2->P1) and DOWN (P1->P2->P3) started"
  | .lineStarted .up => "OK: Train UP (W->E) P3->P2->P1 started"
  | .lineStarted .down => "OK: Train DOWN (E->W) P1->P2->P3 started"
  | .invalidArgument arg1 => "ERROR: Invalid crossing '" ++ asciiString arg1 ++ "'"
  | .trainStarted name dir noExit =>
      (if noExit then "OK: No-exit train at " else "OK: Train at ") ++ name ++ " " ++
        dirName dir ++ " started"
  | .faultInjected id => "OK: Fault injected at P" ++ toString id.toNat
  | .crossingNotFound => "ERROR: Crossing not found"
  | .invalidCrossing => "ERROR: Invalid crossing"
  | .resetDone id => "OK: Reset P" ++ toString id.toNat
  | .scaleSet n => "OK: Time scale set to x" ++ toString n
  | .scaleRange => "ERROR: Scale must be 1-100"
  | .status sim =>
      "Sim: OK, Scale: x" ++ toString sim.timeScale ++
        ", Elapsed: " ++ toString (sim.simTimeMs / 1000) ++
        "s, Train UP: " ++ (if trackPending sim .up then "RUNNING" else "IDLE") ++
        ", Train DOWN: " ++ (if trackPending sim .down then "RUNNING" else "IDLE") ++
        "\nLayout: P1-P2 " ++ toString (sim.layout.distanceSec 0) ++
        "s, P2-P3 " ++ toString (sim.layout.distanceSec 1) ++
        "s, train length " ++ toString sim.layout.trainLengthSec ++
        "s, warning " ++ toString sim.layout.warningSec ++ "s" ++
        (if sim.layout.configNotice = "" then ""
          else " (refused config values replaced by defaults)")
  | .help =>
      "Commands:\n" ++
        "  train-up       - Train W->E through P3->P2->P1\n" ++
        "  train-down     - Train E->W through P1->P2->P3\n" ++
        "  train-both     - Start train-up and train-down together\n" ++
        "                   (UP and DOWN trains can run at the same time)\n" ++
        "  train P# dir   - Single train at crossing (dir=up/down)\n" ++
        "  noexit P# dir  - Train that never exits\n" ++
        "  p#-fault       - Inject fault (e.g., p1-fault)\n" ++
        "  reset P#       - Reset fault\n" ++
        "  scale N        - Set time scale (1-100)\n" ++
        "  status         - Show simulator status\n" ++
        "  help           - Show this help"
  | .unknownCommand cmd =>
      "ERROR: Unknown command '" ++ asciiString cmd ++ "'. Type 'help' for commands."

/-- The simulator after a command, and what `rail_sim_command` returns. -/
structure SimResult where
  sim : RailSim
  ok : Bool
  reply : SimReply

/-- `find_crossing` -/
def findCrossing (sim : RailSim) (id : Option UInt8) : Option (Fin 3) :=
  id.bind fun id => (List.finRange 3).find? fun i => (sim.crossings i).id = id

def refusalReply (sim : RailSim) (dir : TrackDirection) : TrainRefusal → SimReply
  | .alreadyRunning i => .busy (sim.crossings i).name dir
  | .queueFull => .queueFull

/-- `rail_sim_set_time_scale` -/
def setTimeScale (sim : RailSim) (scale : Int) : RailSim :=
  if 1 ≤ scale ∧ scale ≤ 100 then { sim with timeScale := scale } else sim

/-- One event on the crossing with the given number. -/
def commandEvent (sim : RailSim) (id : Option UInt8) (event : CrossingEvent)
    (done missing : SimReply) : SimResult :=
  match findCrossing sim id with
  | some i => ⟨handle sim i event, true, done⟩
  | none => ⟨sim, false, missing⟩

/-- The result of a train command, unless the train cannot start. -/
def unlessRefused (sim : RailSim) (dir : TrackDirection) (refusal : Option TrainRefusal)
    (started : SimResult) : SimResult :=
  match refusal with
  | some refusal => ⟨sim, false, refusalReply sim dir refusal⟩
  | none => started

/-- `train P# dir` and `noexit P# dir` once the crossing is looked up. -/
def trainAtCrossing (sim : RailSim) (arg1 : List UInt8) (dir : TrackDirection) (noExit : Bool)
    (found : Option (Fin 3)) : SimResult :=
  match found with
  | none => ⟨sim, false, .invalidArgument arg1⟩
  | some i =>
      unlessRefused sim dir (cannotStartTrain sim (some i) dir (if noExit then 2 else 3))
        ⟨simulateTrainAtCrossing sim i dir noExit, true,
          .trainStarted (sim.crossings i).name dir noExit⟩

def perform (sim : RailSim) : SimRequest → SimResult
  | .empty => ⟨sim, false, .emptyCommand⟩
  | .trainBoth =>
      -- both tracks are checked before either train is queued
      unlessRefused sim .up (cannotStartTrain sim none .up (6 * numCrossings))
        (unlessRefused sim .down (cannotStartTrain sim none .down (6 * numCrossings))
          ⟨simulateTrainOnLine (simulateTrainOnLine sim .up) .down, true, .bothStarted⟩)
  | .trainLine dir =>
      unlessRefused sim dir (cannotStartTrain sim none dir (3 * numCrossings))
        ⟨simulateTrainOnLine sim dir, true, .lineStarted dir⟩
  | .trainAt arg1 dir noExit =>
      trainAtCrossing sim arg1 dir noExit (findCrossing sim (parseCrossingId arg1))
  | .faultNumbered id =>
      commandEvent sim (some id) .injectFault (.faultInjected id) .crossingNotFound
  | .fault id =>
      commandEvent sim id .injectFault (.faultInjected (id.getD 0)) .invalidCrossing
  | .reset id =>
      commandEvent sim id .resetFault (.resetDone (id.getD 0)) .invalidCrossing
  | .scale n =>
      if 1 ≤ n ∧ n ≤ 100 then ⟨setTimeScale sim n, true, .scaleSet n⟩
      else ⟨sim, false, .scaleRange⟩
  | .status => ⟨sim, true, .status sim⟩
  | .help => ⟨sim, true, .help⟩
  | .unknown cmd => ⟨sim, false, .unknownCommand cmd⟩

/-- `rail_sim_command` on the characters of its string. -/
def railSimCommand (sim : RailSim) (cmd : List UInt8) : SimResult :=
  perform sim (requestOf cmd)

inductive SimStep
  | tick
  | command (cmd : List UInt8)
  deriving DecidableEq

def simStep (sim : RailSim) : SimStep → RailSim
  | .tick => railSimTick sim
  | .command cmd => (railSimCommand sim cmd).sim

/-- The simulator over three crossings as `crossing_init` leaves them, with
numbers one to three in order. -/
def SimStart (sim : RailSim) : Prop :=
  ∃ (names : Fin 3 → String) (locals : Fin 3 → UInt8 × UInt8) (timeScale : Int)
      (layout : Layout),
    sim = railSimInit
      (fun i => crossingInit (UInt8.ofNat (i + 1)) (names i) (locals i).1 (locals i).2)
      timeScale layout

/-- The simulator as the train controller starts it. -/
def trainControllerStart : RailSim :=
  railSimInit
    (fun i => crossingInit (UInt8.ofNat (i + 1)) (["P1", "P2", "P3"].getD i "")
      (UInt8.ofNat (2 * i + 1)) (UInt8.ofNat (2 * i + 2)))
    10 (applyConfig ⟨3, 3, 7, 10⟩)

theorem simStart_trainController : SimStart trainControllerStart :=
  ⟨_, fun i => (UInt8.ofNat (2 * i + 1), UInt8.ofNat (2 * i + 2)), _, _, rfl⟩

end TrafficLight.SimCommands
