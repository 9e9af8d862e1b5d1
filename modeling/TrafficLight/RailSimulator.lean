import TrafficLight.CrossingMachine
import TrafficLight.Slots

/-!
The train simulator of `rail_sim.c` over its three crossings: the track layout,
the table of pending events, the gates that move, and the tick that delivers
what is due. Two fields are not in the source: `lost` counts the calls of
`queue_event_ex` that found the table full, and `delivered` records the events
passed to `crossing_handle_event`.
-/

namespace TrafficLight.RailSimulator

open TrafficLight.Protocol
open TrafficLight.CrossingMachine
open TrafficLight.Slots

def gateMoveSec : Int := 3
def distanceUnitSec : Int := 5
def distanceMinUnits : Int := 1
def distanceMaxUnits : Int := 5
def defaultDistanceUnits : Int := 2
def defaultTrainLengthSec : Int := 5
def trainWarningMarginSec : Int := 2
def trainWarningMinSec : Int := gateCloseDelaySec + gateMoveSec + trainWarningMarginSec
def trainWarningMaxSec : Int := 120
def defaultTrainWarningSec : Int := 10
def simTickMs : Int := 100
def maxPendingEvents : Nat := 64
def numTimers : Nat := 5

/-- `TIMER_EVENT_RESERVE` -/
def timerEventReserve : Nat := numCrossings * numTimers

/-- A configured value, or the fallback if it is refused. -/
def configValue (value minimum maximum fallback : Int) : Int :=
  if minimum ≤ value ∧ value ≤ maximum then value else fallback

/-- The size of `config_notice` -/
def configNoticeSize : Nat := 256

/-- What `config_value` leaves in the notice. `snprintf` cuts it at the end of the
array; all of its characters are one byte long. -/
def configNote (notice name : String) (value minimum maximum fallback : Int) : String :=
  if minimum ≤ value ∧ value ≤ maximum then notice
  else
    let noted := notice ++ (if notice = "" then "" else "; ") ++ name ++ "=" ++ toString value ++
      " refused (allowed " ++ toString minimum ++ "-" ++ toString maximum ++
      "), using default " ++ toString fallback
    String.ofList (noted.toList.take (configNoticeSize - 1))

theorem configValue_bounds {value minimum maximum fallback : Int} (h : minimum ≤ fallback)
    (h' : fallback ≤ maximum) :
    minimum ≤ configValue value minimum maximum fallback ∧
      configValue value minimum maximum fallback ≤ maximum := by
  unfold configValue
  split
  · assumption
  · exact ⟨h, h'⟩

/-- The compile-time track settings. -/
structure TrackConfig where
  distanceP1P2Units : Int
  distanceP2P3Units : Int
  trainLengthSec : Int
  trainWarningSec : Int

instance neZeroSections : NeZero 2 := ⟨by decide⟩

/-- The track layout in use. -/
structure Layout where
  distanceSec : Fin 2 → Int
  trainLengthSec : Int
  warningSec : Int
  configNotice : String
  distance_units : ∀ k, ∃ units, distanceMinUnits ≤ units ∧ units ≤ distanceMaxUnits ∧
    distanceSec k = distanceUnitSec * units
  trainLength_bounds : 1 ≤ trainLengthSec ∧ trainLengthSec ≤ trainTimeoutSec - 1
  warning_bounds : trainWarningMinSec ≤ warningSec ∧ warningSec ≤ trainWarningMaxSec

/-- `apply_config_locked` -/
def applyConfig (config : TrackConfig) : Layout :=
  let units := fun k : Fin 2 =>
    configValue (if k = 0 then config.distanceP1P2Units else config.distanceP2P3Units)
      distanceMinUnits distanceMaxUnits defaultDistanceUnits
  { distanceSec := fun k => distanceUnitSec * units k
    trainLengthSec := configValue config.trainLengthSec 1 (trainTimeoutSec - 1)
      defaultTrainLengthSec
    warningSec := configValue config.trainWarningSec trainWarningMinSec trainWarningMaxSec
      defaultTrainWarningSec
    configNotice :=
      let notice := configNote "" "DISTANCE_P1_P2_UNITS" config.distanceP1P2Units
        distanceMinUnits distanceMaxUnits defaultDistanceUnits
      let notice := configNote notice "DISTANCE_P2_P3_UNITS" config.distanceP2P3Units
        distanceMinUnits distanceMaxUnits defaultDistanceUnits
      let notice := configNote notice "TRAIN_LENGTH_SEC" config.trainLengthSec
        1 (trainTimeoutSec - 1) defaultTrainLengthSec
      configNote notice "TRAIN_WARNING_SEC" config.trainWarningSec
        trainWarningMinSec trainWarningMaxSec defaultTrainWarningSec
    distance_units := by
      intro k
      have hbounds : distanceMinUnits ≤ units k ∧ units k ≤ distanceMaxUnits :=
        configValue_bounds (by decide) (by decide)
      exact ⟨units k, hbounds.1, hbounds.2, rfl⟩
    trainLength_bounds := configValue_bounds (by decide) (by decide)
    warning_bounds := configValue_bounds (by decide) (by decide) }

/-- `sim_event_t` of an active slot. The crossing is the index in the array;
direction, timer id and generation are part of the event. -/
structure SimEvent where
  deliverAtMs : Int
  crossing : Fin 3
  event : CrossingEvent
  deriving DecidableEq

/-- A call of `crossing_handle_event`, with the crossing it found. -/
structure Delivered where
  crossing : Fin 3
  event : CrossingEvent
  before : Crossing

/-- The simulator after `rail_sim_init`. A gate that does not move has no
completion time, which the source writes as -1. -/
structure RailSim where
  crossings : Fin 3 → Crossing
  timeScale : Int
  events : Table maxPendingEvents SimEvent
  gates : Fin 3 → Option Int
  simTimeMs : Int
  layout : Layout
  lost : Nat
  delivered : List Delivered

def secToSimMs (seconds : Int) : Int := seconds * 1000

/-- `rail_sim_init` -/
def railSimInit (crossings : Fin 3 → Crossing) (timeScale : Int) (layout : Layout) : RailSim :=
  { crossings
    timeScale := if 0 < timeScale then timeScale else 1
    events := vacant
    gates := fun _ => none
    simTimeMs := 0
    layout
    lost := 0
    delivered := [] }

/-- `queue_event_ex`; every caller ignores its result. -/
def queueEvent (sim : RailSim) (i : Fin 3) (event : CrossingEvent) (delaySec : Int) : RailSim :=
  match push sim.events ⟨sim.simTimeMs + secToSimMs delaySec, i, event⟩ with
  | some events => { sim with events }
  | none => { sim with lost := sim.lost + 1 }

/-- The gate of a crossing number. -/
def gateIndex (id : UInt8) : Option (Fin 3) :=
  if h : 1 ≤ id.toNat ∧ id.toNat ≤ 3 then some ⟨id.toNat - 1, by omega⟩ else none

def railSimGateCommand (sim : RailSim) (cx : Crossing) : RailSim :=
  match gateIndex cx.id with
  | some i =>
      { sim with
        gates := Function.update sim.gates i (some (sim.simTimeMs + secToSimMs gateMoveSec)) }
  | none => sim

def railSimStartTimer (sim : RailSim) (i : Fin 3) (cx : Crossing) (id : TimerId)
    (seconds : Int) : RailSim :=
  queueEvent sim i (.timer id (cx.timerGen id)) seconds

/-- The timer an event belongs to. -/
def timerOf (ev : SimEvent) : Option (Fin 3 × TimerId) :=
  match ev.event with
  | .timer id _ => some (ev.crossing, id)
  | _ => none

def railSimCancelTimer (sim : RailSim) (i : Fin 3) (id : TimerId) : RailSim :=
  { sim with events := remove (fun ev => timerOf ev = some (i, id)) sim.events }

/-- The callbacks that reach the simulator. -/
def applyCall (i : Fin 3) (sim : RailSim) (call : CxCall) : RailSim :=
  match call.op with
  | .gateCommand _ => railSimGateCommand sim call.cx
  | .startTimer id seconds => railSimStartTimer sim i call.cx id seconds
  | .cancelTimer id => railSimCancelTimer sim i id
  | _ => sim

/-- `crossing_handle_event` on a crossing of the simulator. -/
def handle (sim : RailSim) (i : Fin 3) (event : CrossingEvent) : RailSim :=
  let h := crossingHandleEvent (sim.crossings i) event
  h.calls.foldl (applyCall i)
    { sim with
      crossings := Function.update sim.crossings i h.cx
      delivered := sim.delivered ++ [⟨i, event, sim.crossings i⟩] }

def advance (sim : RailSim) : RailSim :=
  { sim with simTimeMs := sim.simTimeMs + simTickMs * sim.timeScale }

/-- The gate check of `tick_locked` for one crossing. -/
def visitGate (sim : RailSim) (i : Fin 3) : RailSim :=
  match sim.gates i with
  | some due =>
      if due ≤ sim.simTimeMs then
        let sim := { sim with gates := Function.update sim.gates i none }
        match (sim.crossings i).gate with
        | .closing => handle sim i .gateClosed
        | .opening => handle sim i .gateOpened
        | _ => sim
      else sim
  | none => sim

/-- The event check of `tick_locked` for one slot. -/
def visitSlot (sim : RailSim) (k : Fin maxPendingEvents) : RailSim :=
  match sim.events k with
  | some ev =>
      if ev.deliverAtMs ≤ sim.simTimeMs then
        let sim := handle sim ev.crossing ev.event
        { sim with events := setSlot sim.events k none }
      else sim
  | none => sim

def railSimTick (sim : RailSim) : RailSim :=
  sweep visitSlot (sweep visitGate (advance sim))

/-- The track of a train event. -/
def trainDir : CrossingEvent → Option TrackDirection
  | .trainApproach dir | .trainEnter dir | .trainExit dir => some dir
  | _ => none

def trainPending (sim : RailSim) (i : Fin 3) (dir : TrackDirection) : Bool :=
  ∃ k, ∃ ev ∈ sim.events k, ev.crossing = i ∧ trainDir ev.event = some dir

def trackPending (sim : RailSim) (dir : TrackDirection) : Bool :=
  ∃ i, trainPending sim i dir

/-- Why a train cannot start. -/
inductive TrainRefusal
  | alreadyRunning (i : Fin 3)
  | queueFull
  deriving DecidableEq

/-- `can_start_train` at one crossing, or at every crossing if none is given. -/
def cannotStartTrain (sim : RailSim) (target : Option (Fin 3)) (dir : TrackDirection)
    (events : Nat) : Option TrainRefusal :=
  match (List.finRange 3).find? fun i =>
      (target = none ∨ target = some i) ∧ trainPending sim i dir with
  | some i => some (.alreadyRunning i)
  | none => if freeSlots sim.events < events + timerEventReserve then some .queueFull else none

/-- The events of a train whose front arrives after the given time. -/
def queueTrain (sim : RailSim) (i : Fin 3) (dir : TrackDirection) (arrive : Int) : RailSim :=
  let sim := queueEvent sim i (.trainApproach dir) (arrive - sim.layout.warningSec)
  let sim := queueEvent sim i (.trainEnter dir) arrive
  queueEvent sim i (.trainExit dir) (arrive + sim.layout.trainLengthSec)

/-- The crossings in the order the train reaches them, each with the travel
time from the previous one. -/
def lineStops (layout : Layout) : TrackDirection → List (Fin 3 × Int)
  | .up => [(2, 0), (1, layout.distanceSec 1), (0, layout.distanceSec 0)]
  | .down => [(0, 0), (1, layout.distanceSec 0), (2, layout.distanceSec 1)]

def simulateTrainOnLine (sim : RailSim) (dir : TrackDirection) : RailSim :=
  let visit := fun (s : RailSim × Int) (stop : Fin 3 × Int) =>
    let arrive := s.2 + stop.2
    (queueTrain s.1 stop.1 dir arrive, arrive)
  ((lineStops sim.layout dir).foldl visit (sim, sim.layout.warningSec)).1

def simulateTrainAtCrossing (sim : RailSim) (i : Fin 3) (dir : TrackDirection)
    (noExit : Bool) : RailSim :=
  let sim := queueEvent sim i (.trainApproach dir) 0
  let sim := queueEvent sim i (.trainEnter dir) sim.layout.warningSec
  if noExit then sim
  else queueEvent sim i (.trainExit dir) (sim.layout.warningSec + sim.layout.trainLengthSec)

end TrafficLight.RailSimulator
