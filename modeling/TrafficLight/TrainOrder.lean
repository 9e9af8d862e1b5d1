import TrafficLight.GateMovement

namespace TrafficLight.TrainOrder

open TrafficLight.Runs
open TrafficLight.Protocol
open TrafficLight.CrossingMachine
open TrafficLight.Slots
open TrafficLight.RailSimulator
open TrafficLight.SimCommands
open TrafficLight.Decimal
open TrafficLight.SimPending
open TrafficLight.SimTrains
open TrafficLight.TrainRows
open TrafficLight.GateMovement

/-- The train events that were delivered on a track. -/
def trainLog (sim : RailSim) (i : Fin 3) (dir : TrackDirection) : List CrossingEvent :=
  (sim.delivered.filter fun d => d.crossing = i ∧ trainDir d.event = some dir).map
    Delivered.event

/-- The events of one train. -/
def trainBlock (dir : TrackDirection) (noExit : Bool) : List CrossingEvent :=
  if noExit then [.trainApproach dir, .trainEnter dir]
  else [.trainApproach dir, .trainEnter dir, .trainExit dir]

/-- The trains accepted on each track, in order. -/
abbrev Accepted : Type := Fin 3 → TrackDirection → List Bool

def acceptTrains (sim : RailSim) (step : SimStep) (accepted : Accepted) : Accepted :=
  match step with
  | .tick => accepted
  | .command cmd =>
      if (railSimCommand sim cmd).ok then
        fun i dir => accepted i dir ++ requestTrains sim (requestOf cmd) i dir
      else accepted

/-- The simulator with the trains it accepted. -/
def trainWatch : RailSim × Accepted → SimStep → RailSim × Accepted :=
  watch simStep fun sim step _ accepted => acceptTrains sim step accepted

/-- What was delivered on a track is a beginning of the accepted trains. -/
def TrainsInOrder (s : RailSim × Accepted) : Prop :=
  ∀ i dir, trainLog s.1 i dir <+: (s.2 i dir).flatMap (trainBlock dir)

structure Ordered (accepted : Accepted) (sim : RailSim) : Prop where
  log : ∀ i dir, trainLog sim i dir ++ (trainRow sim i dir).map SimEvent.event =
    (accepted i dir).flatMap (trainBlock dir)
  sorted : ∀ i dir, (trainRow sim i dir).Pairwise fun ev ev' => ev.deliverAtMs ≤ ev'.deliverAtMs

section Tick

variable {accepted : Accepted} {sim : RailSim}

theorem Ordered.frame {sim' : RailSim} (h : Ordered accepted sim)
    (hlog : ∀ i dir, trainLog sim' i dir = trainLog sim i dir)
    (hrow : ∀ i dir, trainRow sim' i dir = trainRow sim i dir) : Ordered accepted sim' := by
  constructor
  · intro i dir
    rw [hlog, hrow]
    exact h.log i dir
  · intro i dir
    rw [hrow]
    exact h.sorted i dir

theorem trainLog_handled {sim' : RailSim} {i : Fin 3} {event : CrossingEvent} {cx : Crossing}
    (hdelivered : sim'.delivered = sim.delivered ++ [⟨i, event, cx⟩]) (i' : Fin 3)
    (dir : TrackDirection) :
    trainLog sim' i' dir = trainLog sim i' dir ++
      if i = i' ∧ trainDir event = some dir then [event] else [] := by
  rw [trainLog, hdelivered, List.filter_append, List.map_append]
  by_cases hown : i = i' ∧ trainDir event = some dir <;> simp [trainLog, hown]

theorem Ordered.handle (h : Ordered accepted sim) (i : Fin 3) {event : CrossingEvent}
    (hevent : trainDir event = none) : Ordered accepted (handle sim i event) := by
  apply h.frame
  · intro i' dir
    rw [trainLog_handled (handle_frame sim i event).2.2.2.2]
    simp [hevent]
  · exact fun i' dir => handle_row sim i i' event dir

theorem Ordered.visitGate (h : Ordered accepted sim) (i : Fin 3) :
    Ordered accepted (visitGate sim i) := by
  have htaken : Ordered accepted (gateTaken sim i) := h.frame (fun _ _ => rfl) fun _ _ => rfl
  rcases visitGate_cases sim i with ⟨-, hvisit⟩ | ⟨-, hvisit⟩ | ⟨event, hreports, hvisit⟩
  · rw [hvisit]
    exact h
  · rw [hvisit]
    exact htaken
  · rw [hvisit]
    apply htaken.handle i
    rcases hreports.kind with rfl | rfl <;> rfl

/-- The event of a slot that is due is the first of its track: what stands
before it in the table is due no later and was not due yet. -/
theorem Ordered.afterSlot {k : Fin maxPendingEvents} {ev : SimEvent} (h : Ordered accepted sim)
    (hpassed : Passed k sim) (hk : sim.events k = some ev)
    (hdue : ev.deliverAtMs ≤ sim.simTimeMs) : Ordered accepted (afterSlot sim k ev) := by
  have hdelivered : (TrainRows.afterSlot sim k ev).delivered =
      sim.delivered ++ [⟨ev.crossing, ev.event, sim.crossings ev.crossing⟩] :=
    (handle_frame sim ev.crossing ev.event).2.2.2.2
  have hboth : ∀ i dir,
      trainLog (TrainRows.afterSlot sim k ev) i dir ++
          (trainRow (TrainRows.afterSlot sim k ev) i dir).map SimEvent.event =
        (accepted i dir).flatMap (trainBlock dir) ∧
      (trainRow (TrainRows.afterSlot sim k ev) i dir).Pairwise
        fun ev ev' => ev.deliverAtMs ≤ ev'.deliverAtMs := by
    intro i dir
    have hlog := h.log i dir
    have hsorted := h.sorted i dir
    rw [trainLog_handled hdelivered]
    cases hown : isTrainAt i dir ev with
    | false =>
        have hother : ¬ (ev.crossing = i ∧ trainDir ev.event = some dir) :=
          of_decide_eq_false hown
        rw [if_neg hother, List.append_nil, trainRow_afterSlot_other hk hown]
        exact ⟨hlog, hsorted⟩
    | true =>
        obtain ⟨before, after, hrow, hrow', hbefore⟩ := trainRow_afterSlot_own hk hown
        have hfirst : before = [] := by
          rw [List.eq_nil_iff_forall_not_mem]
          intro b hb
          obtain ⟨j, hjk, hj⟩ := hbefore b hb
          have hlate := hpassed j hjk b hj
          rw [hrow, List.pairwise_append] at hsorted
          have hle := hsorted.2.2 b hb ev List.mem_cons_self
          omega
        rw [hfirst, List.nil_append] at hrow hrow'
        rw [hrow, List.map_cons] at hlog
        rw [hrow] at hsorted
        rw [if_pos (of_decide_eq_true hown), hrow', List.append_assoc]
        exact ⟨hlog, (List.pairwise_cons.mp hsorted).2⟩
  exact ⟨fun i dir => (hboth i dir).1, fun i dir => (hboth i dir).2⟩

theorem Ordered.visitSlot {k : Fin maxPendingEvents} (h : Ordered accepted sim)
    (hpassed : Passed k sim) :
    Ordered accepted (visitSlot sim k) ∧ Passed (k + 1) (visitSlot sim k) := by
  refine ⟨?_, hpassed.visitSlot⟩
  rcases visitSlot_cases sim k with ⟨-, hvisit⟩ | ⟨ev, hk, hdue, hvisit⟩
  · rw [hvisit]
    exact h
  · rw [hvisit]
    exact h.afterSlot hpassed hk hdue

theorem Ordered.tick (h : Ordered accepted sim) : Ordered accepted (railSimTick sim) := by
  have hadvance : Ordered accepted (advance sim) := h.frame (fun _ _ => rfl) fun _ _ => rfl
  have hgates : Ordered accepted (sweep RailSimulator.visitGate (advance sim)) :=
    sweep_invariant (I := Ordered accepted) (fun _ i hs => hs.visitGate i) hadvance
  exact (@sweep_upto maxPendingEvents RailSim RailSimulator.visitSlot
    (fun k s => Ordered accepted s ∧ Passed k s) (fun s k hs => hs.1.visitSlot hs.2) _
    ⟨hgates, fun _ hj => absurd hj (Nat.not_lt_zero _)⟩).1

end Tick

theorem trainEvents_event (layout : Layout) (now : Int) (i : Fin 3) (dir : TrackDirection)
    (arrive : Int) (noExit : Bool) :
    (trainEvents layout now i dir arrive noExit).map SimEvent.event = trainBlock dir noExit := by
  cases noExit <;> rfl

theorem trainEvents_sorted (layout : Layout) (now : Int) (i : Fin 3) (dir : TrackDirection)
    (arrive : Int) (noExit : Bool) :
    (trainEvents layout now i dir arrive noExit).Pairwise
      fun ev ev' => ev.deliverAtMs ≤ ev'.deliverAtMs := by
  have hlength := layout.trainLength_bounds.1
  have hwarning := layout.warning_bounds.1
  have hall : ((trainPlan layout i dir arrive).map (Planned.toEvent now)).Pairwise
      fun ev ev' => ev.deliverAtMs ≤ ev'.deliverAtMs := by
    simp only [trainWarningMinSec, gateCloseDelaySec, gateMoveSec, trainWarningMarginSec]
      at hwarning
    simp [trainPlan, Planned.toEvent, secToSimMs]
    omega
  exact hall.sublist ((List.take_sublist _ _).map _)

theorem requestTrains_nil {sim : RailSim} {request : SimRequest}
    (h : trainEventCount request = none) (i : Fin 3) (dir : TrackDirection) :
    requestTrains sim request i dir = [] := by
  cases request <;> simp_all [requestTrains, trainEventCount]

theorem Ordered.command {accepted : Accepted} {sim sim' : RailSim} {request : SimRequest}
    {ok : Bool} (h : Ordered accepted sim) (heffect : CommandEffect sim request sim' ok) :
    Ordered (if ok then fun i dir => accepted i dir ++ requestTrains sim request i dir
      else accepted) sim' := by
  have hnone : trainEventCount request = none → ∀ ok : Bool,
      (if ok then fun i dir => accepted i dir ++ requestTrains sim request i dir
        else accepted) = accepted := by
    intro hcount ok
    split
    · funext i dir
      rw [requestTrains_nil hcount, List.append_nil]
    · rfl
  cases heffect with
  | unchanged _ htrain =>
      cases hcount : trainEventCount request with
      | none =>
          rw [hnone hcount]
          exact h
      | some n =>
          rw [htrain (by simp [hcount])]
          exact h
  | @event i event hrequest =>
      obtain ⟨hevent, hcount⟩ := requestEvent_cases hrequest
      rw [hnone hcount]
      apply h.handle i
      rcases hevent with rfl | rfl <;> rfl
  | scale n hn hrequest =>
      rw [hnone (by rw [hrequest]; rfl)]
      exact h.frame (fun _ _ => rfl) fun _ _ => rfl
  | trains _ hroom hfree =>
      have hclock := sameClock_queueAll (requestPlan sim request) sim
      have hlog : ∀ i dir,
          trainLog (queueAll sim (requestPlan sim request)) i dir = trainLog sim i dir := by
        intro i dir
        rw [trainLog, hclock.delivered]
        rfl
      rw [if_pos rfl]
      constructor
      · intro i dir
        rw [hlog]
        rcases queueAll_trains hroom hfree i dir with ⟨hsame, hstarts⟩ | hnew
        · rw [hsame, hstarts, List.append_nil]
          exact h.log i dir
        · obtain ⟨arrive, noExit, -, hstarts, hempty, hrow, -⟩ := hnew
          have hdone := h.log i dir
          rw [hempty, List.map_nil, List.append_nil] at hdone
          rw [hstarts, hrow, trainEvents_event, hdone, List.flatMap_append,
            List.flatMap_singleton]
      · intro i dir
        rcases queueAll_trains hroom hfree i dir with ⟨hsame, -⟩ | hnew
        · rw [hsame]
          exact h.sorted i dir
        · obtain ⟨arrive, noExit, -, -, -, hrow, -⟩ := hnew
          rw [hrow]
          exact trainEvents_sorted _ _ _ _ _ _

theorem ordered_start {sim : RailSim} (h : SimStart sim) : Ordered (fun _ _ => []) sim := by
  have hrow : ∀ i dir, trainRow sim i dir = [] := by
    intro i dir
    apply row_eq_nil.mpr
    intro ev hev
    rw [show bag sim.events = 0 from pending_start h] at hev
    exact absurd hev (Multiset.notMem_zero ev)
  obtain ⟨names, locals, timeScale, layout, rfl⟩ := h
  constructor
  · intro i dir
    rw [hrow]
    rfl
  · intro i dir
    rw [hrow]
    exact List.Pairwise.nil

theorem Ordered.step {s : RailSim × Accepted} (h : Ordered s.2 s.1) (step : SimStep) :
    Ordered (trainWatch s step).2 (trainWatch s step).1 := by
  cases step with
  | tick => exact h.tick
  | command cmd => exact h.command (commandEffect s.1 (requestOf cmd))

/-- In every run the train events delivered on a track are a beginning of the
events of the accepted trains, train after train. -/
theorem trains_in_order {sim : RailSim} (hstart : SimStart sim) (steps : List SimStep) :
    Throughout trainWatch TrainsInOrder (sim, fun _ _ => []) steps := by
  apply throughout_of_invariant (J := fun s => Ordered s.2 s.1)
  · exact fun s step h => h.step step
  · intro s h i dir
    rw [← h.log i dir]
    exact List.prefix_append _ _
  · exact ordered_start hstart

/-- Trains on both tracks at scale 100, where each train is due in one tick. -/
theorem trains_in_order_fast :
    Throughout trainWatch TrainsInOrder (trainControllerStart, fun _ _ => [])
      (.command (ascii ['s', 'c', 'a', 'l', 'e', ' ', '1', '0', '0']) ::
        .command (ascii ['t', 'r', 'a', 'i', 'n', '-', 'b', 'o', 't', 'h']) ::
          List.replicate 6 .tick) :=
  trains_in_order simStart_trainController _

end TrafficLight.TrainOrder
