import Mathlib.Tactic.FinCases
import TrafficLight.SimInvariant

namespace TrafficLight.TrainRows

open TrafficLight.Protocol
open TrafficLight.CrossingMachine
open TrafficLight.CrossingOutcomes
open TrafficLight.CrossingCalls
open TrafficLight.CrossingRuns
open TrafficLight.CrossingInvariant
open TrafficLight.Slots
open TrafficLight.RailSimulator
open TrafficLight.SimCommands
open TrafficLight.SimPending
open TrafficLight.SimTimers
open TrafficLight.SimTrains
open TrafficLight.SimInvariant

def isTrainAt (i : Fin 3) (dir : TrackDirection) (ev : SimEvent) : Bool :=
  ev.crossing = i ∧ trainDir ev.event = some dir

/-- The pending train events of a track, in the order of their slots. -/
def trainRow (sim : RailSim) (i : Fin 3) (dir : TrackDirection) : List SimEvent :=
  row (isTrainAt i dir) sim.events

structure CrossingView where
  cx : Crossing
  gateDue : Option Int
  now : Int
  trains : TrackDirection → List SimEvent
  timers : TimerId → Multiset SimEvent

def view (sim : RailSim) (i : Fin 3) : CrossingView :=
  { cx := sim.crossings i
    gateDue := sim.gates i
    now := sim.simTimeMs
    trains := trainRow sim i
    timers := fun id => timersOf i id (pending sim) }

@[simp] theorem view_timers (sim : RailSim) (i : Fin 3) (id : TimerId) :
    (view sim i).timers id = timersOf i id (pending sim) := rfl

@[simp] theorem view_trains (sim : RailSim) (i : Fin 3) (dir : TrackDirection) :
    (view sim i).trains dir = trainRow sim i dir := rfl

theorem timer_not_train {ev : SimEvent} {key : Fin 3 × TimerId} (h : timerOf ev = some key)
    (i : Fin 3) (dir : TrackDirection) : isTrainAt i dir ev = false := by
  cases hevent : ev.event <;> simp_all [timerOf, isTrainAt, trainDir]

theorem applyCalls_row (i i' : Fin 3) (dir : TrackDirection) (calls : List CxCall)
    (sim : RailSim) :
    trainRow (calls.foldl (applyCall i) sim) i' dir = trainRow sim i' dir := by
  induction calls generalizing sim with
  | nil => rfl
  | cons call calls ih =>
      refine (ih _).trans ?_
      unfold trainRow
      cases hop : call.op with
      | startTimer id seconds =>
          simp only [applyCall, hop, railSimStartTimer, queueEvent]
          split
          · rename_i hpush
            exact row_push_other hpush (timer_not_train rfl i' dir)
          · rfl
      | cancelTimer id =>
          simp only [applyCall, hop, railSimCancelTimer]
          apply row_remove
          intro ev hev
          exact timer_not_train (of_decide_eq_true hev) i' dir
      | gateCommand cmd =>
          simp only [applyCall, hop, railSimGateCommand]
          split <;> rfl
      | _ => simp only [applyCall, hop]

/-- The gate is told to move. -/
def commandsGate (os : List CxOp) : Bool :=
  os.any fun
    | .gateCommand _ => true
    | _ => false

@[simp] theorem commandsGate_append (os os' : List CxOp) :
    commandsGate (os ++ os') = (commandsGate os || commandsGate os') :=
  List.any_append

@[simp] theorem commandsGate_nil : commandsGate [] = false := rfl

@[simp] theorem commandsGate_cons (op : CxOp) (os : List CxOp) :
    commandsGate (op :: os) =
      ((match op with | .gateCommand _ => true | _ => false) || commandsGate os) := rfl

@[simp] theorem commandsGate_flashOps (flashOn : Bool) :
    commandsGate (flashOps flashOn) = false := by
  cases flashOn <;> rfl

@[simp] theorem commandsGate_closeOps (gate : GateState) :
    commandsGate (closeOps gate) = true := by
  cases gate <;> rfl

theorem gateIndex_ofNat (i : Fin 3) : gateIndex (UInt8.ofNat (i + 1)) = some i := by
  revert i
  decide

theorem applyCalls_gates {i : Fin 3} {calls : List CxCall}
    (hid : ∀ call ∈ calls, call.cx.id = UInt8.ofNat (i + 1)) (sim : RailSim) :
    (calls.foldl (applyCall i) sim).gates =
      if commandsGate (calls.map CxCall.op) then
        Function.update sim.gates i (some (sim.simTimeMs + secToSimMs gateMoveSec))
      else sim.gates := by
  induction calls generalizing sim with
  | nil => rfl
  | cons call calls ih =>
      have hclock := sameClock_applyCall i sim call
      have hrest := ih (fun later hlater => hid later (.tail _ hlater)) (applyCall i sim call)
      rw [List.foldl_cons, hrest, hclock.simTimeMs, List.map_cons, commandsGate_cons]
      cases hop : call.op with
      | gateCommand cmd =>
          have hgates : (applyCall i sim call).gates =
              Function.update sim.gates i (some (sim.simTimeMs + secToSimMs gateMoveSec)) := by
            simp only [applyCall, hop, railSimGateCommand, hid call List.mem_cons_self,
              gateIndex_ofNat]
          rw [hgates, Function.update_idem, ite_self]
          rfl
      | startTimer id seconds =>
          simp only [applyCall, hop, railSimStartTimer, queueEvent_gates, Bool.false_or]
      | cancelTimer id => simp only [applyCall, hop, railSimCancelTimer, Bool.false_or]
      | _ => simp only [applyCall, hop, Bool.false_or]

theorem mem_timersOf_afterOps {now : Int} {i : Fin 3} {gen : TimerId → UInt32} {os : List CxOp}
    {id : TimerId} {ev : SimEvent} {m : Multiset SimEvent}
    (h : ev ∈ timersOf i id (afterOps now i gen m os)) :
    ev ∈ timersOf i id m ∨
      ∃ seconds, .startTimer id seconds ∈ os ∧ ev.deliverAtMs = now + secToSimMs seconds := by
  induction os generalizing m with
  | nil => exact .inl h
  | cons op os ih =>
      rcases ih h with hold | ⟨seconds, hop, hdue⟩
      · obtain ⟨hmem, hid⟩ := Multiset.mem_filter.mp hold
        cases op with
        | startTimer id' seconds =>
            rcases Multiset.mem_cons.mp hmem with rfl | hmem
            · obtain rfl : id' = id := by simpa [timerOf] using hid
              exact .inr ⟨seconds, List.mem_cons_self, rfl⟩
            · exact .inl (Multiset.mem_filter.mpr ⟨hmem, hid⟩)
        | cancelTimer id' =>
            exact .inl (Multiset.mem_filter.mpr ⟨Multiset.mem_of_mem_filter hmem, hid⟩)
        | _ => exact .inl hold
      · exact .inr ⟨seconds, .tail _ hop, hdue⟩

/-- What a handler does to the view of its own crossing, the trains apart. -/
structure HandledView (v v' : CrossingView) (event : CrossingEvent) (os : List CxOp) : Prop where
  out : Outcome v.cx event v'.cx os
  now : v'.now = v.now
  gateDue : v'.gateDue =
    if commandsGate os then some (v.now + secToSimMs gateMoveSec) else v.gateDue
  timers : ∀ id, ∀ ev ∈ v'.timers id, ev ∈ v.timers id ∨
    ∃ seconds, .startTimer id seconds ∈ os ∧ ev.deliverAtMs = v.now + secToSimMs seconds

theorem HandledView.old_timer {v v' : CrossingView} {event : CrossingEvent} {os : List CxOp}
    (hv : HandledView v v' event os) {id : TimerId}
    (hstart : id ∉ startsOf os) : ∀ ev ∈ v'.timers id, ev ∈ v.timers id := by
  intro ev hev
  rcases hv.timers id ev hev with hold | ⟨seconds, hop, -⟩
  · exact hold
  · exact absurd (mem_startsOf.mpr ⟨seconds, hop⟩) hstart

theorem call_id {sim : RailSim} (hinv : SimInv sim) (i : Fin 3) (event : CrossingEvent) :
    ∀ call ∈ (crossingHandleEvent (sim.crossings i) event).calls,
      call.cx.id = UInt8.ofNat (i + 1) := by
  intro call hcall
  have hsite := (onSite (sim.crossings i) event).2 call hcall
  exact (congrArg Prod.fst hsite).trans (hinv.ids i)

theorem handle_gates {sim : RailSim} (hinv : SimInv sim) (i : Fin 3) (event : CrossingEvent) :
    (handle sim i event).gates =
      if commandsGate (ops (crossingHandleEvent (sim.crossings i) event)) then
        Function.update sim.gates i (some (sim.simTimeMs + secToSimMs gateMoveSec))
      else sim.gates :=
  applyCalls_gates (call_id hinv i event) _

theorem handle_row (sim : RailSim) (i i' : Fin 3) (event : CrossingEvent)
    (dir : TrackDirection) : trainRow (handle sim i event) i' dir = trainRow sim i' dir :=
  applyCalls_row i i' dir _ _

/-- A simulator that differs from a handler's result by the delivered event. -/
structure AfterHandle (sim sim' : RailSim) (i : Fin 3) (event : CrossingEvent)
    (m : Multiset SimEvent) : Prop where
  crossings : sim'.crossings = (handle sim i event).crossings
  gates : sim'.gates = (handle sim i event).gates
  simTimeMs : sim'.simTimeMs = sim.simTimeMs
  pending_eq : pending sim' = afterHandler sim i event m
  le : m ≤ pending sim

theorem AfterHandle.own {sim sim' : RailSim} {i : Fin 3} {event : CrossingEvent}
    {m : Multiset SimEvent} (h : AfterHandle sim sim' i event m) (hinv : SimInv sim) :
    HandledView (view sim i) (view sim' i) event
      (ops (crossingHandleEvent (sim.crossings i) event)) := by
  have hcx : (view sim' i).cx = (crossingHandleEvent (sim.crossings i) event).cx := by
    change sim'.crossings i = _
    rw [h.crossings, (handle_frame sim i event).1, Function.update_self]
  constructor
  · rw [hcx]
    exact outcome (sim.crossings i) event
  · exact h.simTimeMs
  · change sim'.gates i = _
    rw [h.gates, handle_gates hinv]
    split
    · rw [Function.update_self]
      rfl
    · rfl
  · intro id ev hev
    change ev ∈ timersOf i id (pending sim') at hev
    rw [h.pending_eq] at hev
    rcases mem_timersOf_afterOps hev with hold | hnew
    · exact .inl (Multiset.mem_of_le (Multiset.filter_le_filter _ h.le) hold)
    · exact .inr hnew

theorem AfterHandle.other {sim sim' : RailSim} {i i' : Fin 3} {event : CrossingEvent}
    {m : Multiset SimEvent} (h : AfterHandle sim sim' i event m) (hinv : SimInv sim)
    (hne : i' ≠ i) (htrains : trainRow sim' i' = trainRow sim i')
    (hm : ∀ id, timersOf i' id m = timersOf i' id (pending sim)) :
    view sim' i' = view sim i' := by
  have hcx : sim'.crossings i' = sim.crossings i' := by
    rw [h.crossings, (handle_frame sim i event).1, Function.update_of_ne hne]
  have hgate : sim'.gates i' = sim.gates i' := by
    rw [h.gates, handle_gates hinv]
    split
    · rw [Function.update_of_ne hne]
    · rfl
  have htimers : (fun id => timersOf i' id (pending sim')) =
      fun id => timersOf i' id (pending sim) := by
    funext id
    rw [h.pending_eq, afterHandler, timersOf_afterOps_other hne, hm]
  simp only [view, hcx, hgate, h.simTimeMs, htrains, htimers]

theorem mem_afterHandler {sim : RailSim} {i : Fin 3} {event : CrossingEvent}
    {m : Multiset SimEvent} {ev : SimEvent} (h : ev ∈ afterHandler sim i event m) :
    ev ∈ m ∨ ∃ id seconds,
      .startTimer id seconds ∈ ops (crossingHandleEvent (sim.crossings i) event) ∧
        ev.deliverAtMs = sim.simTimeMs + secToSimMs seconds := by
  rcases mem_afterOps h with hold | htimer
  · exact .inl hold
  · obtain ⟨⟨j, id⟩, hkey⟩ := Option.isSome_iff_exists.mp htimer
    have hmem : ev ∈ timersOf j id (afterHandler sim i event m) :=
      Multiset.mem_filter.mpr ⟨h, hkey⟩
    by_cases hj : j = i
    · subst hj
      rcases mem_timersOf_afterOps hmem with hold | ⟨seconds, hstart, hdue⟩
      · exact .inl (Multiset.mem_of_mem_filter hold)
      · exact .inr ⟨id, seconds, hstart, hdue⟩
    · rw [afterHandler, timersOf_afterOps_other hj] at hmem
      exact .inl (Multiset.mem_of_mem_filter hmem)

/-- The simulator after the event of a slot is delivered. -/
def afterSlot (sim : RailSim) (k : Fin maxPendingEvents) (ev : SimEvent) : RailSim :=
  { handle sim ev.crossing ev.event with
    events := setSlot (handle sim ev.crossing ev.event).events k none }

section Slots

variable {sim : RailSim} {k : Fin maxPendingEvents} {ev : SimEvent}

theorem visitSlot_due (hk : sim.events k = some ev) (hdue : ev.deliverAtMs ≤ sim.simTimeMs) :
    visitSlot sim k = afterSlot sim k ev := by
  rw [visitSlot, hk]
  exact if_pos hdue

theorem afterHandle_slot (hinv : SimInv sim) (hk : sim.events k = some ev) :
    ∃ rest, pending sim = ev ::ₘ rest ∧
      AfterHandle sim (afterSlot sim k ev) ev.crossing ev.event rest := by
  obtain ⟨rest, hrest, hbag⟩ := deliver_pending hk (hinv.room_outcome ev.crossing ev.event)
  refine ⟨rest, hrest, rfl, rfl, (handle_frame sim ev.crossing ev.event).2.2.1, hbag, ?_⟩
  rw [hrest]
  exact Multiset.le_cons_self rest ev

theorem visitSlot_cases (sim : RailSim) (k : Fin maxPendingEvents) :
    ((∀ ev, sim.events k = some ev → sim.simTimeMs < ev.deliverAtMs) ∧ visitSlot sim k = sim) ∨
      ∃ ev, sim.events k = some ev ∧ ev.deliverAtMs ≤ sim.simTimeMs ∧
        visitSlot sim k = afterSlot sim k ev := by
  cases hk : sim.events k with
  | none =>
      refine .inl ⟨fun ev hev => ?_, ?_⟩
      · cases hev
      · rw [visitSlot, hk]
  | some ev =>
      by_cases hdue : ev.deliverAtMs ≤ sim.simTimeMs
      · exact .inr ⟨ev, rfl, hdue, visitSlot_due hk hdue⟩
      · refine .inl ⟨fun ev' hev' => ?_, ?_⟩
        · cases hev'
          exact not_le.mp hdue
        · rw [visitSlot, hk]
          exact if_neg hdue

theorem trainRow_afterSlot_other (hk : sim.events k = some ev) {i : Fin 3} {dir : TrackDirection}
    (hev : isTrainAt i dir ev = false) :
    trainRow (afterSlot sim k ev) i dir = trainRow sim i dir := by
  rw [← handle_row sim ev.crossing i ev.event dir]
  apply row_setSlot_other
  · rcases handle_slot hk with ⟨hheld, -⟩ | ⟨hfreed, -⟩
    · rw [hheld, Option.filter_some, hev]
      rfl
    · rw [hfreed]
      rfl
  · rfl

theorem trainRow_afterSlot_own (hk : sim.events k = some ev) {i : Fin 3} {dir : TrackDirection}
    (hev : isTrainAt i dir ev = true) :
    ∃ before after, trainRow sim i dir = before ++ ev :: after ∧
      trainRow (afterSlot sim k ev) i dir = before ++ after ∧
      ∀ b ∈ before, ∃ j < k, sim.events j = some b := by
  have hheld : (handle sim ev.crossing ev.event).events k = some ev := by
    rcases handle_slot hk with ⟨hheld, -⟩ | ⟨-, id, htimer, -⟩
    · exact hheld
    · rw [timer_not_train htimer i dir] at hev
      cases hev
  obtain ⟨before, after, hrow, hrow', hbefore⟩ := row_free hheld hev
  refine ⟨before, after, ?_, hrow', ?_⟩
  · rw [← handle_row sim ev.crossing i ev.event dir]
    exact hrow
  · intro b hb
    obtain ⟨j, hjk, hj⟩ := hbefore b hb
    refine ⟨j, hjk, ?_⟩
    have hmem : b ∈ trainRow (handle sim ev.crossing ev.event) i dir := by
      rw [show trainRow _ i dir = _ from hrow]
      exact List.mem_append_left _ hb
    rcases applyCalls_slot hj with hold | ⟨id, _, htimer, -⟩
    · exact hold
    · have htrain := (mem_row.mp hmem).2
      rw [timer_not_train htimer i dir] at htrain
      cases htrain

theorem simInv_afterSlot (hinv : SimInv sim) (hk : sim.events k = some ev)
    (hdue : ev.deliverAtMs ≤ sim.simTimeMs) : SimInv (afterSlot sim k ev) := by
  rw [← visitSlot_due hk hdue]
  exact hinv.visitSlot k

theorem afterSlot_other (hinv : SimInv sim) (hk : sim.events k = some ev) {j : Fin 3}
    (hj : j ≠ ev.crossing) : view (afterSlot sim k ev) j = view sim j := by
  obtain ⟨rest, hrest, hafter⟩ := afterHandle_slot hinv hk
  apply hafter.other hinv hj
  · funext dir
    exact trainRow_afterSlot_other hk (by simp [isTrainAt, hj.symm])
  · intro id
    rw [hrest]
    refine (timersOf_cons_other (fun htimer => ?_) rest).symm
    cases hevent : ev.event with
    | timer id' gen =>
        simp only [timerOf, hevent, Option.some.injEq, Prod.mk.injEq] at htimer
        exact hj htimer.1.symm
    | _ => simp [timerOf, hevent] at htimer

end Slots

theorem toEvent_isTrainAt (i : Fin 3) (dir : TrackDirection) (now : Int) (p : Planned) :
    isTrainAt i dir (p.toEvent now) = decide (p.crossing = i ∧ trainDir p.event = some dir) := rfl

theorem view_queueAll {sim : RailSim} {request : SimRequest}
    (hroom : (requestPlan sim request).length + timerEventReserve ≤ freeSlots sim.events)
    (i : Fin 3) :
    view (queueAll sim (requestPlan sim request)) i =
      { view sim i with trains := trainRow (queueAll sim (requestPlan sim request)) i } := by
  have hclock := sameClock_queueAll (requestPlan sim request) sim
  have htimers : (fun id => timersOf i id (pending (queueAll sim (requestPlan sim request)))) =
      fun id => timersOf i id (pending sim) := funext (timersOf_queueAll hroom i)
  rw [view, hclock.crossings, queueAll_gates, hclock.simTimeMs, htimers]
  rfl

theorem queueAll_row {plan : List Planned} {sim : RailSim} {i : Fin 3} {dir : TrackDirection}
    (hroom : Multiset.card (pending sim) + plan.length ≤ maxPendingEvents)
    (hpacked : Packed (isTrainAt i dir) sim.events) :
    trainRow (queueAll sim plan) i dir = trainRow sim i dir ++
      (plan.map (Planned.toEvent sim.simTimeMs)).filter (isTrainAt i dir) := by
  induction plan generalizing sim with
  | nil => exact (List.append_nil _).symm
  | cons p plan ih =>
      rw [List.length_cons] at hroom
      have hfits : Multiset.card (pending sim) < maxPendingEvents := by omega
      obtain ⟨k, hfree, hqueue⟩ := queueEvent_of_room hfits p.crossing p.event p.delaySec
      have hpush : push sim.events (p.toEvent sim.simTimeMs) =
          some (queueEvent sim p.crossing p.event p.delaySec).events := by
        rw [push, hfree, hqueue]
        rfl
      obtain ⟨hrow, hpacked'⟩ := packed_push hpush hpacked
      have hbag : pending (queueEvent sim p.crossing p.event p.delaySec) =
          p.toEvent sim.simTimeMs ::ₘ pending sim := bag_push hpush
      have hrest := @ih (queueEvent sim p.crossing p.event p.delaySec)
        (by rw [hbag, Multiset.card_cons]; omega) hpacked'
      have hclock := sameClock_queueEvent sim p.crossing p.event p.delaySec
      rw [queueAll, List.foldl_cons]
      refine hrest.trans ?_
      rw [hclock.simTimeMs, trainRow, hrow, List.append_assoc, List.map_cons, List.filter_cons,
        Option.filter_some]
      split <;> rfl

theorem queueAll_row_other {plan : List Planned} {sim : RailSim} {i : Fin 3}
    {dir : TrackDirection}
    (hplan : (plan.map (Planned.toEvent sim.simTimeMs)).filter (isTrainAt i dir) = []) :
    trainRow (queueAll sim plan) i dir = trainRow sim i dir := by
  induction plan generalizing sim with
  | nil => rfl
  | cons p plan ih =>
      rw [List.map_cons, List.filter_cons] at hplan
      have hother : isTrainAt i dir (p.toEvent sim.simTimeMs) = false := by
        by_contra hown
        rw [if_pos (by simpa using hown)] at hplan
        cases hplan
      rw [if_neg (by simp [hother])] at hplan
      have hclock := sameClock_queueEvent sim p.crossing p.event p.delaySec
      have hrest := @ih (queueEvent sim p.crossing p.event p.delaySec)
        (by rw [hclock.simTimeMs]; exact hplan)
      rw [queueAll, List.foldl_cons]
      refine hrest.trans ?_
      unfold trainRow queueEvent
      split
      · rename_i hpush
        exact row_push_other hpush hother
      · rfl

section Plans

variable (layout : Layout) (now : Int) (i i' : Fin 3) (dir dir' : TrackDirection)

/-- The events of a train whose front arrives after the given time. -/
def trainEvents (arrive : Int) (noExit : Bool) : List SimEvent :=
  ((trainPlan layout i dir arrive).take (if noExit then 2 else 3)).map (Planned.toEvent now)

theorem filter_trainEvents (arrive : Int) (noExit : Bool) :
    (trainEvents layout now i dir arrive noExit).filter (isTrainAt i' dir') =
      if i = i' ∧ dir = dir' then trainEvents layout now i dir arrive noExit else [] := by
  cases noExit <;>
    by_cases h : i = i' ∧ dir = dir' <;>
    simp [trainEvents, trainPlan, toEvent_isTrainAt, trainDir, h]

theorem filter_linePlan :
    ((linePlan layout dir).map (Planned.toEvent now)).filter (isTrainAt i dir') =
      (lineArrivals layout dir).flatMap fun stop =>
        if stop.1 = i ∧ dir = dir' then trainEvents layout now i dir stop.2 false else [] := by
  rw [linePlan, List.map_flatMap, List.filter_flatMap]
  congr 1
  funext stop
  refine (filter_trainEvents layout now stop.1 i dir dir' stop.2 false).trans ?_
  by_cases h : stop.1 = i ∧ dir = dir'
  · rw [if_pos h, if_pos h, h.1]
  · rw [if_neg h, if_neg h]

theorem filter_linePlan_own : ∃ arrive, layout.warningSec ≤ arrive ∧
    ((linePlan layout dir).map (Planned.toEvent now)).filter (isTrainAt i dir) =
      trainEvents layout now i dir arrive false := by
  have hdistance : ∀ k, 0 ≤ layout.distanceSec k := by
    intro k
    obtain ⟨units, hmin, -, hunits⟩ := layout.distance_units k
    rw [hunits]
    simp only [distanceMinUnits, distanceUnitSec] at *
    omega
  have h0 := hdistance 0
  have h1 := hdistance 1
  rw [filter_linePlan]
  cases dir <;> fin_cases i <;>
    simp only [lineArrivals, List.flatMap_cons, List.flatMap_nil, Fin.reduceFinMk, Fin.isValue,
      and_true, Fin.reduceEq, if_true, if_false, List.append_nil, List.nil_append,
      Fin.zero_eta, Fin.mk_one]
  all_goals exact ⟨_, by omega, rfl⟩

theorem filter_linePlan_other (h : dir ≠ dir') :
    ((linePlan layout dir).map (Planned.toEvent now)).filter (isTrainAt i dir') = [] := by
  rw [filter_linePlan, List.flatMap_eq_nil_iff]
  intro stop _
  rw [if_neg fun hstop => h hstop.2]

end Plans

/-- The trains a command starts on a track: whether each is one without exit. -/
def requestTrains (sim : RailSim) : SimRequest → Fin 3 → TrackDirection → List Bool
  | .trainBoth, _, _ => [false]
  | .trainLine d, _, dir => if d = dir then [false] else []
  | .trainAt arg1 d noExit, i, dir =>
      if findCrossing sim (parseCrossingId arg1) = some i ∧ d = dir then [noExit] else []
  | _, _, _ => []

theorem filter_requestPlan (sim : RailSim) (request : SimRequest) (i : Fin 3)
    (dir : TrackDirection) (now : Int) :
    (((requestPlan sim request).map (Planned.toEvent now)).filter (isTrainAt i dir) = [] ∧
        requestTrains sim request i dir = []) ∨
      ∃ arrive noExit, sim.layout.warningSec ≤ arrive ∧
        requestTrains sim request i dir = [noExit] ∧
        ((requestPlan sim request).map (Planned.toEvent now)).filter (isTrainAt i dir) =
          trainEvents sim.layout now i dir arrive noExit := by
  cases request with
  | trainBoth =>
      rw [requestPlan, List.map_append, List.filter_append]
      right
      cases dir with
      | up =>
          obtain ⟨arrive, harrive, hown⟩ := filter_linePlan_own sim.layout now i .up
          rw [filter_linePlan_other sim.layout now i .down .up (by simp), List.append_nil]
          exact ⟨arrive, false, harrive, rfl, hown⟩
      | down =>
          obtain ⟨arrive, harrive, hown⟩ := filter_linePlan_own sim.layout now i .down
          rw [filter_linePlan_other sim.layout now i .up .down (by simp), List.nil_append]
          exact ⟨arrive, false, harrive, rfl, hown⟩
  | trainLine d =>
      rw [requestPlan]
      by_cases hd : d = dir
      · rw [hd]
        obtain ⟨arrive, harrive, hown⟩ := filter_linePlan_own sim.layout now i dir
        exact .inr ⟨arrive, false, harrive, if_pos rfl, hown⟩
      · exact .inl ⟨filter_linePlan_other sim.layout now i d dir hd, if_neg hd⟩
  | trainAt arg1 d noExit =>
      rw [requestPlan, requestTrains]
      cases findCrossing sim (parseCrossingId arg1) with
      | none => exact .inl ⟨rfl, rfl⟩
      | some j =>
          have hfilter := filter_trainEvents sim.layout now j i d dir sim.layout.warningSec noExit
          by_cases hown : j = i ∧ d = dir
          · obtain ⟨rfl, rfl⟩ := hown
            rw [if_pos ⟨rfl, rfl⟩] at hfilter
            exact .inr ⟨_, noExit, le_rfl, if_pos ⟨rfl, rfl⟩, hfilter⟩
          · rw [if_neg hown] at hfilter
            exact .inl ⟨hfilter, if_neg (by simpa using hown)⟩
  | _ => exact .inl ⟨rfl, rfl⟩

/-- An accepted train command enters one train on each track it names, where
no train event was pending, and leaves the other tracks alone. -/
theorem queueAll_trains {sim : RailSim} {request : SimRequest}
    (hroom : (requestPlan sim request).length + timerEventReserve ≤ freeSlots sim.events)
    (hfree : PlanFree sim (requestPlan sim request)) (i : Fin 3) (dir : TrackDirection) :
    (trainRow (queueAll sim (requestPlan sim request)) i dir = trainRow sim i dir ∧
        requestTrains sim request i dir = []) ∨
      ∃ arrive noExit, sim.layout.warningSec ≤ arrive ∧
        requestTrains sim request i dir = [noExit] ∧ trainRow sim i dir = [] ∧
        trainRow (queueAll sim (requestPlan sim request)) i dir =
          trainEvents sim.layout sim.simTimeMs i dir arrive noExit ∧
        ∃ p ∈ requestPlan sim request, p.crossing = i ∧ trainDir p.event = some dir := by
  rcases filter_requestPlan sim request i dir sim.simTimeMs with ⟨hnone, hstarts⟩ | hsome
  · exact .inl ⟨queueAll_row_other hnone, hstarts⟩
  · obtain ⟨arrive, noExit, harrive, hstarts, hfilter⟩ := hsome
    have hmem : (Planned.toEvent sim.simTimeMs
        ⟨i, .trainApproach dir, arrive - sim.layout.warningSec⟩) ∈
          ((requestPlan sim request).map (Planned.toEvent sim.simTimeMs)).filter
            (isTrainAt i dir) := by
      rw [hfilter]
      cases noExit <;> exact List.mem_cons_self
    obtain ⟨hplanned, -⟩ := List.mem_filter.mp hmem
    obtain ⟨p, hp, hevent⟩ := List.mem_map.mp hplanned
    obtain ⟨hi, hdir⟩ : p.crossing = i ∧ trainDir p.event = some dir := by
      have hcrossing := congrArg SimEvent.crossing hevent
      have htrain := congrArg (fun ev => trainDir ev.event) hevent
      exact ⟨hcrossing, htrain⟩
    have hrow : trainRow sim i dir = [] := by
      apply row_eq_nil.mpr
      intro ev hev
      by_contra hown
      have hat : isTrainAt i dir ev = true := by simpa using hown
      have hbusy := hfree p hp dir hdir
      rw [← Bool.not_eq_true, trainPending_iff] at hbusy
      apply hbusy
      rw [hi]
      exact ⟨ev, hev, of_decide_eq_true hat⟩
    have hcard := card_bag sim.events
    rw [show bag sim.events = pending sim from rfl] at hcard
    have hpacked : Packed (isTrainAt i dir) sim.events := by
      intro j ev k hj hown
      have hev : ev ∈ trainRow sim i dir := mem_row.mpr ⟨⟨j, hj⟩, hown⟩
      rw [hrow] at hev
      cases hev
    refine .inr ⟨arrive, noExit, harrive, hstarts, hrow, ?_, p, hp, hi, hdir⟩
    rw [queueAll_row (by omega) hpacked, hrow, hfilter, List.nil_append]

end TrafficLight.TrainRows
