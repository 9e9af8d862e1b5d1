import TrafficLight.SimPending

namespace TrafficLight.SimTrains

open TrafficLight.Protocol
open TrafficLight.CrossingMachine
open TrafficLight.Slots
open TrafficLight.RailSimulator
open TrafficLight.SimCommands
open TrafficLight.SimPending

/-- An event to queue, with its delay. -/
structure Planned where
  crossing : Fin 3
  event : CrossingEvent
  delaySec : Int

def Planned.toEvent (now : Int) (p : Planned) : SimEvent :=
  ⟨now + secToSimMs p.delaySec, p.crossing, p.event⟩

def queueAll (sim : RailSim) (plan : List Planned) : RailSim :=
  plan.foldl (fun sim p => queueEvent sim p.crossing p.event p.delaySec) sim

theorem queueAll_append (sim : RailSim) (plan plan' : List Planned) :
    queueAll sim (plan ++ plan') = queueAll (queueAll sim plan) plan' :=
  List.foldl_append

theorem sameClock_queueAll (plan : List Planned) (sim : RailSim) :
    SameClock sim (queueAll sim plan) := by
  induction plan generalizing sim with
  | nil => exact SameClock.refl sim
  | cons p plan ih => exact (sameClock_queueEvent _ _ _ _).trans (ih _)

theorem queueEvent_gates (sim : RailSim) (i : Fin 3) (event : CrossingEvent) (delaySec : Int) :
    (queueEvent sim i event delaySec).gates = sim.gates := by
  unfold queueEvent
  split <;> rfl

theorem queueAll_gates (plan : List Planned) (sim : RailSim) :
    (queueAll sim plan).gates = sim.gates := by
  induction plan generalizing sim with
  | nil => rfl
  | cons p plan ih => exact (ih _).trans (queueEvent_gates _ _ _ _)

theorem queueAll_pending {plan : List Planned} {sim : RailSim}
    (hroom : Multiset.card (pending sim) + plan.length ≤ maxPendingEvents) :
    (queueAll sim plan).lost = sim.lost ∧
      pending (queueAll sim plan) =
        (plan.map (Planned.toEvent sim.simTimeMs) : Multiset SimEvent) + pending sim := by
  induction plan generalizing sim with
  | nil => exact ⟨rfl, (zero_add _).symm⟩
  | cons p plan ih =>
      rw [List.length_cons] at hroom
      have hfits : Multiset.card (pending sim) < maxPendingEvents := by omega
      obtain ⟨k, hfree, hqueue⟩ := queueEvent_of_room hfits p.crossing p.event p.delaySec
      have hclock := sameClock_queueEvent sim p.crossing p.event p.delaySec
      have hbag : pending (queueEvent sim p.crossing p.event p.delaySec) =
          p.toEvent sim.simTimeMs ::ₘ pending sim := by
        rw [hqueue]
        exact bag_fill (firstFree_free hfree) _
      obtain ⟨hlost, hrest⟩ := @ih (queueEvent sim p.crossing p.event p.delaySec)
        (by rw [hbag, Multiset.card_cons]; omega)
      refine ⟨hlost.trans (by rw [hqueue]), ?_⟩
      rw [queueAll, List.foldl_cons]
      refine hrest.trans ?_
      rw [hclock.simTimeMs, hbag, List.map_cons, ← Multiset.cons_coe, Multiset.cons_add,
        Multiset.add_cons]

/-- A train whose front arrives after the given time. -/
def trainPlan (layout : Layout) (i : Fin 3) (dir : TrackDirection) (arrive : Int) :
    List Planned :=
  [⟨i, .trainApproach dir, arrive - layout.warningSec⟩, ⟨i, .trainEnter dir, arrive⟩,
    ⟨i, .trainExit dir, arrive + layout.trainLengthSec⟩]

/-- When the front of a train on the line reaches each crossing. -/
def lineArrivals (layout : Layout) : TrackDirection → List (Fin 3 × Int)
  | .up =>
      [(2, layout.warningSec), (1, layout.warningSec + layout.distanceSec 1),
        (0, layout.warningSec + layout.distanceSec 1 + layout.distanceSec 0)]
  | .down =>
      [(0, layout.warningSec), (1, layout.warningSec + layout.distanceSec 0),
        (2, layout.warningSec + layout.distanceSec 0 + layout.distanceSec 1)]

def linePlan (layout : Layout) (dir : TrackDirection) : List Planned :=
  (lineArrivals layout dir).flatMap fun stop => trainPlan layout stop.1 dir stop.2

def crossingPlan (layout : Layout) (i : Fin 3) (dir : TrackDirection) (noExit : Bool) :
    List Planned :=
  (trainPlan layout i dir layout.warningSec).take (if noExit then 2 else 3)

theorem queueTrain_eq (sim : RailSim) (i : Fin 3) (dir : TrackDirection) (arrive : Int) :
    queueTrain sim i dir arrive = queueAll sim (trainPlan sim.layout i dir arrive) := by
  simp only [queueTrain, queueAll, trainPlan, List.foldl_cons, List.foldl_nil,
    (sameClock_queueEvent _ _ _ _).layout]

theorem simulateTrainOnLine_eq (sim : RailSim) (dir : TrackDirection) :
    simulateTrainOnLine sim dir = queueAll sim (linePlan sim.layout dir) := by
  cases dir <;>
    simp only [simulateTrainOnLine, lineStops, linePlan, lineArrivals, List.foldl_cons,
      List.foldl_nil, List.flatMap_cons, List.flatMap_nil, List.append_nil, queueAll_append,
      queueTrain_eq, (sameClock_queueAll _ _).layout, add_zero]

theorem simulateTrainAtCrossing_eq (sim : RailSim) (i : Fin 3) (dir : TrackDirection)
    (noExit : Bool) :
    simulateTrainAtCrossing sim i dir noExit =
      queueAll sim (crossingPlan sim.layout i dir noExit) := by
  cases noExit <;>
    simp [simulateTrainAtCrossing, crossingPlan, trainPlan, queueAll,
      (sameClock_queueEvent _ _ _ _).layout]

theorem trainPending_iff {sim : RailSim} {i : Fin 3} {dir : TrackDirection} :
    trainPending sim i dir = true ↔
      ∃ ev ∈ pending sim, ev.crossing = i ∧ trainDir ev.event = some dir := by
  simp only [trainPending, decide_eq_true_eq, pending, mem_bag, Option.mem_def]
  constructor
  · rintro ⟨k, ev, hk, hev⟩
    exact ⟨ev, ⟨k, hk⟩, hev⟩
  · rintro ⟨ev, ⟨k, hk⟩, hev⟩
    exact ⟨k, ev, hk, hev⟩

theorem cannotStartTrain_eq_none {sim : RailSim} {target : Option (Fin 3)}
    {dir : TrackDirection} {events : Nat} :
    cannotStartTrain sim target dir events = none ↔
      (∀ i, target = none ∨ target = some i → trainPending sim i dir = false) ∧
        events + timerEventReserve ≤ freeSlots sim.events := by
  unfold cannotStartTrain
  split
  · rename_i i hfound
    have hbusy := List.find?_some hfound
    simp only [decide_eq_true_eq] at hbusy
    constructor
    · intro h
      cases h
    · rintro ⟨hfree, -⟩
      rw [hfree i hbusy.1] at hbusy
      cases hbusy.2
  · rename_i hnone
    have hfree : ∀ i, target = none ∨ target = some i → trainPending sim i dir = false := by
      intro i htarget
      have hi := List.find?_eq_none.mp hnone i (List.mem_finRange i)
      simpa [htarget] using hi
    split
    · rename_i hfull
      constructor
      · intro h
        cases h
      · rintro ⟨-, hroom⟩
        omega
    · rename_i hroom
      exact ⟨fun _ => ⟨hfree, by omega⟩, fun _ => rfl⟩

/-- The train events of a train command. -/
def trainEventCount : SimRequest → Option Nat
  | .trainBoth => some 18
  | .trainLine _ => some 9
  | .trainAt _ _ noExit => some (if noExit then 2 else 3)
  | _ => none

/-- The event of a command that acts on one crossing at once. -/
def requestEvent : SimRequest → Option CrossingEvent
  | .faultNumbered _ | .fault _ => some .injectFault
  | .reset _ => some .resetFault
  | _ => none

theorem requestEvent_cases {request : SimRequest} {event : CrossingEvent}
    (h : requestEvent request = some event) :
    (event = .injectFault ∨ event = .resetFault) ∧ trainEventCount request = none := by
  cases request <;> simp_all [requestEvent, trainEventCount]

/-- What a train command queues when it is accepted. -/
def requestPlan (sim : RailSim) : SimRequest → List Planned
  | .trainBoth => linePlan sim.layout .up ++ linePlan sim.layout .down
  | .trainLine dir => linePlan sim.layout dir
  | .trainAt arg1 dir noExit =>
      match findCrossing sim (parseCrossingId arg1) with
      | some i => crossingPlan sim.layout i dir noExit
      | none => []
  | _ => []

/-- No train of the plan meets another one's events. -/
def PlanFree (sim : RailSim) (plan : List Planned) : Prop :=
  ∀ p ∈ plan, ∀ dir, trainDir p.event = some dir → trainPending sim p.crossing dir = false

/-- What a command can do. -/
inductive CommandEffect (sim : RailSim) (request : SimRequest) : RailSim → Bool → Prop
  | unchanged (ok : Bool) (htrain : trainEventCount request ≠ none → ok = false) :
      CommandEffect sim request sim ok
  | event (i : Fin 3) {event : CrossingEvent} (hrequest : requestEvent request = some event) :
      CommandEffect sim request (handle sim i event) true
  | scale (n : Int) (hn : 1 ≤ n ∧ n ≤ 100) (hrequest : request = .scale n) :
      CommandEffect sim request { sim with timeScale := n } true
  | trains (hcount : trainEventCount request = some (requestPlan sim request).length)
      (hroom : (requestPlan sim request).length + timerEventReserve ≤ freeSlots sim.events)
      (hfree : PlanFree sim (requestPlan sim request)) :
      CommandEffect sim request (queueAll sim (requestPlan sim request)) true

theorem linePlan_length (layout : Layout) (dir : TrackDirection) :
    (linePlan layout dir).length = 9 := by
  cases dir <;> rfl

theorem mem_trainPlan {layout : Layout} {i : Fin 3} {dir : TrackDirection} {arrive : Int}
    {p : Planned} (h : p ∈ trainPlan layout i dir arrive) :
    p.crossing = i ∧ trainDir p.event = some dir := by
  simp only [trainPlan, List.mem_cons, List.not_mem_nil, or_false] at h
  rcases h with rfl | rfl | rfl <;> exact ⟨rfl, rfl⟩

theorem mem_linePlan {layout : Layout} {dir : TrackDirection} {p : Planned}
    (h : p ∈ linePlan layout dir) : trainDir p.event = some dir := by
  obtain ⟨stop, -, hp⟩ := List.mem_flatMap.mp h
  exact (mem_trainPlan hp).2

theorem mem_requestPlan {sim : RailSim} {request : SimRequest} {p : Planned}
    (h : p ∈ requestPlan sim request) : ∃ dir, trainDir p.event = some dir := by
  cases request with
  | trainBoth =>
      rcases List.mem_append.mp h with h | h
      · exact ⟨_, mem_linePlan h⟩
      · exact ⟨_, mem_linePlan h⟩
  | trainLine dir => exact ⟨dir, mem_linePlan h⟩
  | trainAt arg1 dir noExit =>
      simp only [requestPlan] at h
      split at h
      · exact ⟨dir, (mem_trainPlan (List.mem_of_mem_take h)).2⟩
      · cases h
  | _ => cases h

theorem planFree_line {sim : RailSim} {dir : TrackDirection}
    (h : ∀ i, trainPending sim i dir = false) : PlanFree sim (linePlan sim.layout dir) := by
  intro p hp d hd
  rw [mem_linePlan hp, Option.some.injEq] at hd
  rw [← hd]
  exact h p.crossing

theorem commandEffect_event (sim : RailSim) (request : SimRequest) (id : Option UInt8)
    {event : CrossingEvent} (done missing : SimReply)
    (hrequest : requestEvent request = some event) :
    CommandEffect sim request (commandEvent sim id event done missing).sim
      (commandEvent sim id event done missing).ok := by
  unfold commandEvent
  split
  · exact .event _ hrequest
  · exact .unchanged _ fun _ => rfl

theorem perform_scale (sim : RailSim) (n : Int) :
    perform sim (.scale n) =
      if 1 ≤ n ∧ n ≤ 100 then ⟨setTimeScale sim n, true, .scaleSet n⟩
      else ⟨sim, false, .scaleRange⟩ := rfl

theorem commandEffect (sim : RailSim) (request : SimRequest) :
    CommandEffect sim request (perform sim request).sim (perform sim request).ok := by
  cases request with
  | empty | status | help | unknown =>
      exact .unchanged _ fun h => absurd rfl h
  | faultNumbered id | fault id => exact commandEffect_event _ _ _ _ _ rfl
  | reset id => exact commandEffect_event _ _ _ _ _ rfl
  | scale n =>
      by_cases hn : 1 ≤ n ∧ n ≤ 100
      · have hperform : perform sim (.scale n) =
            ⟨{ sim with timeScale := n }, true, .scaleSet n⟩ := by
          rw [perform_scale, if_pos hn, setTimeScale, if_pos hn]
        rw [hperform]
        exact .scale n hn rfl
      · have hperform : perform sim (.scale n) = ⟨sim, false, .scaleRange⟩ := by
          rw [perform_scale, if_neg hn]
        rw [hperform]
        exact .unchanged _ fun h => absurd rfl h
  | trainLine dir =>
      change CommandEffect sim (.trainLine dir) (unlessRefused sim dir _ _).sim
        (unlessRefused sim dir _ _).ok
      cases hstart : cannotStartTrain sim none dir (3 * numCrossings) with
      | some refusal => exact .unchanged _ fun _ => rfl
      | none =>
          obtain ⟨hfree, hroom⟩ := cannotStartTrain_eq_none.mp hstart
          have hlength := linePlan_length sim.layout dir
          simp only [unlessRefused, simulateTrainOnLine_eq]
          apply CommandEffect.trains
          · exact congrArg some hlength.symm
          · rw [requestPlan, hlength]
            exact hroom
          · exact planFree_line fun i => hfree i (.inl rfl)
  | trainBoth =>
      change CommandEffect sim .trainBoth (unlessRefused sim .up _ _).sim
        (unlessRefused sim .up _ _).ok
      cases hup : cannotStartTrain sim none .up (6 * numCrossings) with
      | some refusal => exact .unchanged _ fun _ => rfl
      | none =>
          cases hdown : cannotStartTrain sim none .down (6 * numCrossings) with
          | some refusal => exact .unchanged _ fun _ => rfl
          | none =>
              obtain ⟨hfree, hroom⟩ := cannotStartTrain_eq_none.mp hup
              obtain ⟨hfree', -⟩ := cannotStartTrain_eq_none.mp hdown
              have hlength : (requestPlan sim .trainBoth).length = 18 := by
                rw [requestPlan, List.length_append, linePlan_length, linePlan_length]
              simp only [unlessRefused, simulateTrainOnLine_eq, (sameClock_queueAll _ _).layout,
                ← queueAll_append]
              apply CommandEffect.trains
              · exact congrArg some hlength.symm
              · rw [hlength]
                exact hroom
              · intro p hp
                rcases List.mem_append.mp hp with hp | hp
                · exact planFree_line (fun i => hfree i (.inl rfl)) p hp
                · exact planFree_line (fun i => hfree' i (.inl rfl)) p hp
  | trainAt arg1 dir noExit =>
      change CommandEffect sim (.trainAt arg1 dir noExit)
        (trainAtCrossing sim arg1 dir noExit (findCrossing sim (parseCrossingId arg1))).sim
        (trainAtCrossing sim arg1 dir noExit (findCrossing sim (parseCrossingId arg1))).ok
      cases hfind : findCrossing sim (parseCrossingId arg1) with
      | none => exact .unchanged _ fun _ => rfl
      | some i =>
          cases hstart : cannotStartTrain sim (some i) dir (if noExit then 2 else 3) with
          | some refusal =>
              simp only [trainAtCrossing, hstart]
              exact .unchanged _ fun _ => rfl
          | none =>
              obtain ⟨hfree, hroom⟩ := cannotStartTrain_eq_none.mp hstart
              have hplan : requestPlan sim (.trainAt arg1 dir noExit) =
                  crossingPlan sim.layout i dir noExit := by
                rw [requestPlan, hfind]
              have hlength : (crossingPlan sim.layout i dir noExit).length =
                  if noExit then 2 else 3 := by
                cases noExit <;> rfl
              simp only [trainAtCrossing, hstart, unlessRefused, simulateTrainAtCrossing_eq,
                ← hplan]
              apply CommandEffect.trains
              · rw [hplan, hlength]
                rfl
              · rw [hplan, hlength]
                exact hroom
              · rw [hplan]
                intro p hp d hd
                obtain ⟨hi, hdir⟩ := mem_trainPlan (List.mem_of_mem_take hp)
                rw [hdir, Option.some.injEq] at hd
                rw [hi, ← hd]
                exact hfree i (.inr rfl)

end TrafficLight.SimTrains
