import Mathlib.Data.Fintype.Prod
import TrafficLight.SimTimers
import TrafficLight.SimTrains

namespace TrafficLight.SimInvariant

open TrafficLight.Runs
open TrafficLight.Protocol
open TrafficLight.CrossingMachine
open TrafficLight.CrossingOutcomes
open TrafficLight.CrossingCalls
open TrafficLight.CrossingRuns
open TrafficLight.CrossingInvariant
open TrafficLight.StaleTimers
open TrafficLight.Slots
open TrafficLight.RailSimulator
open TrafficLight.SimCommands
open TrafficLight.Decimal
open TrafficLight.SimPending
open TrafficLight.SimTimers
open TrafficLight.SimTrains

def isTrain (ev : SimEvent) : Bool := (trainDir ev.event).isSome

/-- The train events of a bag. -/
def trainsOf (m : Multiset SimEvent) : Multiset SimEvent := m.filter fun ev => isTrain ev = true

structure SimInv (sim : RailSim) : Prop where
  ids : ∀ i, (sim.crossings i).id = UInt8.ofNat (i + 1)
  crossings : ∀ i, CxInv (sim.crossings i)
  timers : ∀ i id, Exact (sim.crossings i) i id (pending sim)
  kinds : ∀ ev ∈ pending sim, (timerOf ev).isSome ∨ isTrain ev
  trains : Multiset.card (trainsOf (pending sim)) + timerEventReserve ≤ maxPendingEvents
  lost : sim.lost = 0

theorem siminv_start {sim : RailSim} (h : SimStart sim) : SimInv sim := by
  have hnone := pending_start h
  obtain ⟨names, locals, timeScale, layout, rfl⟩ := h
  constructor
  · exact fun _ => rfl
  · exact fun _ => cxInv_init _ _ _ _
  · intro i id
    rw [hnone]
    refine ⟨fun hneeded => ?_, fun _ => rfl⟩
    cases id <;> simp [Needed, railSimInit, crossingInit] at hneeded
  · rw [hnone]
    exact fun ev hev => absurd hev (Multiset.notMem_zero ev)
  · rw [hnone]
    decide
  · rfl

theorem exact_card_le {cx : Crossing} {i : Fin 3} {id : TimerId} {m : Multiset SimEvent}
    (h : Exact cx i id m) : Multiset.card (timersOf i id m) ≤ 1 := by
  by_cases hneeded : Needed cx id
  · obtain ⟨due, hdue⟩ := h.1 hneeded
    rw [hdue, Multiset.card_singleton]
  · rw [h.2 hneeded]
    exact Nat.zero_le _

theorem SimInv.card_pending {sim : RailSim} (h : SimInv sim) :
    Multiset.card (pending sim) = Multiset.card (trainsOf (pending sim)) +
      (pending sim).countP fun ev => (timerOf ev).isSome := by
  have hsplit := Multiset.card_eq_countP_add_countP (fun ev => isTrain ev = true) (pending sim)
  rw [hsplit, trainsOf, ← Multiset.countP_eq_card_filter]
  congr 1
  apply Multiset.countP_congr rfl
  intro ev hev
  have hkind := h.kinds ev hev
  cases hevent : ev.event <;> simp_all [isTrain, timerOf, trainDir]

theorem SimInv.room {sim : RailSim} (h : SimInv sim) {i : Fin 3} {id : TimerId}
    (hidle : ¬ Needed (sim.crossings i) id) :
    Multiset.card (pending sim) < maxPendingEvents := by
  have hlt := @countP_keyed_lt SimEvent (Fin 3 × TimerId) _ _ timerOf (pending sim) (i, id)
    (fun x => by
      rw [Multiset.countP_eq_card_filter]
      exact exact_card_le (h.timers x.1 x.2))
    (by
      rw [Multiset.countP_eq_card_filter, Multiset.card_eq_zero]
      exact (h.timers i id).2 hidle)
  have hcard := h.card_pending
  have htrains := h.trains
  have hkeys : Fintype.card (Fin 3 × TimerId) = timerEventReserve := rfl
  omega

theorem card_pending_le (sim : RailSim) :
    Multiset.card (pending sim) ≤ maxPendingEvents := by
  have hcard := card_bag sim.events
  rw [show bag sim.events = pending sim from rfl] at hcard
  omega

theorem SimInv.room_outcome {sim : RailSim} (h : SimInv sim) (i : Fin 3)
    (event : CrossingEvent) :
    Multiset.card (pending sim) +
      (startsOf (ops (crossingHandleEvent (sim.crossings i) event))).length ≤
        maxPendingEvents := by
  have hout := outcome (sim.crossings i) event
  have hone := (outcome_starts hout).1
  rcases Nat.eq_zero_or_pos (startsOf (ops (crossingHandleEvent (sim.crossings i) event))).length
    with hzero | hpos
  · rw [hzero]
    exact card_pending_le sim
  · obtain ⟨id, hid⟩ := List.exists_mem_of_length_pos hpos
    have hroom := h.room ((needed_iff_waiting (h.crossings i) id).not.mpr
      (not_waiting_of_start hout hid))
    omega

theorem SimInv.handled {sim sim' : RailSim} (h : SimInv sim) {i : Fin 3} {event : CrossingEvent}
    {m : Multiset SimEvent}
    (hcrossings : sim'.crossings =
      Function.update sim.crossings i (crossingHandleEvent (sim.crossings i) event).cx)
    (hlost : sim'.lost = sim.lost) (hpending : pending sim' = afterHandler sim i event m)
    (hle : m ≤ pending sim)
    (hkept : ∀ i' id, (∀ gen, ¬ (i' = i ∧ event = .timer id gen)) →
      timersOf i' id m = timersOf i' id (pending sim))
    (hfired : ∀ id gen, event = .timer id gen →
      gen = (sim.crossings i).timerGen id ∧ timersOf i id m = 0 ∧
        Needed (sim.crossings i) id) :
    SimInv sim' := by
  have hout := outcome (sim.crossings i) event
  -- the timer that fires is one the crossing waits for, which is all its invariant asks
  have hcx : CxInv (crossingHandleEvent (sim.crossings i) event).cx := by
    apply (h.crossings i).outcome hout
    intro gen hevent _ _
    exact (hfired _ gen hevent).2.2
  constructor
  · intro i'
    rw [hcrossings]
    by_cases hi : i' = i
    · rw [hi, Function.update_self]
      have hsite := (onSite (sim.crossings i) event).1
      have hid := congrArg Prod.fst hsite
      exact hid.trans (h.ids i)
    · rw [Function.update_of_ne hi]
      exact h.ids i'
  · intro i'
    rw [hcrossings]
    by_cases hi : i' = i
    · rw [hi, Function.update_self]
      exact hcx
    · rw [Function.update_of_ne hi]
      exact h.crossings i'
  · intro i' id
    rw [hcrossings, hpending]
    by_cases hi : i' = i
    · subst hi
      rw [Function.update_self]
      apply exact_outcome (h.crossings i') hcx hout
      · intro gen hevent
        exact ⟨(hfired id gen hevent).1, (hfired id gen hevent).2.1⟩
      · intro hother
        have hsame := hkept i' id fun gen hown => hother gen hown.2
        have hexact := h.timers i' id
        rw [Exact, hsame]
        exact hexact
    · rw [Function.update_of_ne hi, Exact, afterHandler, timersOf_afterOps_other hi,
        hkept i' id fun gen hown => hi hown.1]
      exact h.timers i' id
  · rw [hpending]
    intro ev hev
    rcases mem_afterOps hev with hold | htimer
    · exact h.kinds ev (Multiset.mem_of_le hle hold)
    · exact .inl htimer
  · have htrains : trainsOf (pending sim') = trainsOf m := by
      rw [hpending]
      exact trains_afterOps m
    have hcard :=
      Multiset.card_le_card (Multiset.filter_le_filter (fun ev => isTrain ev = true) hle)
    rw [htrains]
    exact (Nat.add_le_add_right hcard _).trans h.trains
  · exact hlost.trans h.lost

theorem SimInv.handle {sim : RailSim} (h : SimInv sim) (i : Fin 3) {event : CrossingEvent}
    (hevent : ∀ id gen, event ≠ .timer id gen) : SimInv (handle sim i event) := by
  obtain ⟨hlost, hpending⟩ := handle_pending (h.room_outcome i event)
  exact h.handled (handle_frame sim i event).1 hlost hpending le_rfl (fun _ _ _ => rfl)
    fun id gen hown => absurd hown (hevent id gen)

theorem SimInv.congr {sim sim' : RailSim} (h : SimInv sim)
    (hcrossings : sim'.crossings = sim.crossings) (hevents : sim'.events = sim.events)
    (hlost : sim'.lost = sim.lost) : SimInv sim' := by
  have hpending : pending sim' = pending sim := congrArg bag hevents
  constructor
  · rw [hcrossings]
    exact h.ids
  · rw [hcrossings]
    exact h.crossings
  · rw [hcrossings, hpending]
    exact h.timers
  · rw [hpending]
    exact h.kinds
  · rw [hpending]
    exact h.trains
  · exact hlost.trans h.lost

theorem SimInv.visitGate {sim : RailSim} (h : SimInv sim) (i : Fin 3) :
    SimInv (visitGate sim i) := by
  have htaken : SimInv (gateTaken sim i) := h.congr rfl rfl rfl
  rcases visitGate_cases sim i with ⟨-, hvisit⟩ | ⟨-, hvisit⟩ | ⟨event, hreports, hvisit⟩
  · rw [hvisit]
    exact h
  · rw [hvisit]
    exact htaken
  · rw [hvisit]
    apply htaken.handle i
    rcases hreports.kind with rfl | rfl <;> simp

theorem SimInv.timer_current {sim : RailSim} (h : SimInv sim) {ev : SimEvent}
    (hev : ev ∈ pending sim) {id : TimerId} {gen : UInt32} (hevent : ev.event = .timer id gen) :
    gen = (sim.crossings ev.crossing).timerGen id ∧ Needed (sim.crossings ev.crossing) id ∧
      timersOf ev.crossing id (pending sim) = {ev} := by
  have hmem : ev ∈ timersOf ev.crossing id (pending sim) :=
    Multiset.mem_filter.mpr ⟨hev, by simp [timerOf, hevent]⟩
  obtain ⟨hneeded, hidle⟩ := h.timers ev.crossing id
  by_cases hneed : Needed (sim.crossings ev.crossing) id
  · obtain ⟨due, hdue⟩ := hneeded hneed
    have heq := Multiset.mem_singleton.mp (hdue ▸ hmem)
    rw [hdue, heq]
    rw [heq] at hevent
    cases hevent
    exact ⟨rfl, by rw [heq] at hneed; exact hneed, rfl⟩
  · rw [hidle hneed] at hmem
    exact absurd hmem (Multiset.notMem_zero ev)

theorem SimInv.visitSlot {sim : RailSim} (h : SimInv sim) (k : Fin maxPendingEvents) :
    SimInv (visitSlot sim k) := by
  unfold RailSimulator.visitSlot
  split
  · rename_i ev hk
    split
    · have hroom := h.room_outcome ev.crossing ev.event
      obtain ⟨rest, hrest, hbag⟩ := deliver_pending hk hroom
      have hlost := (handle_pending hroom).1
      have hev : ev ∈ pending sim := hrest ▸ Multiset.mem_cons_self ev rest
      refine @SimInv.handled sim _ h ev.crossing ev.event rest
        (handle_frame sim ev.crossing ev.event).1 hlost hbag ?_ ?_ ?_
      · rw [hrest]
        exact Multiset.le_cons_self rest ev
      · intro i' id hother
        rw [hrest]
        refine (timersOf_cons_other (fun htimer => ?_) rest).symm
        cases hevent : ev.event with
        | timer id' gen =>
            simp only [timerOf, hevent, Option.some.injEq, Prod.mk.injEq] at htimer
            exact hother gen ⟨htimer.1.symm, by rw [hevent, htimer.2]⟩
        | _ => simp [timerOf, hevent] at htimer
      · intro id gen hevent
        obtain ⟨hgen, hneed, hone⟩ := h.timer_current hev hevent
        refine ⟨hgen, ?_, hneed⟩
        have hown : timerOf ev = some (ev.crossing, id) := by simp [timerOf, hevent]
        rw [hrest, timersOf_cons_own hown, ← Multiset.cons_zero] at hone
        exact (Multiset.cons_inj_right ev).mp hone
    · exact h
  · exact h

theorem SimInv.tick {sim : RailSim} (h : SimInv sim) : SimInv (railSimTick sim) := by
  have hadvance : SimInv (advance sim) := h.congr rfl rfl rfl
  have hgates : SimInv (sweep RailSimulator.visitGate (advance sim)) :=
    sweep_invariant (fun _ i hs => hs.visitGate i) hadvance
  exact sweep_invariant (fun _ k hs => hs.visitSlot k) hgates

theorem toEvent_train {now : Int} {p : Planned} {dir : TrackDirection}
    (h : trainDir p.event = some dir) :
    isTrain (p.toEvent now) = true ∧ timerOf (p.toEvent now) = none := by
  cases hevent : p.event <;>
    simp_all [isTrain, timerOf, Planned.toEvent, trainDir]

theorem timersOf_plan {sim : RailSim} {request : SimRequest} (now : Int) (i : Fin 3)
    (id : TimerId) :
    timersOf i id ((requestPlan sim request).map (Planned.toEvent now) : Multiset SimEvent) =
      0 := by
  rw [Multiset.eq_zero_iff_forall_notMem]
  intro ev hev
  obtain ⟨hmem, htimer⟩ := Multiset.mem_filter.mp hev
  obtain ⟨p, hp, rfl⟩ := List.mem_map.mp (Multiset.mem_coe.mp hmem)
  obtain ⟨dir, hdir⟩ := mem_requestPlan hp
  rw [(toEvent_train hdir).2] at htimer
  cases htimer

theorem pending_queueAll {sim : RailSim} {request : SimRequest}
    (hroom : (requestPlan sim request).length + timerEventReserve ≤ freeSlots sim.events) :
    (queueAll sim (requestPlan sim request)).lost = sim.lost ∧
      pending (queueAll sim (requestPlan sim request)) =
        ((requestPlan sim request).map (Planned.toEvent sim.simTimeMs) : Multiset SimEvent) +
          pending sim := by
  have hcard := card_bag sim.events
  rw [show bag sim.events = pending sim from rfl] at hcard
  exact queueAll_pending (by omega)

theorem timersOf_queueAll {sim : RailSim} {request : SimRequest}
    (hroom : (requestPlan sim request).length + timerEventReserve ≤ freeSlots sim.events)
    (i : Fin 3) (id : TimerId) :
    timersOf i id (pending (queueAll sim (requestPlan sim request))) =
      timersOf i id (pending sim) := by
  rw [(pending_queueAll hroom).2, timersOf, Multiset.filter_add]
  exact (congrArg (· + _) (timersOf_plan sim.simTimeMs i id)).trans (zero_add _)

theorem SimInv.queueAll {sim : RailSim} (h : SimInv sim) {request : SimRequest}
    (hroom : (requestPlan sim request).length + timerEventReserve ≤ freeSlots sim.events) :
    SimInv (queueAll sim (requestPlan sim request)) := by
  have hcard := card_bag sim.events
  rw [show bag sim.events = pending sim from rfl] at hcard
  obtain ⟨hlost, hpending⟩ := pending_queueAll hroom
  have hclock := sameClock_queueAll (requestPlan sim request) sim
  have hplan : ∀ ev ∈ ((requestPlan sim request).map (Planned.toEvent sim.simTimeMs) :
      Multiset SimEvent), isTrain ev = true := by
    intro ev hev
    obtain ⟨p, hp, rfl⟩ := List.mem_map.mp (Multiset.mem_coe.mp hev)
    obtain ⟨dir, hdir⟩ := mem_requestPlan hp
    exact (toEvent_train hdir).1
  constructor
  · rw [hclock.crossings]
    exact h.ids
  · rw [hclock.crossings]
    exact h.crossings
  · intro i id
    rw [hclock.crossings, Exact, timersOf_queueAll hroom]
    exact h.timers i id
  · rw [hpending]
    intro ev hev
    rcases Multiset.mem_add.mp hev with hnew | hold
    · exact .inr (hplan ev hnew)
    · exact h.kinds ev hold
  · have htrains := Multiset.card_le_card
      (Multiset.filter_le (fun ev => isTrain ev = true) (pending sim))
    rw [hpending, trainsOf, Multiset.filter_add, Multiset.card_add,
      Multiset.filter_eq_self.mpr hplan, Multiset.coe_card, List.length_map]
    omega
  · exact hlost.trans h.lost

theorem SimInv.command {sim sim' : RailSim} {request : SimRequest} {ok : Bool} (h : SimInv sim)
    (heffect : CommandEffect sim request sim' ok) : SimInv sim' := by
  cases heffect with
  | unchanged => exact h
  | event i hrequest =>
      apply h.handle i
      rcases (requestEvent_cases hrequest).1 with rfl | rfl <;> simp
  | scale => exact h.congr rfl rfl rfl
  | trains _ hroom => exact h.queueAll hroom

theorem SimInv.step {sim : RailSim} (h : SimInv sim) (step : SimStep) :
    SimInv (simStep sim step) := by
  cases step with
  | tick => exact h.tick
  | command cmd => exact h.command (commandEffect sim (requestOf cmd))

theorem siminv_reachable {sim : RailSim} (h : Reachable SimStart simStep sim) : SimInv sim := by
  apply Reachable.invariant _ _ h
  · exact fun _ => siminv_start
  · exact fun _ step hs => hs.step step

/-- Between calls the active timers are exactly the needed ones, each once and
current, no event was ever refused by the table, and a train command queues
nothing or all events of its trains. -/
theorem timers_exact {sim : RailSim} (h : Reachable SimStart simStep sim) :
    (∀ i id, (bag sim.events).countP (fun ev => timerOf ev = some (i, id)) =
        if Needed (sim.crossings i) id then 1 else 0) ∧
      (∀ ev ∈ bag sim.events, ∀ id gen, ev.event = .timer id gen →
        gen = (sim.crossings ev.crossing).timerGen id) ∧
      sim.lost = 0 ∧
      ∀ cmd n, trainEventCount (requestOf cmd) = some n →
        let result := railSimCommand sim cmd
        (result.ok = false → result.sim = sim) ∧
          (result.ok = true → ∃ queued : Multiset SimEvent,
            Multiset.card queued = n ∧ (∀ ev ∈ queued, (trainDir ev.event).isSome) ∧
              bag result.sim.events = queued + bag sim.events) := by
  have hinv := siminv_reachable h
  refine ⟨?_, ?_, hinv.lost, ?_⟩
  · intro i id
    rw [Multiset.countP_eq_card_filter]
    obtain ⟨hneeded, hidle⟩ := hinv.timers i id
    split
    · rename_i hneed
      obtain ⟨due, hdue⟩ := hneeded hneed
      exact congrArg Multiset.card hdue
    · rename_i hneed
      exact congrArg Multiset.card (hidle hneed)
  · intro ev hev id gen hevent
    exact (hinv.timer_current hev hevent).1
  · intro cmd n hcount
    have heffect := commandEffect sim (requestOf cmd)
    dsimp only [railSimCommand]
    generalize (perform sim (requestOf cmd)).sim = sim' at heffect
    generalize (perform sim (requestOf cmd)).ok = ok at heffect
    cases heffect with
    | unchanged _ htrain =>
        refine ⟨fun _ => rfl, fun hok => ?_⟩
        rw [htrain (by simp [hcount])] at hok
        cases hok
    | event _ hrequest =>
        rw [(requestEvent_cases hrequest).2] at hcount
        cases hcount
    | scale _ _ hrequest =>
        rw [hrequest] at hcount
        cases hcount
    | trains hlength hroom =>
        refine ⟨(nomatch ·), fun _ => ?_⟩
        refine ⟨_, ?_, ?_, (pending_queueAll hroom).2⟩
        · rw [Multiset.coe_card, List.length_map]
          rw [hlength] at hcount
          exact Option.some.inj hcount
        · intro ev hev
          obtain ⟨p, hp, rfl⟩ := List.mem_map.mp (Multiset.mem_coe.mp hev)
          obtain ⟨dir, hdir⟩ := mem_requestPlan hp
          exact (toEvent_train hdir).1

/-- A train at P1, one tick later: the close delay runs. -/
theorem timers_exact_train :
    let sim := run simStep trainControllerStart
      [.command (ascii ['t', 'r', 'a', 'i', 'n', ' ', 'P', '1', ' ', 'u', 'p']), .tick]
    (bag sim.events).countP (fun ev => timerOf ev = some (0, .gateCloseDelay)) = 1 ∧
      sim.lost = 0 := by
  have h := timers_exact (Reachable.run (.init simStart_trainController)
    [.command (ascii ['t', 'r', 'a', 'i', 'n', ' ', 'P', '1', ' ', 'u', 'p']), .tick])
  exact ⟨(h.1 0 .gateCloseDelay).trans (by decide +kernel), h.2.2.1⟩

end TrafficLight.SimInvariant
