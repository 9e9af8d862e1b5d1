import TrafficLight.CrossingInvariant
import TrafficLight.SimCommands
import TrafficLight.StaleTimers

namespace TrafficLight.SimPending

open TrafficLight.Protocol
open TrafficLight.CrossingMachine
open TrafficLight.CrossingOutcomes
open TrafficLight.CrossingCalls
open TrafficLight.CrossingRuns
open TrafficLight.CrossingInvariant
open TrafficLight.StaleTimers
open TrafficLight.Slots
open TrafficLight.RailSimulator
open TrafficLight.SimCommands

/-- The active events. -/
def pending (sim : RailSim) : Multiset SimEvent := bag sim.events

theorem pending_start {sim : RailSim} (h : SimStart sim) : pending sim = 0 := by
  obtain ⟨names, locals, timeScale, layout, rfl⟩ := h
  exact bag_vacant

/-- The pending events after one callback at the given time. -/
def afterOp (now : Int) (i : Fin 3) (gen : TimerId → UInt32) (m : Multiset SimEvent) :
    CxOp → Multiset SimEvent
  | .startTimer id seconds => ⟨now + secToSimMs seconds, i, .timer id (gen id)⟩ ::ₘ m
  | .cancelTimer id => m.filter fun ev => timerOf ev ≠ some (i, id)
  | _ => m

def afterOps (now : Int) (i : Fin 3) (gen : TimerId → UInt32) (m : Multiset SimEvent)
    (os : List CxOp) : Multiset SimEvent :=
  os.foldl (afterOp now i gen) m

theorem queueEvent_of_room {sim : RailSim} (hroom : Multiset.card (pending sim) < maxPendingEvents)
    (i : Fin 3) (event : CrossingEvent) (delaySec : Int) :
    ∃ k, firstFree sim.events = some k ∧ queueEvent sim i event delaySec =
      { sim with
        events := setSlot sim.events k
          (some ⟨sim.simTimeMs + secToSimMs delaySec, i, event⟩) } := by
  obtain ⟨k, hfree, hpush⟩ :=
    @push_isSome _ _ sim.events ⟨sim.simTimeMs + secToSimMs delaySec, i, event⟩ hroom
  exact ⟨k, hfree, by rw [queueEvent, hpush]⟩

/-- What every callback leaves alone. -/
structure SameClock (sim sim' : RailSim) : Prop where
  crossings : sim'.crossings = sim.crossings
  timeScale : sim'.timeScale = sim.timeScale
  simTimeMs : sim'.simTimeMs = sim.simTimeMs
  layout : sim'.layout = sim.layout
  delivered : sim'.delivered = sim.delivered

theorem SameClock.refl (sim : RailSim) : SameClock sim sim :=
  ⟨rfl, rfl, rfl, rfl, rfl⟩

theorem SameClock.trans {a b c : RailSim} (h : SameClock a b) (h' : SameClock b c) :
    SameClock a c :=
  ⟨h'.crossings.trans h.crossings, h'.timeScale.trans h.timeScale,
    h'.simTimeMs.trans h.simTimeMs, h'.layout.trans h.layout, h'.delivered.trans h.delivered⟩

theorem sameClock_queueEvent (sim : RailSim) (i : Fin 3) (event : CrossingEvent)
    (delaySec : Int) : SameClock sim (queueEvent sim i event delaySec) := by
  unfold queueEvent
  split <;> exact ⟨rfl, rfl, rfl, rfl, rfl⟩

theorem sameClock_applyCall (i : Fin 3) (sim : RailSim) (call : CxCall) :
    SameClock sim (applyCall i sim call) := by
  unfold applyCall
  split
  · unfold railSimGateCommand
    split <;> exact ⟨rfl, rfl, rfl, rfl, rfl⟩
  · exact sameClock_queueEvent _ _ _ _
  · exact ⟨rfl, rfl, rfl, rfl, rfl⟩
  · exact SameClock.refl sim

theorem sameClock_applyCalls (i : Fin 3) (calls : List CxCall) (sim : RailSim) :
    SameClock sim (calls.foldl (applyCall i) sim) := by
  induction calls generalizing sim with
  | nil => exact SameClock.refl sim
  | cons call calls ih => exact (sameClock_applyCall i sim call).trans (ih _)

/-- The callbacks act on the bag one after the other, as long as a started
timer finds a free slot. -/
theorem applyCalls_pending {i : Fin 3} {gen : TimerId → UInt32} {calls : List CxCall}
    (hgen : ∀ call ∈ calls, ∀ id seconds, call.op = .startTimer id seconds →
      call.cx.timerGen id = gen id) {sim : RailSim}
    (hroom : Multiset.card (pending sim) + (startsOf (calls.map CxCall.op)).length ≤
      maxPendingEvents) :
    (calls.foldl (applyCall i) sim).lost = sim.lost ∧
      pending (calls.foldl (applyCall i) sim) =
        afterOps sim.simTimeMs i gen (pending sim) (calls.map CxCall.op) := by
  -- the room for the starts that are still to come goes along with the induction
  induction calls generalizing sim with
  | nil => exact ⟨rfl, rfl⟩
  | cons call calls ih =>
      have hclock := sameClock_applyCall i sim call
      have hrest : ∀ later ∈ calls, ∀ id seconds, later.op = .startTimer id seconds →
          later.cx.timerGen id = gen id := fun later hlater => hgen later (.tail _ hlater)
      have hstep : (applyCall i sim call).lost = sim.lost ∧
          pending (applyCall i sim call) = afterOp sim.simTimeMs i gen (pending sim) call.op ∧
          Multiset.card (pending (applyCall i sim call)) +
            (startsOf (calls.map CxCall.op)).length ≤ maxPendingEvents := by
        simp only [List.map_cons, startsOf_cons, List.length_append] at hroom
        cases hop : call.op with
        | startTimer id seconds =>
            simp only [hop, List.length_singleton] at hroom
            have hfits : Multiset.card (pending sim) < maxPendingEvents := by omega
            obtain ⟨k, hfree, hqueue⟩ := queueEvent_of_room hfits i
              (.timer id (call.cx.timerGen id)) seconds
            have hcall : applyCall i sim call = queueEvent sim i
                (.timer id (call.cx.timerGen id)) seconds := by
              simp only [applyCall, hop, railSimStartTimer]
            have hbag : pending (applyCall i sim call) =
                afterOp sim.simTimeMs i gen (pending sim) (.startTimer id seconds) := by
              rw [hcall, hqueue, hgen call List.mem_cons_self id seconds hop]
              exact bag_fill (firstFree_free hfree) _
            refine ⟨by rw [hcall, hqueue], hbag, ?_⟩
            rw [hbag, afterOp, Multiset.card_cons]
            omega
        | cancelTimer id =>
            have hbag : pending (applyCall i sim call) =
                afterOp sim.simTimeMs i gen (pending sim) (.cancelTimer id) := by
              simp only [applyCall, hop, railSimCancelTimer, pending, afterOp]
              rw [bag_remove]
              simp
            refine ⟨by simp only [applyCall, hop, railSimCancelTimer], hbag, ?_⟩
            have hle : Multiset.card (pending (applyCall i sim call)) ≤
                Multiset.card (pending sim) := by
              rw [hbag]
              exact Multiset.card_le_card (Multiset.filter_le _ _)
            omega
        | gateCommand cmd =>
            have hcall : applyCall i sim call = railSimGateCommand sim call.cx := by
              simp only [applyCall, hop]
            rw [hcall]
            simp only [hop] at hroom
            unfold railSimGateCommand
            split <;> exact ⟨rfl, rfl, by simpa [pending] using hroom⟩
        | setFlash | sendPreempt | sendClear | faultAlert | stateChanged =>
            have hcall : applyCall i sim call = sim := by simp only [applyCall, hop]
            rw [hcall]
            exact ⟨rfl, rfl, by simpa [hop] using hroom⟩
      obtain ⟨hlost, hbag, hroom'⟩ := hstep
      obtain ⟨hlost', hbag'⟩ := ih hrest hroom'
      refine ⟨hlost'.trans hlost, ?_⟩
      rw [List.foldl_cons, hbag', hclock.simTimeMs, hbag]
      rfl

theorem applyCalls_taken {i : Fin 3} {calls : List CxCall} {sim : RailSim}
    {k : Fin maxPendingEvents} {ev : SimEvent} (hk : sim.events k = some ev)
    (hkept : ∀ id, timerOf ev = some (i, id) → .cancelTimer id ∉ calls.map CxCall.op) :
    (calls.foldl (applyCall i) sim).events k = some ev := by
  induction calls generalizing sim with
  | nil => exact hk
  | cons call calls ih =>
      refine ih ?_ fun id hid hmem => hkept id hid (.tail _ hmem)
      cases hop : call.op with
      | startTimer id seconds =>
          simp only [applyCall, hop, railSimStartTimer, queueEvent]
          split
          · rename_i hpush
            exact push_taken hpush hk
          · exact hk
      | cancelTimer id =>
          have hother : timerOf ev ≠ some (i, id) :=
            fun hid => hkept id hid (by simp [hop])
          simp [applyCall, hop, railSimCancelTimer, remove, hk, hother]
      | gateCommand cmd =>
          simp only [applyCall, hop, railSimGateCommand]
          split <;> exact hk
      | _ => simpa only [applyCall, hop] using hk

theorem applyCalls_free {i : Fin 3} {calls : List CxCall}
    (hstarts : startsOf (calls.map CxCall.op) = []) {sim : RailSim} {k : Fin maxPendingEvents}
    (hk : sim.events k = none) : (calls.foldl (applyCall i) sim).events k = none := by
  induction calls generalizing sim with
  | nil => exact hk
  | cons call calls ih =>
      rw [List.map_cons, startsOf_cons, List.append_eq_nil_iff] at hstarts
      refine ih hstarts.2 ?_
      cases hop : call.op with
      | startTimer id seconds => simp [hop] at hstarts
      | cancelTimer id => simp [applyCall, hop, railSimCancelTimer, remove, hk]
      | gateCommand cmd =>
          simp only [applyCall, hop, railSimGateCommand]
          split <;> exact hk
      | _ => simpa only [applyCall, hop] using hk

theorem applyCalls_canceled {i : Fin 3} {calls : List CxCall} {id : TimerId}
    (hstarts : startsOf (calls.map CxCall.op) = [])
    (hcancel : .cancelTimer id ∈ calls.map CxCall.op) {sim : RailSim}
    {k : Fin maxPendingEvents} {ev : SimEvent} (hk : sim.events k = some ev)
    (hid : timerOf ev = some (i, id)) :
    (calls.foldl (applyCall i) sim).events k = none := by
  induction calls generalizing sim with
  | nil => cases hcancel
  | cons call calls ih =>
      have hrest := hstarts
      rw [List.map_cons, startsOf_cons, List.append_eq_nil_iff] at hrest
      by_cases hop : call.op = .cancelTimer id
      · apply applyCalls_free hrest.2
        simp [applyCall, hop, railSimCancelTimer, remove, hk, hid]
      · have hlater : .cancelTimer id ∈ calls.map CxCall.op := by
          rcases List.mem_cons.mp hcancel with hhead | htail
          · exact absurd hhead.symm hop
          · exact htail
        apply ih hrest.2 hlater
        apply @applyCalls_taken i [call] sim k ev hk
        intro id' hid' hmem
        rw [hid, Option.some.injEq, Prod.mk.injEq] at hid'
        rw [← hid'.2] at hmem
        exact hop (List.mem_singleton.mp hmem).symm

theorem handle_frame (sim : RailSim) (i : Fin 3) (event : CrossingEvent) :
    (handle sim i event).crossings =
        Function.update sim.crossings i (crossingHandleEvent (sim.crossings i) event).cx ∧
      (handle sim i event).timeScale = sim.timeScale ∧
      (handle sim i event).simTimeMs = sim.simTimeMs ∧
      (handle sim i event).layout = sim.layout ∧
      (handle sim i event).delivered = sim.delivered ++ [⟨i, event, sim.crossings i⟩] := by
  obtain ⟨hcrossings, hscale, htime, hlayout, hdelivered⟩ :=
    sameClock_applyCalls i (crossingHandleEvent (sim.crossings i) event).calls
      { sim with
        crossings := Function.update sim.crossings i
          (crossingHandleEvent (sim.crossings i) event).cx
        delivered := sim.delivered ++ [⟨i, event, sim.crossings i⟩] }
  exact ⟨hcrossings, hscale, htime, hlayout, hdelivered⟩

/-- The callbacks that one handler makes on the pending events. -/
def afterHandler (sim : RailSim) (i : Fin 3) (event : CrossingEvent)
    (m : Multiset SimEvent) : Multiset SimEvent :=
  let h := crossingHandleEvent (sim.crossings i) event
  afterOps sim.simTimeMs i h.cx.timerGen m (ops h)

theorem handle_pending {sim : RailSim} {i : Fin 3} {event : CrossingEvent}
    (hroom : Multiset.card (pending sim) +
      (startsOf (ops (crossingHandleEvent (sim.crossings i) event))).length ≤
        maxPendingEvents) :
    (handle sim i event).lost = sim.lost ∧
      pending (handle sim i event) = afterHandler sim i event (pending sim) := by
  apply @applyCalls_pending i (crossingHandleEvent (sim.crossings i) event).cx.timerGen
  · intro call hcall id seconds hop
    exact (settled (sim.crossings i) event call hcall).2 id seconds hop
  · exact hroom

/-- The gate moves. -/
def Moves (cx : Crossing) : Prop := cx.gate = .closing ∨ cx.gate = .opening

instance (cx : Crossing) : Decidable (Moves cx) := inferInstanceAs (Decidable (_ ∨ _))

/-- The simulator once the completion time of a gate is taken. -/
def gateTaken (sim : RailSim) (i : Fin 3) : RailSim :=
  { sim with gates := Function.update sim.gates i none }

/-- What a gate reports when its movement completes. -/
def Reports (cx : Crossing) (event : CrossingEvent) : Prop :=
  (event = .gateClosed ∧ cx.gate = .closing) ∨ (event = .gateOpened ∧ cx.gate = .opening)

theorem visitGate_cases (sim : RailSim) (i : Fin 3) :
    ((∀ due, sim.gates i = some due → sim.simTimeMs < due) ∧ visitGate sim i = sim) ∨
      (¬ Moves (sim.crossings i) ∧ visitGate sim i = gateTaken sim i) ∨
      ∃ event, Reports (sim.crossings i) event ∧
        visitGate sim i = handle (gateTaken sim i) i event := by
  unfold visitGate
  split
  · rename_i due hdue
    split
    · dsimp only
      split
      · rename_i hgate
        exact .inr (.inr ⟨.gateClosed, .inl ⟨rfl, hgate⟩, rfl⟩)
      · rename_i hgate
        exact .inr (.inr ⟨.gateOpened, .inr ⟨rfl, hgate⟩, rfl⟩)
      · rename_i hclosing hopening
        refine .inr (.inl ⟨?_, rfl⟩)
        rintro (hgate | hgate)
        · exact hclosing hgate
        · exact hopening hgate
    · rename_i hnot
      refine .inl ⟨fun due' hdue' => ?_, rfl⟩
      rw [hdue] at hdue'
      rw [← Option.some.inj hdue']
      exact not_le.mp hnot
  · rename_i hnone
    refine .inl ⟨fun due hdue => ?_, rfl⟩
    rw [hnone] at hdue
    cases hdue

theorem Reports.kind {cx : Crossing} {event : CrossingEvent} (h : Reports cx event) :
    event = .gateClosed ∨ event = .gateOpened :=
  h.imp And.left And.left

theorem afterOps_cons {now : Int} {i : Fin 3} {gen : TimerId → UInt32}
    {os : List CxOp} {ev : SimEvent} (m : Multiset SimEvent)
    (hkept : ∀ id, timerOf ev = some (i, id) → .cancelTimer id ∉ os) :
    afterOps now i gen (ev ::ₘ m) os = ev ::ₘ afterOps now i gen m os := by
  induction os generalizing m with
  | nil => rfl
  | cons op os ih =>
      have hrest := ih (afterOp now i gen m op) fun id hid hmem => hkept id hid (.tail _ hmem)
      have hstep : afterOp now i gen (ev ::ₘ m) op = ev ::ₘ afterOp now i gen m op := by
        cases op with
        | startTimer id seconds => exact Multiset.cons_swap _ _ _
        | cancelTimer id =>
            have hother : timerOf ev ≠ some (i, id) :=
              fun hid => hkept id hid List.mem_cons_self
            exact Multiset.filter_cons_of_pos _ hother
        | _ => rfl
      rw [afterOps, List.foldl_cons, hstep]
      exact hrest

theorem afterOps_canceled {now : Int} {i : Fin 3} {gen : TimerId → UInt32}
    {os : List CxOp} {ev : SimEvent} {id : TimerId} (m : Multiset SimEvent)
    (hid : timerOf ev = some (i, id)) (hcancel : .cancelTimer id ∈ os) :
    afterOps now i gen (ev ::ₘ m) os = afterOps now i gen m os := by
  induction os generalizing m with
  | nil => cases hcancel
  | cons op os ih =>
      by_cases hop : op = .cancelTimer id
      · have hstep : afterOp now i gen (ev ::ₘ m) op = afterOp now i gen m op := by
          rw [hop]
          exact Multiset.filter_cons_of_neg _ (by simpa using hid)
        rw [afterOps, List.foldl_cons, hstep]
        rfl
      · have hlater : .cancelTimer id ∈ os := by
          rcases List.mem_cons.mp hcancel with hhead | htail
          · exact absurd hhead.symm hop
          · exact htail
        have hstep := @afterOps_cons now i gen [op] ev m (by
          intro id' hid' hmem
          rw [hid, Option.some.injEq, Prod.mk.injEq] at hid'
          rw [← hid'.2] at hmem
          exact hop (List.mem_singleton.mp hmem).symm)
        simp only [afterOps, List.foldl_cons, List.foldl_nil] at hstep
        rw [afterOps, List.foldl_cons, hstep]
        exact ih _ hlater

theorem startsOf_own_cancel {cx cx' : Crossing} {id : TimerId} {gen : UInt32} {os : List CxOp}
    (h : Outcome cx (.timer id gen) cx' os) (hcancel : .cancelTimer id ∈ os) :
    startsOf os = [] := by
  cases h with
  | timerClose => simp at hcancel
  | _ => simp

/-- While its event is handled a slot holds that event or nothing; it is freed
only by a handler that starts no timer. -/
theorem handle_slot {sim : RailSim} {k : Fin maxPendingEvents} {ev : SimEvent}
    (hk : sim.events k = some ev) :
    ((handle sim ev.crossing ev.event).events k = some ev ∧
      ∀ id, timerOf ev = some (ev.crossing, id) →
        .cancelTimer id ∉ ops (crossingHandleEvent (sim.crossings ev.crossing) ev.event)) ∨
    ((handle sim ev.crossing ev.event).events k = none ∧
      ∃ id, timerOf ev = some (ev.crossing, id) ∧
        .cancelTimer id ∈ ops (crossingHandleEvent (sim.crossings ev.crossing) ev.event)) := by
  by_cases hown : ∃ id, timerOf ev = some (ev.crossing, id) ∧
      .cancelTimer id ∈ ops (crossingHandleEvent (sim.crossings ev.crossing) ev.event)
  · obtain ⟨id, hid, hcancel⟩ := hown
    have hstarts : startsOf
        (ops (crossingHandleEvent (sim.crossings ev.crossing) ev.event)) = [] := by
      have hout := outcome (sim.crossings ev.crossing) ev.event
      cases hevent : ev.event with
      | timer id' gen =>
          obtain rfl : id' = id := by simpa [timerOf, hevent] using hid
          rw [hevent] at hout hcancel
          exact startsOf_own_cancel hout hcancel
      | _ => simp [timerOf, hevent] at hid
    exact .inr ⟨applyCalls_canceled hstarts hcancel hk hid, id, hid, hcancel⟩
  · simp only [not_exists, not_and] at hown
    exact .inl ⟨applyCalls_taken hk hown, hown⟩

theorem applyCalls_slot {i : Fin 3} {calls : List CxCall} {sim : RailSim}
    {j : Fin maxPendingEvents} {ev : SimEvent}
    (hj : (calls.foldl (applyCall i) sim).events j = some ev) :
    sim.events j = some ev ∨ ∃ id seconds, timerOf ev = some (i, id) ∧
      .startTimer id seconds ∈ calls.map CxCall.op ∧
        ev.deliverAtMs = sim.simTimeMs + secToSimMs seconds := by
  induction calls generalizing sim with
  | nil => exact .inl hj
  | cons call calls ih =>
      rcases ih hj with hold | ⟨id, seconds, hid, hop, hdue⟩
      · cases hop : call.op with
        | startTimer id seconds =>
            simp only [applyCall, hop, railSimStartTimer, queueEvent] at hold
            split at hold
            · rename_i events hpush
              rcases push_slot hpush hold with hbefore | rfl
              · exact .inl hbefore
              · exact .inr ⟨id, seconds, rfl, by simp [hop], rfl⟩
            · exact .inl hold
        | cancelTimer id =>
            simp only [applyCall, hop, railSimCancelTimer, remove] at hold
            exact .inl (Option.filter_eq_some_iff.mp hold).1
        | gateCommand cmd =>
            simp only [applyCall, hop, railSimGateCommand] at hold
            split at hold <;> exact .inl hold
        | _ => exact .inl (by simpa only [applyCall, hop] using hold)
      · rw [(sameClock_applyCall i sim call).simTimeMs] at hdue
        exact .inr ⟨id, seconds, hid, .tail _ hop, hdue⟩

/-- Delivering a slot takes its event out of the table and does to the others
what the handler's callbacks say. -/
theorem deliver_pending {sim : RailSim} {k : Fin maxPendingEvents} {ev : SimEvent}
    (hk : sim.events k = some ev)
    (hroom : Multiset.card (pending sim) +
      (startsOf (ops (crossingHandleEvent (sim.crossings ev.crossing) ev.event))).length ≤
        maxPendingEvents) :
    ∃ rest, pending sim = ev ::ₘ rest ∧
      bag (setSlot (handle sim ev.crossing ev.event).events k none) =
        afterHandler sim ev.crossing ev.event rest := by
  refine ⟨bag (setSlot sim.events k none), (bag_free hk).symm, ?_⟩
  obtain ⟨-, hpending⟩ := handle_pending hroom
  rw [show pending sim = _ from (bag_free hk).symm] at hpending
  rcases handle_slot hk with ⟨hheld, hkept⟩ | ⟨hfreed, id, hid, hcancel⟩
  · have hcons := bag_free hheld
    rw [show bag _ = _ from hpending, afterHandler, afterOps_cons _ hkept] at hcons
    exact (Multiset.cons_inj_right ev).mp hcons
  · rw [setSlot_self hfreed, afterHandler, ← afterOps_canceled _ hid hcancel]
    exact hpending

end TrafficLight.SimPending
