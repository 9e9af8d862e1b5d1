import TrafficLight.TrainOutbox

namespace TrafficLight.RailwayNetwork

open TrafficLight.Runs
open TrafficLight.Protocol
open TrafficLight.RingQueue
open TrafficLight.CrossingMachine
open TrafficLight.CrossingCalls
open TrafficLight.LocalCore
open TrafficLight.LocalData
open TrafficLight.LocalSafety
open TrafficLight.LocalProfile
open TrafficLight.LocalCommands
open TrafficLight.RailwayHold
open TrafficLight.RailwayLink
open TrafficLight.TrainOutbox

variable {n : Network}

/-- The frames on their way to a Local. -/
def pendingFor (index : Fin 6) (n : Network) : List TestMessage :=
  framesOf index (n.hand.toList ++ n.outbox.ring.view)

/-- A crossing and a Local with what is on its way between them. -/
def linkView (k : Fin 3) (index : Fin 6) (n : Network) : Link :=
  ⟨n.cx k, pendingFor index n, n.loc index⟩

/-- The step drops no entry and loses no frame for a Local, and nobody clears
the train or resets the Local at its console. -/
def lossless (n : Network) : NetworkStep → Bool
  | .crossing k event stamp =>
      n.outbox.ring.count + (eventEntries n k event stamp).length ≤ outboxCapacity
  | .deliver sent _ =>
      match n.hand with
      | some (.railway item) => (linkFor n.connected (.railway item)).isSome && sent.arrives
      | _ => true
  | .loc index op => !clears (n.loc index) op && !resets op
  | _ => true

theorem crossingAt_mem (k : Fin 3) : crossingAt k ∈ crossings := List.get_mem crossings k

theorem framesOf_map_railway (index : Fin 6) (items : List OutboxItem) :
    framesOf index (items.map .railway) = framesFor index items := by
  unfold framesOf framesFor
  rw [List.filterMap_map]
  rfl

theorem framesOf_callEntries (index : Fin 6) (stamp : Stamp) (call : CxCall) :
    framesOf index (callEntries stamp call) = framesFor index (callItems stamp call) := by
  unfold callEntries
  cases hop : call.op with
  | faultAlert fault => simp [callItems, hop, framesFor]
  | _ => exact framesOf_map_railway index _

theorem framesOf_calls (index : Fin 6) (stamp : Stamp) (calls : List CxCall) :
    framesOf index (calls.flatMap (callEntries stamp)) =
      framesFor index (calls.flatMap (callItems stamp)) := by
  induction calls with
  | nil => rfl
  | cons call calls ih =>
      rw [List.flatMap_cons, List.flatMap_cons, framesOf_append, framesFor_append,
        framesOf_callEntries, ih]

theorem framesFor_queue_other {cx : Crossing} {k : Fin 3} (hsite : site cx = site (crossingAt k))
    {index : Fin 6} (hother : index.val / 2 ≠ k.val) (type : UInt16) (stamp : Stamp) :
    framesFor index (queueRailwayMessage cx type stamp) = [] := by
  simp only [site, Prod.mk.injEq] at hsite
  obtain ⟨-, hlocal1, hlocal2⟩ := hsite
  unfold queueRailwayMessage framesFor
  rw [hlocal1, hlocal2]
  fin_cases k <;> fin_cases index <;>
    simp_all [crossingAt, crossings, crossingInit, numIntersections]

theorem framesFor_calls_other {k : Fin 3} {calls : List CxCall}
    (hsite : ∀ call ∈ calls, site call.cx = site (crossingAt k)) {index : Fin 6}
    (hother : index.val / 2 ≠ k.val) (stamp : Stamp) :
    framesFor index (calls.flatMap (callItems stamp)) = [] := by
  induction calls with
  | nil => rfl
  | cons call calls ih =>
      rw [List.forall_mem_cons] at hsite
      have hqueue := fun type => framesFor_queue_other hsite.1 hother type stamp
      rw [List.flatMap_cons, framesFor_append, ih hsite.2, List.append_nil]
      unfold callItems
      split
      · exact hqueue msgRailwayPreempt
      · exact hqueue msgTrainClear
      · rfl

theorem view_pushAll {o : Outbox} {entries : List Entry}
    (h : o.ring.count + entries.length ≤ outboxCapacity) :
    (entries.foldl outboxPush o).ring.view = o.ring.view ++ entries ∧
      (entries.foldl outboxPush o).ring.count = o.ring.count + entries.length := by
  induction entries generalizing o with
  | nil => exact ⟨(List.append_nil _).symm, rfl⟩
  | cons entry entries ih =>
      rw [List.length_cons] at h
      have hroom : o.ring.count < outboxCapacity := by omega
      have hpush : outboxPush o entry = { o with ring := o.ring.append entry } := if_pos hroom
      have hcount : (o.ring.append entry).count = o.ring.count + 1 := Ring.append_count _ _
      rw [List.foldl_cons, hpush]
      obtain ⟨hview, hlast⟩ := @ih { o with ring := o.ring.append entry } (by
        show (o.ring.append entry).count + _ ≤ _
        omega)
      rw [hview, hlast]
      refine ⟨?_, ?_⟩
      · show (o.ring.append entry).view ++ entries = _
        rw [Ring.view_append entry hroom, List.append_assoc]
        rfl
      · show (o.ring.append entry).count + _ = _
        rw [hcount, List.length_cons]
        omega

/-- The Locals are themselves, the crossings are at their sites and the outbox
has no more entries than it can hold. -/
structure Placed (n : Network) : Prop where
  bounded : n.outbox.ring.count ≤ outboxCapacity
  ids : ∀ index, (n.loc index).intersectionId = index
  sites : ∀ k, site (n.cx k) = site (crossingAt k)

theorem pendingFor_pushAll {entries : List Entry} {cx : Fin 3 → Crossing}
    (h : n.outbox.ring.count + entries.length ≤ outboxCapacity) (index : Fin 6) :
    pendingFor index (pushAll { n with cx } entries) =
      pendingFor index n ++ framesOf index entries := by
  unfold pendingFor
  show framesOf index (n.hand.toList ++ (entries.foldl outboxPush n.outbox).ring.view) = _
  rw [(view_pushAll h).1, ← List.append_assoc, framesOf_append]

theorem pendingFor_takeEntry (index : Fin 6) (n : Network) :
    pendingFor index (takeEntry n) = pendingFor index n := by
  unfold takeEntry
  split
  · rfl
  · rename_i hidle
    rw [not_or, Option.not_isSome_iff_eq_none] at hidle
    obtain ⟨hhand, hcount⟩ := hidle
    unfold pendingFor
    rw [hhand, Ring.view_pop (Nat.pos_of_ne_zero hcount)]
    rfl

theorem pendingFor_deliver (index : Fin 6) (n : Network) (sent : Sent) (draws : Draws) :
    pendingFor index n =
      framesOf index n.hand.toList ++ pendingFor index (deliver n sent draws) := by
  obtain ⟨-, houtbox, hhand, -⟩ := deliver_record n sent draws
  unfold pendingFor
  rw [houtbox, hhand, framesOf_append]
  rfl

theorem framesOf_lossless {sent : Sent} {draws : Draws}
    (h : lossless n (.deliver sent draws) = true) (index : Fin 6) :
    framesOf index (arrivals n sent) = framesOf index n.hand.toList := by
  unfold arrivals
  cases hhand : n.hand with
  | none => rfl
  | some entry =>
      rw [Option.toList_some, List.filter_singleton]
      cases entry with
      | alert frame =>
          rw [Bool.cond_eq_ite]
          split <;> rfl
      | railway item =>
          simp only [lossless, hhand] at h
          rw [h]
          rfl

theorem framesOf_hand (index : Fin 6) (hand : Option Entry) :
    framesOf index hand.toList = [] ∨ ∃ msg, framesOf index hand.toList = [msg] := by
  cases hand with
  | none => exact .inl rfl
  | some entry =>
      cases entry with
      | alert frame => exact .inl rfl
      | railway item =>
          rw [Option.toList_some, framesOf_railway]
          split
          · exact .inr ⟨_, rfl⟩
          · exact .inl rfl

theorem step_simulates (hplaced : Placed n) {step : NetworkStep} (h : lossless n step = true)
    {k : Fin 3} {index : Fin 6} (hindex : index.val / 2 = k.val) :
    ∃ steps, linkView k index (networkStep n step) = run linkStep (linkView k index n) steps ∧
      Along linkStep Unaided (linkView k index n) steps := by
  have hstill : ∀ n', linkView k index n' = linkView k index n →
      ∃ steps, linkView k index n' = run linkStep (linkView k index n) steps ∧
        Along linkStep Unaided (linkView k index n) steps :=
    fun n' hn' => ⟨[], hn', trivial⟩
  cases step with
  | connect c => exact hstill _ rfl
  | lose c => exact hstill _ rfl
  | take =>
      apply hstill
      have htake : (takeEntry n).cx = n.cx ∧ (takeEntry n).loc = n.loc := by
        unfold takeEntry
        split <;> exact ⟨rfl, rfl⟩
      show Link.mk ((takeEntry n).cx k) (pendingFor index (takeEntry n))
        ((takeEntry n).loc index) = _
      rw [pendingFor_takeEntry, htake.1, htake.2]
      rfl
  | loc other op =>
      simp only [lossless, Bool.and_eq_true, Bool.not_eq_true'] at h
      by_cases hother : other = index
      · subst hother
        refine ⟨[.loc op], ?_, h, trivial⟩
        show Link.mk _ _ (Function.update n.loc other (localStep (n.loc other) op) other) = _
        rw [Function.update_self]
        rfl
      · apply hstill
        show Link.mk _ _ (Function.update n.loc other (localStep (n.loc other) op) index) = _
        rw [Function.update_of_ne (Ne.symm hother)]
        rfl
  | crossing j event stamp =>
      -- a full outbox would drop a frame here, and the link has no step for that
      have hpending := @pendingFor_pushAll n _
        (Function.update n.cx j (crossingHandleEvent (n.cx j) event).cx) (of_decide_eq_true h) index
      have hframes : framesOf index (eventEntries n j event stamp) = framesFor index
          ((crossingHandleEvent (n.cx j) event).calls.flatMap (callItems stamp)) :=
        framesOf_calls index stamp _
      have hstep : linkView k index (networkStep n (.crossing j event stamp)) =
          ⟨Function.update n.cx j (crossingHandleEvent (n.cx j) event).cx k,
            pendingFor index n ++ framesOf index (eventEntries n j event stamp), n.loc index⟩ := by
        rw [← hpending]
        rfl
      by_cases hj : j = k
      · subst hj
        refine ⟨[.crossing event stamp], ?_, trivial, trivial⟩
        rw [hstep, Function.update_self, hframes]
        show _ = linkStep (linkView j index n) (.crossing event stamp)
        unfold linkStep linkView
        dsimp only
        rw [hplaced.ids index]
      · apply hstill
        have hcalls := onSite (n.cx j) event
        have hother : index.val / 2 ≠ j.val := fun heq => hj (Fin.ext (heq.symm.trans hindex))
        rw [hstep, Function.update_of_ne (Ne.symm hj), hframes, framesFor_calls_other
          (fun call hcall => (hcalls.2 call hcall).trans (hplaced.sites j)) hother stamp,
          List.append_nil]
        rfl
  | deliver sent draws =>
      have hcx := (deliver_record n sent draws).1
      have hloc := (arrived_deliver n sent draws).loc index
      have hpending := pendingFor_deliver index n sent draws
      rw [framesOf_lossless h] at hloc
      -- an entry for somebody else leaves the link where it is
      rcases framesOf_hand index n.hand with hnone | ⟨msg, hmsg⟩
      · apply hstill
        rw [hnone] at hloc hpending
        rw [List.nil_append] at hpending
        show Link.mk ((deliver n sent draws).cx k) (pendingFor index (deliver n sent draws))
          ((deliver n sent draws).loc index) = _
        rw [hcx, hloc, ← hpending]
        rfl
      · rw [hmsg] at hloc hpending
        refine ⟨[.receive draws], ?_, trivial, trivial⟩
        show Link.mk ((deliver n sent draws).cx k) (pendingFor index (deliver n sent draws))
          ((deliver n sent draws).loc index) = linkStep (linkView k index n) (.receive draws)
        rw [hcx, hloc]
        unfold linkStep linkView
        rw [hpending]
        rfl

/-- Every pair of a crossing and a Local next to it is safe. -/
structure Networked (n : Network) : Prop where
  bounded : n.outbox.ring.count ≤ outboxCapacity
  ids : ∀ index, (n.loc index).intersectionId = index
  safe : ∀ (k : Fin 3) (index : Fin 6), index.val / 2 = k.val →
    LinkSafe (crossingAt k) (linkView k index n)

theorem Networked.placed (h : Networked n) : Placed n := by
  refine ⟨h.bounded, h.ids, fun k => ?_⟩
  exact (h.safe k ⟨2 * k.val, by omega⟩ (by simp)).site

theorem bounded_networkStep (h : n.outbox.ring.count ≤ outboxCapacity) (step : NetworkStep) :
    (networkStep n step).outbox.ring.count ≤ outboxCapacity := by
  cases step with
  | crossing k event stamp =>
      obtain ⟨_, -, -, -, hbounded⟩ := foldl_outboxPush h (eventEntries n k event stamp)
      exact hbounded
  | take =>
      show (takeEntry n).outbox.ring.count ≤ _
      unfold takeEntry
      split
      · exact h
      · exact (Nat.sub_le _ _).trans h
  | deliver sent draws =>
      show (deliver n sent draws).outbox.ring.count ≤ _
      rw [(deliver_record n sent draws).2.1]
      exact h
  | connect c => exact h
  | lose c => exact h
  | loc index op => exact h

theorem ids_networkStep (h : ∀ index, (n.loc index).intersectionId = index)
    (step : NetworkStep) (index : Fin 6) :
    ((networkStep n step).loc index).intersectionId = index := by
  have hframes : ∀ (msgs : List TestMessage) (draws : Draws) (s : LocalState),
      (msgs.foldl (fun s msg => localStep s (.frame msg draws)) s).intersectionId =
        s.intersectionId := by
    intro msgs draws
    induction msgs with
    | nil => exact fun s => rfl
    | cons msg msgs ih =>
        intro s
        rw [List.foldl_cons, ih, localStep_id]
  cases step with
  | crossing k event stamp => exact h index
  | take =>
      show ((takeEntry n).loc index).intersectionId = index
      unfold takeEntry
      split <;> exact h index
  | deliver sent draws =>
      show ((deliver n sent draws).loc index).intersectionId = index
      rw [(arrived_deliver n sent draws).loc index, hframes, h index]
  | connect c => exact h index
  | lose c => exact h index
  | loc other op =>
      show (Function.update n.loc other (localStep (n.loc other) op) index).intersectionId = index
      by_cases hother : index = other
      · rw [hother, Function.update_self, localStep_id, h other]
      · rw [Function.update_of_ne hother, h index]

theorem Networked.step (h : Networked n) {step : NetworkStep} (hlossless : lossless n step = true) :
    Networked (networkStep n step) := by
  refine ⟨bounded_networkStep h.bounded step, ids_networkStep h.ids step, ?_⟩
  intro k index hindex
  obtain ⟨steps, hrun, halong⟩ := step_simulates h.placed hlossless hindex
  rw [hrun]
  exact halong.invariant (fun l step hl hstep => hl.step (crossingAt_mem k) hstep)
    (h.safe k index hindex)

theorem networked_start {loc : Fin 6 → LocalState}
    (hboot : ∀ index, Reachable Booted localStep (loc index) ∧ (loc index).intersectionId = index) :
    Networked (networkStart loc) := by
  refine ⟨Nat.zero_le _, fun index => (hboot index).2, ?_⟩
  intro k index hindex
  have hadjacent : Adjacent (crossingAt k) (loc index) := by
    unfold Adjacent
    rw [(hboot index).2]
    revert k index
    decide
  have hfree : ∀ dir, (crossingAt k).track dir = .none := by
    fin_cases k <;> exact fun _ => rfl
  refine ⟨rfl, hadjacent, localSafe_reachable (hboot index).1, ?_, ?_⟩
  · exact fun dir hcleared => absurd ((hfree dir).symm.trans hcleared) (by decide)
  · rintro ⟨dir, htrack⟩
    exact absurd (hfree dir) htrack

/-- While nothing is lost and nobody else clears a train or resets a Local, a crossing and a
Local next to it run as they do with a channel of their own. -/
theorem network_refines_link {loc : Fin 6 → LocalState}
    (hboot : ∀ index, Reachable Booted localStep (loc index) ∧ (loc index).intersectionId = index)
    {steps : List NetworkStep}
    (h : Along networkStep (fun n step => lossless n step = true) (networkStart loc) steps)
    {k : Fin 3} {index : Fin 6} (hindex : index.val / 2 = k.val) :
    ∃ linkSteps, linkView k index (run networkStep (networkStart loc) steps) =
        run linkStep ⟨crossingAt k, [], loc index⟩ linkSteps ∧
      Along linkStep Unaided ⟨crossingAt k, [], loc index⟩ linkSteps := by
  have hstart : linkView k index (networkStart loc) = ⟨crossingAt k, [], loc index⟩ := rfl
  rw [← hstart]
  have hnetworked := networked_start hboot
  generalize networkStart loc = n at h hnetworked ⊢
  induction steps generalizing n with
  | nil => exact ⟨[], rfl, trivial⟩
  | cons step steps ih =>
      obtain ⟨first, hfirst, halong⟩ := step_simulates hnetworked.placed h.1 hindex
      obtain ⟨rest, hrest, halongRest⟩ := ih (networkStep n step) h.2 (hnetworked.step h.1)
      refine ⟨first ++ rest, ?_, ?_⟩
      · rw [run_cons, hrest, hfirst, run_append]
      · rw [along_append]
        exact ⟨halong, hfirst ▸ halongRest⟩

/-- Every Local whose frames have all arrived protects the trains of its crossing. -/
def Protected (n : Network) : Prop :=
  ∀ (k : Fin 3) (index : Fin 6), index.val / 2 = k.val → pendingFor index n = [] →
    (∃ dir, (n.cx k).track dir ≠ .none) →
      (n.loc index).trainWaitingForClear = true ∧
        ((n.loc index).trainPending = true ∨ (n.loc index).trainActive = true) ∧
          ∀ d, (n.loc index).light d ≠ .green

/-- The three crossings and the six Locals over the one outbox: as long as it has room, the
frames for the Locals arrive and no console clears a train or resets a Local, every train
is protected on both sides of its crossing. -/
theorem railway_network_protects {loc : Fin 6 → LocalState}
    (hboot : ∀ index, Reachable Booted localStep (loc index) ∧ (loc index).intersectionId = index)
    {steps : List NetworkStep}
    (h : Along networkStep (fun n step => lossless n step = true) (networkStart loc) steps) :
    Throughout networkStep Protected (networkStart loc) steps :=
  h.throughout (J := Networked) (fun _ _ hn hstep => hn.step hstep)
    (fun _ hn k index hindex => (hn.safe k index hindex).trainProtected) (networked_start hboot)

/-- Trains pass P1 and P2 at the same time. -/
def twoTrains : List NetworkStep :=
  let stamp : Stamp := ⟨20, blankTimestamp⟩
  [.connect (.toLocal 1), .connect .legacyLocal, .connect (.toLocal 2), .connect (.toLocal 3),
    .crossing 0 (.trainApproach .up) stamp, .take, .crossing 1 (.trainApproach .down) stamp,
    .deliver .answered .zero, .take, .deliver .answered .zero, .loc 0 (.trafficTick .zero),
    .take, .deliver .unanswered .zero, .take, .deliver .answered .zero]

def bootedLocals : Fin 6 → LocalState := fun index => localStateInit (UInt8.ofNat index.val) .zero

theorem booted_bootedLocals (index : Fin 6) :
    Reachable Booted localStep (bootedLocals index) ∧
      (bootedLocals index).intersectionId = index :=
  ⟨.init ⟨UInt8.ofNat index.val, .zero, rfl⟩, by revert index; decide +kernel⟩

theorem lossless_twoTrains :
    Along networkStep (fun n step => lossless n step = true) (networkStart bootedLocals)
      twoTrains := by
  decide +kernel

theorem railway_network_protects_two :
    Throughout networkStep Protected (networkStart bootedLocals) twoTrains :=
  railway_network_protects booted_bootedLocals lossless_twoTrains

theorem network_refines_link_two :
    ∃ linkSteps, linkView 1 2 (run networkStep (networkStart bootedLocals) twoTrains) =
        run linkStep ⟨crossingAt 1, [], bootedLocals 2⟩ linkSteps ∧
      Along linkStep Unaided ⟨crossingAt 1, [], bootedLocals 2⟩ linkSteps :=
  network_refines_link booted_bootedLocals lossless_twoTrains rfl

end TrafficLight.RailwayNetwork
