import TrafficLight.RailwayLink
import TrafficLight.RingQueue
import TrafficLight.TrainReports

/-!
The train controller on its network: three crossings whose callbacks fill one
outbox, the sender thread that empties it, the links to Central and the Locals,
and the six Locals themselves, from `train_controller.c`. The record is not in
the source: what was pushed, what the sender is done with and what arrived.
-/

namespace TrafficLight.TrainOutbox

open TrafficLight.Runs
open TrafficLight.Protocol
open TrafficLight.RingQueue
open TrafficLight.CrossingMachine
open TrafficLight.LocalCore
open TrafficLight.LocalData
open TrafficLight.TrainReports
open TrafficLight.RailwayLink

def outboxCapacity : Nat := 64

/-- What waits in the outbox: a frame for a Local, or an alert for Central. -/
inductive Entry
  | railway (item : OutboxItem)
  | alert (frame : List UInt8)

/-- `outbox` -/
structure Outbox where
  ring : Ring 64 Entry
  dropped : Nat

/-- The connections of the train controller; the first Local may still be known
under the legacy name. -/
inductive Connection
  | central
  | toLocal (index : Fin 6)
  | legacyLocal
  deriving DecidableEq

/-- What was pushed, what the sender is done with and what arrived, oldest first. -/
structure Record where
  pushed : List Entry
  finished : List Entry
  received : Fin 6 → List TestMessage
  alerts : List (List UInt8)

/-- The crossings, the outbox, the entry that the sender thread has taken, the
connections and the Locals. -/
structure Network where
  cx : Fin 3 → Crossing
  outbox : Outbox
  hand : Option Entry
  connected : Connection → Bool
  loc : Fin 6 → LocalState
  record : Record

/-- `outbox_push`; a full outbox drops the new entry. -/
def outboxPush (o : Outbox) (entry : Entry) : Outbox :=
  if o.ring.count < outboxCapacity then { o with ring := o.ring.append entry }
  else { o with dropped := o.dropped + 1 }

/-- What a callback pushes. -/
def callEntries (stamp : Stamp) (call : CxCall) : List Entry :=
  match call.op with
  | .faultAlert fault =>
      [.alert (compactFrame msgFaultAlert (faultAlertOf call.cx fault).toBytes stamp.timestamp)]
  | _ => (callItems stamp call).map .railway

/-- `local_link` -/
def localLink (connected : Connection → Bool) (index : Fin 6) : Option Connection :=
  if connected (.toLocal index) then some (.toLocal index)
  else if index = 0 ∧ connected .legacyLocal then some .legacyLocal
  else none

/-- The connection that `deliver` uses. -/
def linkFor (connected : Connection → Bool) : Entry → Option Connection
  | .alert _ => if connected .central then some .central else none
  | .railway item =>
      if h : item.destination < 6 then localLink connected ⟨item.destination, h⟩ else none

/-- How a send ended: with a reply, with none after the peer had taken the
message, with none before that, or without a timeout, in which case it was not
tried. -/
inductive Sent
  | answered
  | unanswered
  | refused
  | unarmed
  deriving DecidableEq

/-- The peer took the message. -/
def Sent.arrives : Sent → Bool
  | .answered => true
  | .unanswered => true
  | _ => false

/-- `send_message_timeout` closes the connection that `MsgSend` failed on. -/
def Sent.closes : Sent → Bool
  | .unanswered => true
  | .refused => true
  | _ => false

/-- A frame arrives at its Local, an alert at Central. -/
def arrive (n : Network) (draws : Draws) : Entry → Network
  | .alert frame => { n with record := { n.record with alerts := n.record.alerts ++ [frame] } }
  | .railway item =>
      if h : item.destination < 6 then
        let index : Fin 6 := ⟨item.destination, h⟩
        { n with
          loc := Function.update n.loc index (localStep (n.loc index) (.frame item.msg draws))
          record := { n.record with
            received := Function.update n.record.received index
              (n.record.received index ++ [item.msg]) } }
      else n

/-- `send_message_timeout` on a connection. -/
def sendMessageTimeout (n : Network) (link : Connection) (sent : Sent) (draws : Draws)
    (entry : Entry) : Network :=
  let n := if sent.arrives then arrive n draws entry else n
  if sent.closes then { n with connected := Function.update n.connected link false } else n

/-- The sender thread is done with its entry. -/
def finish (n : Network) (entry : Entry) : Network :=
  { n with
    hand := none
    record := { n.record with finished := n.record.finished ++ [entry] } }

/-- `deliver`, for the entry that the sender thread has taken. -/
def deliver (n : Network) (sent : Sent) (draws : Draws) : Network :=
  match n.hand with
  | none => n
  | some entry =>
      match linkFor n.connected entry with
      | none => finish n entry
      | some link => sendMessageTimeout (finish n entry) link sent draws entry

/-- The wait of `sender_thread` and the entry it takes out. -/
def takeEntry (n : Network) : Network :=
  if n.hand.isSome ∨ n.outbox.ring.count = 0 then n
  else
    { n with
      hand := some (n.outbox.ring.get 0)
      outbox := { n.outbox with ring := n.outbox.ring.pop } }

/-- The callbacks of an event push one entry after the other. -/
def pushAll (n : Network) (entries : List Entry) : Network :=
  { n with
    outbox := entries.foldl outboxPush n.outbox
    record := { n.record with pushed := n.record.pushed ++ entries } }

/-- What an event at a crossing pushes. -/
def eventEntries (n : Network) (k : Fin 3) (event : CrossingEvent) (stamp : Stamp) :
    List Entry :=
  (crossingHandleEvent (n.cx k) event).calls.flatMap (callEntries stamp)

/-- An event at a crossing, a turn of the sender thread, a connection that is
found or lost, or an operation of a Local. -/
inductive NetworkStep
  | crossing (k : Fin 3) (event : CrossingEvent) (stamp : Stamp)
  | take
  | deliver (sent : Sent) (draws : Draws)
  | connect (c : Connection)
  | lose (c : Connection)
  | loc (index : Fin 6) (op : LocalOp)

def networkStep (n : Network) : NetworkStep → Network
  | .crossing k event stamp =>
      pushAll { n with cx := Function.update n.cx k (crossingHandleEvent (n.cx k) event).cx }
        (eventEntries n k event stamp)
  | .take => takeEntry n
  | .deliver sent draws => deliver n sent draws
  | .connect c => { n with connected := Function.update n.connected c true }
  | .lose c => { n with connected := Function.update n.connected c false }
  | .loc index op => { n with loc := Function.update n.loc index (localStep (n.loc index) op) }

def emptyRecord : Record := ⟨[], [], fun _ => [], []⟩

/-- A crossing as `main` sets it up. -/
def crossingAt (k : Fin 3) : Crossing := crossings.get k

/-- The crossings that `main` sets up, and no connection. -/
def networkStart (loc : Fin 6 → LocalState) : Network :=
  { cx := crossingAt
    outbox := ⟨⟨fun _ => .alert [], 0, 0⟩, 0⟩
    hand := none
    connected := fun _ => false
    loc
    record := emptyRecord }

variable {n : Network}

/-- The frames for a Local among some entries. -/
def framesOf (index : Fin 6) (entries : List Entry) : List TestMessage :=
  entries.filterMap fun entry =>
    match entry with
    | .railway item => if item.destination = index.val then some item.msg else none
    | .alert _ => none

def alertsOf (entries : List Entry) : List (List UInt8) :=
  entries.filterMap fun entry =>
    match entry with
    | .railway _ => none
    | .alert frame => some frame

/-- What has been pushed and not dropped, up to what still waits. -/
def kept (n : Network) : List Entry :=
  n.record.finished ++ n.hand.toList ++ n.outbox.ring.view

/-- What was pushed is done with, in the hand of the sender, still waiting or
counted as dropped, all in the order in which it was pushed; what arrived is in
that order among what is done with. -/
structure Accounted (n : Network) : Prop where
  bounded : n.outbox.ring.count ≤ outboxCapacity
  ordered : (kept n).Sublist n.record.pushed
  counted : n.record.pushed.length = (kept n).length + n.outbox.dropped
  received : ∀ index, (n.record.received index).Sublist (framesOf index n.record.finished)
  alerts : n.record.alerts.Sublist (alertsOf n.record.finished)

theorem outboxPush_kept {o : Outbox} (h : o.ring.count ≤ outboxCapacity) (entry : Entry) :
    ∃ more, (outboxPush o entry).ring.view = o.ring.view ++ more ∧ more.Sublist [entry] ∧
      (outboxPush o entry).dropped + more.length = o.dropped + 1 ∧
        (outboxPush o entry).ring.count ≤ outboxCapacity := by
  unfold outboxPush
  split
  · rename_i hroom
    exact ⟨[entry], Ring.view_append entry hroom, List.Sublist.refl _, rfl, hroom⟩
  · exact ⟨[], (List.append_nil _).symm, List.nil_sublist _, rfl, h⟩

theorem foldl_outboxPush {o : Outbox} (h : o.ring.count ≤ outboxCapacity)
    (entries : List Entry) :
    ∃ more, (entries.foldl outboxPush o).ring.view = o.ring.view ++ more ∧
      more.Sublist entries ∧
      (entries.foldl outboxPush o).dropped + more.length = o.dropped + entries.length ∧
        (entries.foldl outboxPush o).ring.count ≤ outboxCapacity := by
  induction entries generalizing o with
  | nil => exact ⟨[], (List.append_nil _).symm, List.Sublist.refl _, rfl, h⟩
  | cons entry entries ih =>
      obtain ⟨first, hview, hfirst, hdropped, hbounded⟩ := outboxPush_kept h entry
      obtain ⟨more, hviews, hmore, hcount, hlast⟩ := ih hbounded
      refine ⟨first ++ more, ?_, hfirst.append hmore, ?_, hlast⟩
      · rw [List.foldl_cons, hviews, hview, List.append_assoc]
      · rw [List.foldl_cons, List.length_append, List.length_cons]
        omega

theorem Accounted.pushAll (h : Accounted n) (entries : List Entry) :
    Accounted (pushAll n entries) := by
  obtain ⟨more, hview, hmore, hcount, hbounded⟩ := foldl_outboxPush h.bounded entries
  have hkept : kept (TrainOutbox.pushAll n entries) = kept n ++ more := by
    simp only [kept, TrainOutbox.pushAll, hview, List.append_assoc]
  constructor
  · exact hbounded
  · rw [hkept]
    exact h.ordered.append hmore
  · have hcounted := h.counted
    rw [hkept, List.length_append]
    show (n.record.pushed ++ entries).length = _ + (entries.foldl outboxPush n.outbox).dropped
    rw [List.length_append]
    omega
  · exact h.received
  · exact h.alerts

theorem kept_takeEntry (n : Network) : kept (takeEntry n) = kept n := by
  unfold takeEntry
  split
  · rfl
  · rename_i hidle
    rw [not_or, Option.not_isSome_iff_eq_none] at hidle
    obtain ⟨hhand, hcount⟩ := hidle
    have hview := Ring.view_pop (Nat.pos_of_ne_zero hcount)
    simp only [kept, hhand, hview, Option.toList_some, Option.toList_none, List.append_nil,
      List.append_assoc, List.singleton_append]

theorem Accounted.takeEntry (h : Accounted n) : Accounted (takeEntry n) := by
  have hkept := kept_takeEntry n
  unfold TrainOutbox.takeEntry at hkept ⊢
  split at hkept
  · rename_i hbusy
    rw [if_pos hbusy]
    exact h
  · rename_i hidle
    rw [if_neg hidle]
    refine ⟨?_, hkept ▸ h.ordered, hkept ▸ h.counted, h.received, h.alerts⟩
    exact (Nat.sub_le _ _).trans h.bounded

@[simp] theorem framesOf_append (index : Fin 6) (entries more : List Entry) :
    framesOf index (entries ++ more) = framesOf index entries ++ framesOf index more :=
  List.filterMap_append

@[simp] theorem alertsOf_append (entries more : List Entry) :
    alertsOf (entries ++ more) = alertsOf entries ++ alertsOf more :=
  List.filterMap_append

@[simp] theorem framesOf_alert (index : Fin 6) (frame : List UInt8) :
    framesOf index [.alert frame] = [] := rfl

@[simp] theorem alertsOf_railway (item : OutboxItem) : alertsOf [.railway item] = [] := rfl

@[simp] theorem alertsOf_alert (frame : List UInt8) : alertsOf [.alert frame] = [frame] := rfl

theorem framesOf_railway (index : Fin 6) (item : OutboxItem) :
    framesOf index [.railway item] = if item.destination = index.val then [item.msg] else [] := by
  unfold framesOf
  rw [List.filterMap_cons]
  split <;> simp_all

/-- Some entries have arrived: their frames are taken by the Locals and recorded,
and the alerts are recorded. -/
structure Arrived (draws : Draws) (entries : List Entry) (n n' : Network) : Prop where
  received : ∀ index, n'.record.received index =
    n.record.received index ++ framesOf index entries
  alerts : n'.record.alerts = n.record.alerts ++ alertsOf entries
  loc : ∀ index, n'.loc index = (framesOf index entries).foldl
    (fun s msg => localStep s (.frame msg draws)) (n.loc index)

theorem Arrived.none (draws : Draws) (n : Network) : Arrived draws [] n n :=
  ⟨fun _ => (List.append_nil _).symm, (List.append_nil _).symm, fun _ => rfl⟩

theorem arrived_arrive (n : Network) (draws : Draws) (entry : Entry) :
    Arrived draws [entry] n (arrive n draws entry) := by
  cases entry with
  | alert frame =>
      exact ⟨fun _ => (List.append_nil _).symm, rfl, fun _ => rfl⟩
  | railway item =>
      by_cases hlt : item.destination < 6
      · simp only [arrive, dif_pos hlt]
        constructor
        · intro index
          by_cases hindex : index = ⟨item.destination, hlt⟩
          · simp [hindex, framesOf_railway]
          · have hne : item.destination ≠ index.val := fun heq => hindex (Fin.ext heq.symm)
            simp [Function.update_of_ne hindex, framesOf_railway, hne]
        · exact (List.append_nil _).symm
        · intro index
          by_cases hindex : index = ⟨item.destination, hlt⟩
          · simp [hindex, framesOf_railway]
          · have hne : item.destination ≠ index.val := fun heq => hindex (Fin.ext heq.symm)
            simp [Function.update_of_ne hindex, framesOf_railway, hne]
      · have hne : ∀ index : Fin 6, item.destination ≠ index.val :=
          fun index heq => hlt (heq ▸ index.isLt)
        simp only [arrive, dif_neg hlt]
        constructor
        · intro index
          rw [framesOf_railway, if_neg (hne index), List.append_nil]
        · exact (List.append_nil _).symm
        · intro index
          rw [framesOf_railway, if_neg (hne index)]
          rfl

/-- What arrives when the sender delivers. -/
def arrivals (n : Network) (sent : Sent) : List Entry :=
  n.hand.toList.filter fun entry => (linkFor n.connected entry).isSome && sent.arrives

/-- What neither an arrival nor a closed connection changes. -/
structure SameQueues (n n' : Network) : Prop where
  cx : n'.cx = n.cx
  outbox : n'.outbox = n.outbox
  hand : n'.hand = n.hand
  pushed : n'.record.pushed = n.record.pushed
  finished : n'.record.finished = n.record.finished

theorem sameQueues_arrive (n : Network) (draws : Draws) (entry : Entry) :
    SameQueues n (arrive n draws entry) := by
  unfold arrive
  split
  · exact ⟨rfl, rfl, rfl, rfl, rfl⟩
  · split
    · exact ⟨rfl, rfl, rfl, rfl, rfl⟩
    · exact ⟨rfl, rfl, rfl, rfl, rfl⟩

theorem sameQueues_send (n : Network) (link : Connection) (sent : Sent) (draws : Draws)
    (entry : Entry) : SameQueues n (sendMessageTimeout n link sent draws entry) := by
  have harrive := sameQueues_arrive n draws entry
  cases sent with
  | answered => exact harrive
  | unanswered => exact ⟨harrive.cx, harrive.outbox, harrive.hand, harrive.pushed, harrive.finished⟩
  | refused => exact ⟨rfl, rfl, rfl, rfl, rfl⟩
  | unarmed => exact ⟨rfl, rfl, rfl, rfl, rfl⟩

theorem deliver_record (n : Network) (sent : Sent) (draws : Draws) :
    (deliver n sent draws).cx = n.cx ∧ (deliver n sent draws).outbox = n.outbox ∧
      (deliver n sent draws).hand = none ∧
      (deliver n sent draws).record.pushed = n.record.pushed ∧
      (deliver n sent draws).record.finished = n.record.finished ++ n.hand.toList := by
  unfold deliver
  cases hhand : n.hand with
  | none => exact ⟨rfl, rfl, hhand, rfl, (List.append_nil _).symm⟩
  | some entry =>
      dsimp only
      cases linkFor n.connected entry with
      | none => exact ⟨rfl, rfl, rfl, rfl, rfl⟩
      | some link =>
          have hsend := sameQueues_send (finish n entry) link sent draws entry
          exact ⟨hsend.cx, hsend.outbox, hsend.hand, hsend.pushed, hsend.finished⟩

theorem arrived_send (n : Network) (link : Connection) (sent : Sent) (draws : Draws)
    (entry : Entry) :
    Arrived draws (if sent.arrives then [entry] else []) n
      (sendMessageTimeout n link sent draws entry) := by
  have harrive := arrived_arrive n draws entry
  cases sent with
  | answered => exact harrive
  | unanswered => exact ⟨harrive.received, harrive.alerts, harrive.loc⟩
  | refused => exact ⟨(Arrived.none draws n).received, (Arrived.none draws n).alerts, fun _ => rfl⟩
  | unarmed => exact Arrived.none draws n

theorem arrived_deliver (n : Network) (sent : Sent) (draws : Draws) :
    Arrived draws (arrivals n sent) n (deliver n sent draws) := by
  unfold deliver arrivals
  cases hhand : n.hand with
  | none => exact Arrived.none draws n
  | some entry =>
      dsimp only
      rw [Option.toList_some, List.filter_singleton]
      split
      · rename_i hlink
        rw [hlink]
        exact ⟨(Arrived.none draws n).received, (Arrived.none draws n).alerts, fun _ => rfl⟩
      · rename_i link hlink
        have hsend := arrived_send (finish n entry) link sent draws entry
        rw [hlink, Option.isSome_some, Bool.true_and, Bool.cond_eq_ite]
        exact ⟨hsend.received, hsend.alerts, hsend.loc⟩

theorem framesOf_arrivals (n : Network) (sent : Sent) (index : Fin 6) :
    (framesOf index (arrivals n sent)).Sublist (framesOf index n.hand.toList) :=
  List.filter_sublist.filterMap _

theorem alertsOf_arrivals (n : Network) (sent : Sent) :
    (alertsOf (arrivals n sent)).Sublist (alertsOf n.hand.toList) :=
  List.filter_sublist.filterMap _

theorem Accounted.deliver (h : Accounted n) (sent : Sent) (draws : Draws) :
    Accounted (deliver n sent draws) := by
  obtain ⟨-, houtbox, hhand, hpushed, hfinished⟩ := deliver_record n sent draws
  have harrived := arrived_deliver n sent draws
  have hkept : kept (TrainOutbox.deliver n sent draws) = kept n := by
    simp [kept, houtbox, hhand, hfinished]
  constructor
  · rw [houtbox]
    exact h.bounded
  · rw [hkept, hpushed]
    exact h.ordered
  · rw [hkept, hpushed, houtbox]
    exact h.counted
  · intro index
    rw [harrived.received, hfinished, framesOf_append]
    exact (h.received index).append (framesOf_arrivals n sent index)
  · rw [harrived.alerts, hfinished, alertsOf_append]
    exact h.alerts.append (alertsOf_arrivals n sent)

theorem Accounted.networkStep (h : Accounted n) (step : NetworkStep) :
    Accounted (networkStep n step) := by
  cases step with
  | crossing k event stamp =>
      have hmoved : Accounted { n with
          cx := Function.update n.cx k (crossingHandleEvent (n.cx k) event).cx } :=
        ⟨h.bounded, h.ordered, h.counted, h.received, h.alerts⟩
      exact hmoved.pushAll _
  | take => exact h.takeEntry
  | deliver sent draws => exact h.deliver sent draws
  | connect c => exact ⟨h.bounded, h.ordered, h.counted, h.received, h.alerts⟩
  | lose c => exact ⟨h.bounded, h.ordered, h.counted, h.received, h.alerts⟩
  | loc index op => exact ⟨h.bounded, h.ordered, h.counted, h.received, h.alerts⟩

/-- In every run of the train controller and the Locals everything pushed is
accounted for, and nothing overtakes anything; without a drop the outbox is a
queue without bounds. -/
theorem outbox_accounts_for_everything (loc : Fin 6 → LocalState) (steps : List NetworkStep) :
    let n := run networkStep (networkStart loc) steps
    Accounted n ∧ (n.outbox.dropped = 0 → kept n = n.record.pushed) := by
  have haccounted : Accounted (run networkStep (networkStart loc) steps) := by
    apply run_invariant (I := Accounted) (fun n step hn => hn.networkStep step)
    exact ⟨Nat.zero_le _, List.Sublist.refl _, rfl, fun _ => List.nil_sublist _,
      List.nil_sublist _⟩
  refine ⟨haccounted, fun hnone => ?_⟩
  apply haccounted.ordered.eq_of_length
  rw [haccounted.counted, hnone, Nat.add_zero]

end TrafficLight.TrainOutbox
