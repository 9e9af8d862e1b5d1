import TrafficLight.Fifo
import TrafficLight.CrossingTrains
import TrafficLight.RailwayHold
import TrafficLight.LocalProfile

namespace TrafficLight.RailwayLink

open TrafficLight.Runs
open TrafficLight.Fifo
open TrafficLight.Protocol
open TrafficLight.CrossingMachine
open TrafficLight.CrossingOutcomes
open TrafficLight.CrossingCalls
open TrafficLight.CrossingInvariant
open TrafficLight.CrossingTrains
open TrafficLight.LocalData
open TrafficLight.LocalCore
open TrafficLight.LocalSafety
open TrafficLight.LocalCommands
open TrafficLight.LocalProfile
open TrafficLight.RailwayHold

/-- The crossings that `main` sets up, each with the Locals next to it. -/
def crossings : List Crossing :=
  [crossingInit 1 "P1" 1 2, crossingInit 2 "P2" 3 4, crossingInit 3 "P3" 5 6]

/-- What the train controller looks up when it fills in a frame. -/
structure Stamp where
  warningSec : Int
  timestamp : Fin 32 → UInt8

/-- `outbox_item_t`: a frame and the index of the Local it is for. -/
structure OutboxItem where
  destination : Nat
  msg : TestMessage

def railwayMessage (id : UInt8) (type : UInt16) (stamp : Stamp) : TestMessage :=
  let frame := railwayFrame type id (if type = msgRailwayPreempt then 1 else 0)
    (if type = msgRailwayPreempt then UInt16.ofInt stamp.warningSec else 0)
  { frame with header := { frame.header with timestamp := stamp.timestamp } }

/-- A frame for each Local next to the crossing. -/
def queueRailwayMessage (cx : Crossing) (type : UInt16) (stamp : Stamp) : List OutboxItem :=
  [cx.localId1, cx.localId2].filterMap fun localId =>
    if localId < 1 ∨ numIntersections < localId.toNat then none
    else some ⟨localId.toNat - 1, railwayMessage cx.id type stamp⟩

def cxSendPreempt (cx : Crossing) (stamp : Stamp) : List OutboxItem :=
  queueRailwayMessage cx msgRailwayPreempt stamp

def cxSendClear (cx : Crossing) (stamp : Stamp) : List OutboxItem :=
  queueRailwayMessage cx msgTrainClear stamp

/-- What a callback adds to the outbox for the Locals. -/
def callItems (stamp : Stamp) (call : CxCall) : List OutboxItem :=
  match call.op with
  | .sendPreempt => cxSendPreempt call.cx stamp
  | .sendClear => cxSendClear call.cx stamp
  | _ => []

/-- The frames for one Local, in the order of the outbox. -/
def framesFor (index : Fin 6) (items : List OutboxItem) : List TestMessage :=
  items.filterMap fun item => if item.destination = index.val then some item.msg else none

structure Link where
  cx : Crossing
  channel : List TestMessage
  loc : LocalState

/-- An event at the crossing, the delivery of the next frame, or an operation
of the Local. -/
inductive LinkStep
  | crossing (event : CrossingEvent) (stamp : Stamp)
  | receive (draws : Draws)
  | loc (op : LocalOp)

def linkStep (l : Link) : LinkStep → Link
  | .crossing event stamp =>
      let h := crossingHandleEvent l.cx event
      { l with
        cx := h.cx
        channel := l.channel ++
          framesFor l.loc.intersectionId (h.calls.flatMap (callItems stamp)) }
  | .receive draws =>
      match l.channel with
      | [] => l
      | msg :: rest => { l with channel := rest, loc := localStep l.loc (.frame msg draws) }
  | .loc op => { l with loc := localStep l.loc op }

/-- Railway frames come through the channel only, and nobody uses the console
to clear the train or to reset the Local. -/
def Unaided (l : Link) : LinkStep → Prop
  | .loc op => clears l.loc op = false ∧ resets op = false
  | _ => True

instance (l : Link) (step : LinkStep) : Decidable (Unaided l step) := by
  cases step <;> unfold Unaided <;> infer_instance

/-- The Local is next to the crossing. -/
def Adjacent (cx : Crossing) (s : LocalState) : Prop :=
  s.intersectionId.val + 1 = cx.localId1.toNat ∨ s.intersectionId.val + 1 = cx.localId2.toNat

instance (cx : Crossing) (s : LocalState) : Decidable (Adjacent cx s) :=
  inferInstanceAs (Decidable (_ ∨ _))

/-- Once the channel has drained, the Local holds its traffic for every train
that the crossing knows. -/
def TrainProtected (l : Link) : Prop :=
  l.channel = [] → (∃ dir, l.cx.track dir ≠ .none) →
    l.loc.trainWaitingForClear = true ∧ (l.loc.trainPending = true ∨ l.loc.trainActive = true) ∧
      ∀ d, l.loc.light d ≠ .green

/-- The type of the frames that a callback queues. -/
def opType : CxOp → Option UInt16
  | .sendPreempt => some msgRailwayPreempt
  | .sendClear => some msgTrainClear
  | _ => none

theorem framesFor_queue {cx cx₀ : Crossing} (hcx : cx₀ ∈ crossings) (hsite : site cx = site cx₀)
    {s : LocalState} (hadj : Adjacent cx₀ s) (type : UInt16) (stamp : Stamp) :
    framesFor s.intersectionId (queueRailwayMessage cx type stamp) =
      [railwayMessage cx₀.id type stamp] := by
  simp only [site, Prod.mk.injEq] at hsite
  obtain ⟨hid, hlocal1, hlocal2⟩ := hsite
  unfold queueRailwayMessage framesFor
  rw [hid, hlocal1, hlocal2]
  simp only [crossings, List.mem_cons, List.not_mem_nil, or_false] at hcx
  rcases hcx with rfl | rfl | rfl <;> rcases hadj with hindex | hindex <;>
    simp_all [crossingInit, numIntersections]

theorem framesFor_append (index : Fin 6) (items more : List OutboxItem) :
    framesFor index (items ++ more) = framesFor index items ++ framesFor index more :=
  List.filterMap_append

/-- The types of the frames that a list of callbacks queues. -/
def sentTypes (os : List CxOp) : List UInt16 := os.filterMap opType

@[simp] theorem sentTypes_nil : sentTypes [] = [] := rfl

@[simp] theorem sentTypes_cons (op : CxOp) (os : List CxOp) :
    sentTypes (op :: os) = (opType op).toList ++ sentTypes os := by
  cases op <;> rfl

@[simp] theorem sentTypes_append (os os' : List CxOp) :
    sentTypes (os ++ os') = sentTypes os ++ sentTypes os' :=
  List.filterMap_append

@[simp] theorem sentTypes_flashOps (flashOn : Bool) : sentTypes (flashOps flashOn) = [] := by
  cases flashOn <;> rfl

@[simp] theorem sentTypes_faultOps (flashOn : Bool) (fault : CxFault) :
    sentTypes (faultOps flashOn fault) = [] := by
  cases flashOn <;> rfl

@[simp] theorem sentTypes_closeOps (gate : GateState) : sentTypes (closeOps gate) = [] := by
  cases gate <;> rfl

theorem framesFor_calls {cx₀ : Crossing} (hcx : cx₀ ∈ crossings) {s : LocalState}
    (hadj : Adjacent cx₀ s) (stamp : Stamp) {calls : List CxCall}
    (hsite : ∀ call ∈ calls, site call.cx = site cx₀) :
    framesFor s.intersectionId (calls.flatMap (callItems stamp)) =
      (sentTypes (calls.map CxCall.op)).map fun type => railwayMessage cx₀.id type stamp := by
  induction calls with
  | nil => rfl
  | cons call calls ih =>
      rw [List.forall_mem_cons] at hsite
      have hqueue := framesFor_queue hcx hsite.1 hadj
      rw [List.flatMap_cons, framesFor_append, ih hsite.2, List.map_cons, sentTypes_cons,
        List.map_append]
      congr 1
      cases hop : call.op with
      | sendPreempt | sendClear =>
          simp [callItems, hop, cxSendPreempt, cxSendClear, hqueue, opType]
      | _ => simp [callItems, hop, opType, framesFor]

/-- A train is known to the crossing. -/
def Occupied (cx : Crossing) : Prop :=
  ∃ dir, cx.track dir ≠ .none

/-- A cleared track waits for the train on the other one. -/
def ClearedBusy (cx : Crossing) : Prop :=
  ∀ dir, cx.track dir = .cleared → Busy cx dir.other

theorem not_occupied_of_clear {cx : Crossing} (hbusy : ClearedBusy cx)
    (hclear : crossingBothTracksClear cx = true) : ¬ Occupied cx := by
  have hfree : ∀ dir, ¬ Busy cx dir := by
    have hnone := (bothTracksClear_eq_false cx).not.mp (by simp [hclear])
    exact forall_direction.mpr (not_or.mp hnone)
  rintro ⟨dir, hdir⟩
  cases htrack : cx.track dir with
  | none => exact hdir htrack
  | approaching => exact hfree dir (.inl htrack)
  | onCrossing => exact hfree dir (.inr htrack)
  | cleared => exact hfree dir.other (hbusy dir htrack)

/-- Only an approach occupies a free crossing, and it sends a PREEMPT; a CLEAR
is sent over free tracks. -/
theorem outcome_sentTypes {cx cx' : Crossing} {event : CrossingEvent} {os : List CxOp}
    (hbusy : ClearedBusy cx) (h : Outcome cx event cx' os) :
    sentTypes os = [] ∧ (Occupied cx' → Occupied cx) ∨
      sentTypes os = [msgRailwayPreempt] ∨
      sentTypes os = [msgTrainClear] ∧ ¬ Occupied cx' := by
  cases h with
  | approachDelay | approachReclose | approachOther => exact .inr (.inl (by simp [opType]))
  | openedClear _ _ hclear =>
      have hfree := not_occupied_of_clear hbusy hclear
      exact .inr (.inr ⟨by simp [opType], by simpa [Occupied, openedGate] using hfree⟩)
  | exitBusy _ htrack | exitOpen _ htrack | exitReleased _ htrack | enterClosed _ htrack =>
      exact .inl ⟨by simp [opType, openOps], fun _ => ⟨_, by rw [htrack]; decide⟩⟩
  | _ =>
      refine .inl ⟨by simp [opType, openOps], ?_⟩
      simp [Occupied, faulted, closedGate, openedGate, openStarted, closeStarted, resetStarted]

theorem clearedBusy_outcome {cx cx' : Crossing} {event : CrossingEvent} {os : List CxOp}
    (hbusy : ClearedBusy cx) (h : Outcome cx event cx' os) : ClearedBusy cx' := by
  intro dir hcleared
  have hbefore := hbusy dir
  cases h with
  | reset | exitOpen | exitReleased => simp [resetStarted, openStarted, released] at hcleared
  | @approachDelay d _ htrack | @approachReclose d _ htrack | @approachOther d _ htrack
  | @enterClosed d _ htrack | @exitBusy d _ htrack hother =>
      cases d <;> cases dir <;>
        simp_all [Busy, TrackDirection.other, approached, closeStarted, entered, exited]
  | _ =>
      simpa [Busy, faulted, closedGate, openedGate, openStarted, closeStarted] using
        hbefore (by simpa [faulted, closedGate, openedGate, openStarted, closeStarted]
          using hcleared)

/-- A PREEMPT of the crossing. -/
def IsPreempt (id : UInt8) (msg : TestMessage) : Prop :=
  ∃ stamp, msg = railwayMessage id msgRailwayPreempt stamp

/-- The Local has a railway hold that no clear message has ended. -/
def Held (s : LocalState) : Prop :=
  ∃ ticks, HoldServed s ticks

structure LinkSafe (cx₀ : Crossing) (l : Link) : Prop where
  site : site l.cx = site cx₀
  adjacent : Adjacent cx₀ l.loc
  loc : LocalSafe l.loc
  clearedBusy : ClearedBusy l.cx
  settles : Occupied l.cx → Settles (IsPreempt cx₀.id) Held l.loc l.channel

theorem railwayMatches_of_adjacent {cx₀ : Crossing} (hcx : cx₀ ∈ crossings) {s : LocalState}
    (hadj : Adjacent cx₀ s) : railwayMatchesLocal s cx₀.id = true := by
  unfold Adjacent at hadj
  unfold railwayMatchesLocal railwayCrossingForLocal
  generalize s.intersectionId = index at hadj ⊢
  simp only [crossings, List.mem_cons, List.not_mem_nil, or_false] at hcx
  rcases hcx with rfl | rfl | rfl <;> revert hadj <;> revert index <;> decide

theorem acceptsPreempt_of_isPreempt {cx₀ : Crossing} (hcx : cx₀ ∈ crossings) {s : LocalState}
    (hadj : Adjacent cx₀ s) {msg : TestMessage} (hmsg : IsPreempt cx₀.id msg) :
    acceptsPreempt s msg = true := by
  obtain ⟨stamp, rfl⟩ := hmsg
  have hmatch := railwayMatches_of_adjacent hcx hadj
  rw [acceptsPreempt_iff]
  simp [railwayMessage, railwayFrame, frameOf, RailwayMsg.ofData_toBytes, hmatch]

theorem Held.of_preempt {s : LocalState} (h : LocalSafe s) {msg : TestMessage}
    (hmsg : acceptsPreempt s msg = true) (draws : Draws) :
    Held (localStep s (.frame msg draws)) :=
  ⟨0, HoldServed.start h hmsg draws⟩

theorem Held.step {s : LocalState} (h : Held s) {op : LocalOp} (hclear : clears s op = false)
    (hreset : resets op = false) : Held (localStep s op) := by
  obtain ⟨ticks, hserved⟩ := h
  exact ⟨_, hserved.step hclear hreset⟩

theorem LinkSafe.crossing {cx₀ : Crossing} (hcx : cx₀ ∈ crossings) {l : Link}
    (h : LinkSafe cx₀ l) (event : CrossingEvent) (stamp : Stamp) :
    LinkSafe cx₀ (linkStep l (.crossing event stamp)) := by
  have hsite := onSite l.cx event
  have hout := outcome l.cx event
  have hframes := framesFor_calls hcx h.adjacent stamp fun call hcall =>
    (hsite.2 call hcall).trans h.site
  refine ⟨hsite.1.trans h.site, h.adjacent, h.loc, clearedBusy_outcome h.clearedBusy hout,
    fun hoccupied => ?_⟩
  unfold linkStep at hoccupied ⊢
  dsimp only at hoccupied ⊢
  rw [hframes]
  rcases outcome_sentTypes h.clearedBusy hout with ⟨hsent, hback⟩ | hsent | ⟨-, hfree⟩
  · simpa [show sentTypes ((crossingHandleEvent l.cx event).calls.map CxCall.op) = []
      from hsent] using h.settles (hback hoccupied)
  · rw [show sentTypes ((crossingHandleEvent l.cx event).calls.map CxCall.op) =
      [msgRailwayPreempt] from hsent]
    exact settles_append_singleton.mpr ⟨stamp, rfl⟩
  · exact absurd hoccupied hfree

theorem LinkSafe.receive {cx₀ : Crossing} (hcx : cx₀ ∈ crossings) {l : Link}
    (h : LinkSafe cx₀ l) (draws : Draws) : LinkSafe cx₀ (linkStep l (.receive draws)) := by
  obtain ⟨cx, channel, s⟩ := l
  cases channel with
  | nil => exact h
  | cons msg rest =>
      refine ⟨h.site, ?_, h.loc.step (.frame msg draws), h.clearedBusy, fun hoccupied => ?_⟩
      · simpa only [linkStep, Adjacent, localStep_id] using h.adjacent
      · exact (h.settles hoccupied).receive fun hmsg =>
          Held.of_preempt h.loc (acceptsPreempt_of_isPreempt hcx h.adjacent hmsg) draws

theorem LinkSafe.loc_step {cx₀ : Crossing} {l : Link} (h : LinkSafe cx₀ l) {op : LocalOp}
    (hclear : clears l.loc op = false) (hreset : resets op = false) :
    LinkSafe cx₀ (linkStep l (.loc op)) := by
  refine ⟨h.site, ?_, h.loc.step _, h.clearedBusy, fun hoccupied => ?_⟩
  · simpa only [linkStep, Adjacent, localStep_id] using h.adjacent
  · exact (h.settles hoccupied).keep fun hheld => hheld.step hclear hreset

theorem LinkSafe.step {cx₀ : Crossing} (hcx : cx₀ ∈ crossings) {l : Link} (h : LinkSafe cx₀ l)
    {step : LinkStep} (hstep : Unaided l step) : LinkSafe cx₀ (linkStep l step) := by
  cases step with
  | crossing event stamp => exact h.crossing hcx event stamp
  | receive draws => exact h.receive hcx draws
  | loc op => exact h.loc_step hstep.1 hstep.2

theorem LinkSafe.trainProtected {cx₀ : Crossing} {l : Link} (h : LinkSafe cx₀ l) :
    TrainProtected l := by
  intro hdrained hoccupied
  have hsettles := h.settles hoccupied
  rw [hdrained, settles_nil] at hsettles
  obtain ⟨ticks, hserved⟩ := hsettles
  exact ⟨hserved.waiting, hserved.served.symm.imp_left And.left, hserved.shown.noGreen⟩

/-- Whatever happens on the two sides of the link: once the channel has
drained, the Local protects every train that the crossing knows. -/
theorem trainProtected_throughout {cx : Crossing} (hcx : cx ∈ crossings) {s : LocalState}
    (hs : Reachable Booted localStep s) (hadj : Adjacent cx s) {steps : List LinkStep}
    (h : Along linkStep Unaided ⟨cx, [], s⟩ steps) :
    Throughout linkStep TrainProtected ⟨cx, [], s⟩ steps := by
  refine h.throughout (J := LinkSafe cx) (fun l step hl hstep => hl.step hcx hstep)
    (fun l hl => hl.trainProtected) ?_
  have hfree : ∀ dir, cx.track dir = .none := by
    simp only [crossings, List.mem_cons, List.not_mem_nil, or_false] at hcx
    rcases hcx with rfl | rfl | rfl <;> exact fun _ => rfl
  refine ⟨rfl, hadj, localSafe_reachable hs, fun dir hcleared => ?_, fun hoccupied => ?_⟩
  · exact absurd ((hfree dir).symm.trans hcleared) (by decide)
  · obtain ⟨dir, htrack⟩ := hoccupied
    exact absurd (hfree dir) htrack

/-- A train passes P1 next to I1, and a second one takes the hold over. -/
theorem trainProtected_throughout_passing :
    let stamp : Stamp := ⟨20, blankTimestamp⟩
    Throughout linkStep TrainProtected ⟨crossingInit 1 "P1" 1 2, [], localStateInit 0 .zero⟩
      [.crossing (.trainApproach .up) stamp, .receive .zero, .loc (.trafficTick .zero),
        .crossing (.timer .gateCloseDelay 1) stamp, .crossing .gateClosed stamp,
        .loc (.input ['m'] .zero), .crossing (.trainEnter .up) stamp, .loc (.trafficTick .zero),
        .crossing (.trainExit .up) stamp, .crossing (.trainApproach .down) stamp,
        .receive .zero, .loc (.trafficTick .zero)] :=
  trainProtected_throughout (by simp [crossings]) (.init ⟨0, .zero, rfl⟩) (by decide) (by decide)

end TrafficLight.RailwayLink
