import TrafficLight.QueueOrder

namespace TrafficLight.CommandCycles

open TrafficLight.Runs
open TrafficLight.Protocol
open TrafficLight.CentralMonitor
open TrafficLight.RingQueue
open TrafficLight.CommandQueue
open TrafficLight.QueueOperations
open TrafficLight.CommandAdmission
open TrafficLight.QueueOrder

variable {s : Central}

/-- A monitor that has just heard from everybody. -/
def freshMonitor : Monitor :=
  { centralMonitorInit 5 with
    peers := fun _ => ⟨true, true, 0⟩
    intersections := fun _ => ⟨true, true, 0, Telemetry.StatusMsg.ofData fun _ => 0⟩ }

/-- Every link is up and no request is under way. -/
structure Calm (s : Central) : Prop where
  running : s.running = true
  monitor : s.monitor = freshMonitor
  connected : s.endpointConnected = fun _ => true
  probe : s.endpointProbe = fun _ => 0
  empty : ∀ peer, (s.queue peer).count = 0
  idle : ∀ peer, s.inFlight peer = none
  finished : ∀ slot, (s.commands slot).busy = false

/-- All links come up. -/
def allUp : QueueAction := .observe freshMonitor (fun _ => true) fun _ => 0

theorem calm_start : Calm (queueStep defaultRoutes (centralStart 5) allUp) :=
  ⟨rfl, rfl, rfl, rfl, fun _ => rfl, fun _ => rfl, fun _ => rfl⟩

theorem localReady_calm (h : Calm s) (i : Fin 6) : localReady defaultRoutes s i 0 = true := by
  unfold localReady
  rw [h.connected, h.probe, h.monitor]
  revert i
  decide

theorem trainReady_calm (h : Calm s) : trainReady s 0 = true := by
  unfold trainReady
  rw [h.connected, h.monitor]
  decide

theorem available_calm (h : Calm s) : available s = 64 := by
  unfold available
  simp [h.finished]

theorem admitted_calm (h : Calm s) (prototype : TestMessage) (target : Option (Fin 6)) :
    enqueueRefusal defaultRoutes s prototype target 0 = none := by
  have hlength : (expand prototype target).length ≤ 6 := by
    unfold expand
    split
    · decide
    · split
      · simp
      · simp
  have hneeded : ∀ peer, needed defaultRoutes prototype (expand prototype target) peer ≤ 6 :=
    fun peer => List.countP_le_length.trans hlength
  have hroom : noRoom defaultRoutes s prototype (expand prototype target) = false := by
    unfold noRoom
    apply decide_eq_false
    rw [not_or, available_calm h]
    refine ⟨by omega, ?_⟩
    rintro ⟨peer, -, hfull⟩
    have hsize : commandQueueSize = 32 := rfl
    have hneed := hneeded peer
    rw [h.empty peer] at hfull
    omega
  have hready : (expand prototype target).find? (fun i => ! localReady defaultRoutes s i 0) =
      none := by
    apply List.find?_eq_none.mpr
    intro i _
    simp [localReady_calm h i]
  unfold enqueueRefusal
  dsimp only
  rw [h.running, hroom, trainReady_calm h, hready]
  simp

/-- A request for one target, queued, taken and answered. -/
def exchange (prototype : TestMessage) (i : Fin 6) (result : CentralFrames.SendResult) :
    List QueueAction :=
  [.enqueue prototype (some i) 0 false 0,
    .take (peerFor defaultRoutes prototype i) 0 0 blankTimestamp,
    .sent (peerFor defaultRoutes prototype i) result 0]

theorem nextIdLocked_succ (h : reserved s (bumpId s.nextId) = false) :
    nextIdLocked s = some (bumpId s.nextId) := by
  unfold nextIdLocked
  rw [nextIdFrom, if_neg (by simp [h])]

theorem freeSlot_calm (h : (s.commands s.commandNext).busy = false) :
    freeSlot s = some s.commandNext := by
  unfold freeSlot
  rw [freeSlotFrom, if_neg (by simp [h])]

theorem enqueueOne_next {prototype : TestMessage} {i : Fin 6}
    (hfree : reserved s (bumpId s.nextId) = false)
    (hidle : (s.commands s.commandNext).busy = false) :
    enqueueOne defaultRoutes prototype 0 false 0 s i =
      some (fileFresh defaultRoutes prototype 0 false 0 s
        ⟨i, bumpId s.nextId, s.commandNext⟩) := by
  unfold enqueueOne
  rw [nextIdLocked_succ hfree, freeSlot_calm hidle]
  rfl

/-- The record of an answered request. -/
def answered (prototype : TestMessage) (i : Fin 6) (result : CentralFrames.SendResult)
    (id : UInt16) : CommandRecord :=
  { newRecord defaultRoutes prototype i false 0 id with state := resultState result }

/-- The state after an exchange that was given an id. -/
structure Exchanged (s s' : Central) (prototype : TestMessage) (i : Fin 6)
    (result : CentralFrames.SendResult) (id : UInt16) : Prop where
  calm : Calm s'
  nextId : s'.nextId = id
  commandNext : s'.commandNext = s.commandNext + 1
  commands : s'.commands =
    Function.update s.commands s.commandNext (answered prototype i result id)
  policyCommand : s'.policyCommand = if prototype.header.type = msgModeCommand then
    Function.update s.policyCommand i id else s.policyCommand
  policyAck : s'.policyAck = s.policyAck
  scheduledMode : s'.scheduledMode = s.scheduledMode
  operatorPolicy : s'.operatorPolicy = s.operatorPolicy
  trace : s'.trace = .finished id (resultState result) 0 ::
    .handed id (peerFor defaultRoutes prototype i) ::
      .queued (newRecord defaultRoutes prototype i false 0 id) :: s.trace

theorem findCommand_of_unique {id : UInt16} {slot : Fin 64} (hid : id ≠ 0)
    (hslot : (s.commands slot).id = id)
    (hother : ∀ other, other ≠ slot → (s.commands other).id ≠ id) :
    findCommand s id = some slot := by
  cases hfind : findCommand s id with
  | none => exact absurd hslot (findCommand_none hfind hid slot)
  | some found =>
      congr 1
      by_contra hne
      exact hother found hne (findCommand_some hfind).2

variable {prototype : TestMessage} {i : Fin 6} {id : UInt16}

/-- The state with the request in the queue. -/
def filed (s : Central) (prototype : TestMessage) (i : Fin 6) (id : UInt16) : Central :=
  fileRequest defaultRoutes s prototype i 0 false 0 id s.commandNext

theorem enqueue_calm (h : Calm s) (htarget : expand prototype (some i) = [i])
    (hid : nextIdLocked s = some id) :
    queueStep defaultRoutes s (.enqueue prototype (some i) 0 false 0) =
      filed s prototype i id := by
  simp only [queueStep, enqueueCommand, admitted_calm h, htarget, List.foldlM_cons,
    List.foldlM_nil, enqueueOne, hid, freeSlot_calm (h.finished s.commandNext),
    Option.bind_eq_bind, Option.bind_some]
  rfl

/-- The state with the request sent and not yet answered. -/
def underWay (s : Central) (prototype : TestMessage) (i : Fin 6) (id : UInt16) : Central :=
  let peer := peerFor defaultRoutes prototype i
  let s' := filed s prototype i id
  { s' with
    queue := Function.update s'.queue peer ((s'.queue peer).eraseAt 0)
    commands := Function.update s'.commands s.commandNext
      { newRecord defaultRoutes prototype i false 0 id with state := .sending }
    inFlight := Function.update s'.inFlight peer
      (some (stamp (newEntry prototype i 0 0 id) blankTimestamp))
    trace := .handed id peer :: s'.trace }

theorem filed_find (hid : nextIdLocked s = some id) :
    findCommand (filed s prototype i id) id = some s.commandNext := by
  obtain ⟨hne, hfree⟩ := nextIdFrom_some hid
  apply findCommand_of_unique hne
  · show (Function.update s.commands s.commandNext _ s.commandNext).id = id
    rw [Function.update_self]
    rfl
  · intro other hother
    show (Function.update s.commands s.commandNext _ other).id ≠ id
    rw [Function.update_of_ne hother]
    exact (unreserved hne hfree).1 other

theorem filed_ring (h : Calm s) :
    ((filed s prototype i id).queue (peerFor defaultRoutes prototype i)).position
        (fun work => work.notBefore ≤ 0) = some 0 ∧
      ((filed s prototype i id).queue (peerFor defaultRoutes prototype i)).get 0 =
        newEntry prototype i 0 0 id := by
  have hring : (filed s prototype i id).queue (peerFor defaultRoutes prototype i) =
      (s.queue (peerFor defaultRoutes prototype i)).append (newEntry prototype i 0 0 id) :=
    Function.update_self ..
  have hget : ((s.queue (peerFor defaultRoutes prototype i)).append
      (newEntry prototype i 0 0 id)).get 0 = newEntry prototype i 0 0 id := by
    have hself := Ring.get_set_self (s.queue (peerFor defaultRoutes prototype i))
      (s.queue (peerFor defaultRoutes prototype i)).count (newEntry prototype i 0 0 id)
    rw [h.empty] at hself
    unfold Ring.append
    rw [h.empty]
    exact hself
  rw [hring]
  refine ⟨?_, hget⟩
  unfold Ring.position
  rw [Ring.append_count, h.empty]
  show List.find? _ [0] = some 0
  rw [List.find?_cons_of_pos]
  rw [hget]
  exact decide_eq_true (by simp [newEntry])

theorem take_filed (h : Calm s) (hid : nextIdLocked s = some id) :
    queueStep defaultRoutes (filed s prototype i id)
        (.take (peerFor defaultRoutes prototype i) 0 0 blankTimestamp) =
      underWay s prototype i id := by
  obtain ⟨hposition, hget⟩ := @filed_ring s prototype i id h
  have hrunning : (filed s prototype i id).running = true := h.running
  have hidle : (filed s prototype i id).inFlight (peerFor defaultRoutes prototype i) = none :=
    h.idle _
  have hrecord : (filed s prototype i id).commands s.commandNext =
      newRecord defaultRoutes prototype i false 0 id :=
    Function.update_self ..
  have hready : (if peerFor defaultRoutes prototype i = trainPeer then
      trainReady (withoutEntry (filed s prototype i id) (peerFor defaultRoutes prototype i) 0) 0
      else localReady defaultRoutes
        (withoutEntry (filed s prototype i id) (peerFor defaultRoutes prototype i) 0) i 0) =
          true := by
    split
    · show trainReady s 0 = true
      exact trainReady_calm h
    · show localReady defaultRoutes s i 0 = true
      exact localReady_calm h i
  have hfind : findCommand (withoutEntry (filed s prototype i id)
      (peerFor defaultRoutes prototype i) 0) (newEntry prototype i 0 0 id).id =
        some s.commandNext :=
    filed_find hid
  have htake : takeCommand defaultRoutes (filed s prototype i id)
      (peerFor defaultRoutes prototype i) 0 0 blankTimestamp =
        ⟨{ underWay s prototype i id with inFlight := (filed s prototype i id).inFlight },
          some (stamp (newEntry prototype i 0 0 id) blankTimestamp), true⟩ := by
    have hrecord' : (withoutEntry (filed s prototype i id)
        (peerFor defaultRoutes prototype i) 0).commands s.commandNext =
          newRecord defaultRoutes prototype i false 0 id := hrecord
    have hfresh :
        0 < (newEntry prototype i 0 0 id).notBefore + commandMaxWaitSec * centralNsec := by
      simp [newEntry, commandMaxWaitSec, centralNsec]
    rw [takeCommand_of_position hrunning hposition, hget,
      admitWork_ready hfind (by rw [hrecord']; rfl) hfresh (by rw [hrecord']; exact hready),
      hrecord']
    rfl
  show takeStep defaultRoutes (filed s prototype i id) _ 0 0 blankTimestamp = _
  unfold takeStep
  rw [hidle, htake]
  rfl

theorem sent_underWay (hid : nextIdLocked s = some id) (result : CentralFrames.SendResult) :
    queueStep defaultRoutes (underWay s prototype i id)
        (.sent (peerFor defaultRoutes prototype i) result 0) =
      { underWay s prototype i id with
        commands := Function.update (filed s prototype i id).commands s.commandNext
          (answered prototype i result id)
        inFlight := Function.update (underWay s prototype i id).inFlight
          (peerFor defaultRoutes prototype i) none
        trace := .finished id (resultState result) 0 :: (underWay s prototype i id).trace } := by
  have hwork : (underWay s prototype i id).inFlight (peerFor defaultRoutes prototype i) =
      some (stamp (newEntry prototype i 0 0 id) blankTimestamp) :=
    Function.update_self ..
  have hrecord : (underWay s prototype i id).commands s.commandNext =
      { newRecord defaultRoutes prototype i false 0 id with state := .sending } :=
    Function.update_self ..
  have hfind : findCommand (underWay s prototype i id) id = some s.commandNext := by
    obtain ⟨hne, hfree⟩ := nextIdFrom_some hid
    apply findCommand_of_unique hne
    · rw [hrecord]
      rfl
    · intro other hother
      show (Function.update (Function.update s.commands s.commandNext _) s.commandNext _
        other).id ≠ id
      rw [Function.update_of_ne hother, Function.update_of_ne hother]
      exact (unreserved hne hfree).1 other
  show sentStep (underWay s prototype i id) _ result 0 = _
  rw [sentStep_of_find hwork hfind]
  unfold finishCommand
  rw [hrecord]
  simp only [underWay, Function.update_idem]
  rfl

theorem exchanged (h : Calm s) (htarget : expand prototype (some i) = [i])
    (hid : nextIdLocked s = some id) (result : CentralFrames.SendResult) :
    Exchanged s (run (queueStep defaultRoutes) s (exchange prototype i result)) prototype i
      result id := by
  have hrun : run (queueStep defaultRoutes) s (exchange prototype i result) =
      queueStep defaultRoutes (underWay s prototype i id)
        (.sent (peerFor defaultRoutes prototype i) result 0) := by
    simp only [exchange, run_cons, run_nil, enqueue_calm h htarget hid, take_filed h hid]
  rw [hrun, sent_underWay hid result]
  constructor
  · constructor
    · exact h.running
    · exact h.monitor
    · exact h.connected
    · exact h.probe
    · intro peer
      show (Function.update (filed s prototype i id).queue _ _ peer).count = 0
      by_cases hpeer : peer = peerFor defaultRoutes prototype i
      · subst hpeer
        rw [Function.update_self]
        show (Function.update s.queue _ _ (peerFor defaultRoutes prototype i)).count - 1 = 0
        rw [Function.update_self, Ring.append_count, h.empty]
      · rw [Function.update_of_ne hpeer]
        show (Function.update s.queue _ _ peer).count = 0
        rw [Function.update_of_ne hpeer]
        exact h.empty peer
    · intro peer
      show Function.update (Function.update s.inFlight _ _) _ none peer = none
      rw [Function.update_idem]
      by_cases hpeer : peer = peerFor defaultRoutes prototype i
      · rw [hpeer, Function.update_self]
      · rw [Function.update_of_ne hpeer]
        exact h.idle peer
    · intro slot
      show (Function.update (Function.update s.commands s.commandNext _) s.commandNext _
        slot).busy =
        false
      by_cases hslot : slot = s.commandNext
      · subst hslot
        rw [Function.update_self]
        cases result <;> simp [answered, CommandRecord.busy, resultState]
      · rw [Function.update_of_ne hslot, Function.update_of_ne hslot]
        exact h.finished slot
  · rfl
  · rfl
  · exact Function.update_idem ..
  · show (if prototype.header.type = msgModeCommand ∧ false = false then _ else _) = _
    simp
  · rfl
  · rfl
  · rfl
  · rfl

/-- A Train command as Central sends it. -/
def trainFrame : TestMessage :=
  frameOf msgTest controllerCentral controllerTrain
    (Decimal.ascii ['s', 't', 'a', 't', 'u', 's'])

def trainExchanges (k : Nat) : List QueueAction :=
  (List.replicate k (exchange trainFrame 0 .ok)).flatten

theorem unreserved_of_above {id : UInt16}
    (hrecords : ∀ slot, (s.commands slot).id ≠ id) (hpolicy : ∀ i, s.policyCommand i ≠ id) :
    reserved s id = false := by
  by_contra hreserved
  rw [Bool.not_eq_false] at hreserved
  obtain ⟨holder | holder, hholder⟩ := holder_of_reserved hreserved
  · exact hrecords holder hholder
  · exact hpolicy holder hholder

theorem ne_of_toNat_lt {a b : UInt16} (h : a.toNat < b.toNat) : a ≠ b := by
  rintro rfl
  exact Nat.lt_irrefl _ h

/-- What a Train command adds to the trace. -/
def TrainEvent : QueueEvent → Prop
  | .queued record => record.modeRequest = zeroMode
  | .resumed _ => False
  | _ => True

/-- The state after a number of Train commands: the counter has moved on by that
number, and as many slots hold their records. -/
structure Advanced (s s' : Central) (k : Nat) : Prop where
  calm : Calm s'
  nextId : s'.nextId.toNat = s.nextId.toNat + k
  commandNext : s'.commandNext = s.commandNext + Fin.ofNat 64 k
  kept : ∀ slot, (s'.commands slot).id = (s.commands slot).id ∨
    (s'.commands slot).id.toNat ≤ s.nextId.toNat + k
  replaced : ∀ j < k,
    s.nextId.toNat < (s'.commands (s.commandNext + Fin.ofNat 64 j)).id.toNat
  policyCommand : s'.policyCommand = s.policyCommand
  policyAck : s'.policyAck = s.policyAck
  scheduledMode : s'.scheduledMode = s.scheduledMode
  operatorPolicy : s'.operatorPolicy = s.operatorPolicy
  trace : ∃ newer, s'.trace = newer ++ s.trace ∧ ∀ event ∈ newer, TrainEvent event

/-- An id that the counter will not meet on its next steps. -/
def Clear (s : Central) (k : Nat) (id : UInt16) : Prop :=
  id.toNat ≤ s.nextId.toNat ∨ s.nextId.toNat + k < id.toNat

theorem advanced (h : Calm s) {k : Nat} (hrecords : ∀ slot, Clear s k (s.commands slot).id)
    (hpolicy : ∀ i, Clear s k (s.policyCommand i)) (hk : s.nextId.toNat + k ≤ 65535) :
    Advanced s (run (queueStep defaultRoutes) s (trainExchanges k)) k := by
  have hclear : ∀ {id : UInt16} {j : Nat}, Clear s (j + 1) id → Clear s j id := by
    intro id j hid
    unfold Clear at hid ⊢
    omega
  induction k with
  | zero =>
      exact ⟨h, rfl, (add_zero _).symm, fun slot => Or.inl rfl,
        fun j hj => absurd hj (Nat.not_lt_zero j), rfl, rfl, rfl, rfl, [], rfl, nofun⟩
  | succ k ih =>
      have hadvanced := ih (fun slot => hclear (hrecords slot)) (fun i => hclear (hpolicy i))
        (by omega)
      have hexchanges : trainExchanges (k + 1) =
          trainExchanges k ++ exchange trainFrame 0 .ok := by
        unfold trainExchanges
        rw [List.replicate_succ', List.flatten_append, List.flatten_singleton]
      rw [hexchanges, run_append]
      generalize run (queueStep defaultRoutes) s (trainExchanges k) = s₁ at hadvanced ⊢
      have hbump : (bumpId s₁.nextId).toNat = s.nextId.toNat + k + 1 := by
        rw [toNat_bumpId, hadvanced.nextId]
        omega
      have hnew : ∀ {id : UInt16}, Clear s (k + 1) id → id ≠ bumpId s₁.nextId := by
        rintro id hid rfl
        unfold Clear at hid
        omega
      -- a record is either an old one, whose id is clear of the run, or one of the run itself
      have hfree : reserved s₁ (bumpId s₁.nextId) = false := by
        apply unreserved_of_above
        · intro slot
          rcases hadvanced.kept slot with hold | hbelow
          · rw [hold]
            exact hnew (hrecords slot)
          · exact ne_of_toNat_lt (by omega)
        · intro i
          rw [hadvanced.policyCommand]
          exact hnew (hpolicy i)
      have hstep := @exchanged s₁ trainFrame 0 _ hadvanced.calm (by decide)
        (nextIdLocked_succ hfree) .ok
      generalize run (queueStep defaultRoutes) s₁ (exchange trainFrame 0 .ok) = s₂ at hstep ⊢
      obtain ⟨newer, htrace, hnewer⟩ := hadvanced.trace
      constructor
      · exact hstep.calm
      · rw [hstep.nextId, hbump]
        rfl
      · rw [hstep.commandNext, hadvanced.commandNext, add_assoc]
        congr 1
        apply Fin.ext
        simp only [Fin.val_add, Fin.ofNat]
        show (k % 64 + 1) % 64 = (k + 1) % 64
        omega
      · intro slot
        rw [hstep.commands]
        by_cases hslot : slot = s₁.commandNext
        · rw [hslot, Function.update_self]
          right
          show (bumpId s₁.nextId).toNat ≤ _
          omega
        · rw [Function.update_of_ne hslot]
          exact (hadvanced.kept slot).imp id fun hbelow => by omega
      · intro j hj
        rw [hstep.commands]
        by_cases hslot : s.commandNext + Fin.ofNat 64 j = s₁.commandNext
        · rw [hslot, Function.update_self]
          show _ < (bumpId s₁.nextId).toNat
          omega
        · rw [Function.update_of_ne hslot]
          apply hadvanced.replaced j
          have hne : j ≠ k := by
            rintro rfl
            exact hslot hadvanced.commandNext.symm
          omega
      · rw [hstep.policyCommand, if_neg (by decide), hadvanced.policyCommand]
      · rw [hstep.policyAck, hadvanced.policyAck]
      · rw [hstep.scheduledMode, hadvanced.scheduledMode]
      · rw [hstep.operatorPolicy, hadvanced.operatorPolicy]
      · refine ⟨_ :: _ :: _ :: newer, by rw [hstep.trace, htrace]; rfl, ?_⟩
        intro event hmem
        simp only [List.mem_cons] at hmem
        rcases hmem with rfl | rfl | rfl | hmem
        · trivial
        · trivial
        · show (if trainFrame.header.type = msgModeCommand then
            ModeCmdMsg.ofData trainFrame.data else zeroMode) = zeroMode
          rw [if_neg (by decide)]
        · exact hnewer event hmem

theorem newer_of_replaced {s' : Central} {k : Nat}
    (h : ∀ j < k, s.nextId.toNat < (s'.commands (s.commandNext + Fin.ofNat 64 j)).id.toNat)
    (hk : 64 ≤ k) (slot : Fin 64) : s.nextId.toNat < (s'.commands slot).id.toNat := by
  have hslot : s.commandNext + Fin.ofNat 64 (slot - s.commandNext).val = slot := by
    simp
  have hturn := (slot - s.commandNext).isLt
  have hreplaced := h (slot - s.commandNext).val (by omega)
  rwa [hslot] at hreplaced

/-- The state after a number of Train commands: the counter has moved on by that
number, and as many slots hold newer ids. -/
structure Driven (s s' : Central) (k : Nat) : Prop where
  calm : Calm s'
  nextId : s'.nextId.toNat = s.nextId.toNat + k
  commandNext : s'.commandNext = s.commandNext + Fin.ofNat 64 k
  below : ∀ slot, (s'.commands slot).id.toNat ≤ s.nextId.toNat + k
  replaced : ∀ j < k,
    s.nextId.toNat < (s'.commands (s.commandNext + Fin.ofNat 64 j)).id.toNat
  policyCommand : s'.policyCommand = s.policyCommand
  policyAck : s'.policyAck = s.policyAck
  scheduledMode : s'.scheduledMode = s.scheduledMode
  operatorPolicy : s'.operatorPolicy = s.operatorPolicy
  trace : ∃ newer, s'.trace = newer ++ s.trace

theorem driven (h : Calm s) (hbelow : ∀ slot, (s.commands slot).id.toNat ≤ s.nextId.toNat)
    (hpolicy : ∀ i, (s.policyCommand i).toNat ≤ s.nextId.toNat) {k : Nat}
    (hk : s.nextId.toNat + k ≤ 65535) :
    Driven s (run (queueStep defaultRoutes) s (trainExchanges k)) k := by
  have hadvanced := advanced h (fun slot => Or.inl (hbelow slot)) (fun i => Or.inl (hpolicy i)) hk
  obtain ⟨newer, htrace, -⟩ := hadvanced.trace
  constructor
  · exact hadvanced.calm
  · exact hadvanced.nextId
  · exact hadvanced.commandNext
  · intro slot
    rcases hadvanced.kept slot with hold | hnew
    · rw [hold]
      exact (hbelow slot).trans (Nat.le_add_right ..)
    · exact hnew
  · exact hadvanced.replaced
  · exact hadvanced.policyCommand
  · exact hadvanced.policyAck
  · exact hadvanced.scheduledMode
  · exact hadvanced.operatorPolicy
  · exact ⟨newer, htrace⟩

theorem Driven.newer {s' : Central} {k : Nat} (h : Driven s s' k) (hk : 64 ≤ k) (slot : Fin 64) :
    s.nextId.toNat < (s'.commands slot).id.toNat :=
  newer_of_replaced h.replaced hk slot

end TrafficLight.CommandCycles
