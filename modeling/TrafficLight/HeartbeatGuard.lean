import TrafficLight.EndpointFlags

namespace TrafficLight.HeartbeatGuard

open TrafficLight.Runs
open TrafficLight.Protocol
open TrafficLight.Telemetry
open TrafficLight.CentralFrames
open TrafficLight.CentralMonitor
open TrafficLight.CommandQueue
open TrafficLight.QueueOperations
open TrafficLight.CommandAdmission
open TrafficLight.QueueOrder
open TrafficLight.AllOrNothing
open TrafficLight.CommandBooks
open TrafficLight.PeerThreads
open TrafficLight.EndpointFlags

variable {routes : Routes}

/-- The last heartbeat of the peer was answered, and everything sent to the peer
since got an answer. -/
def Answering (peer : Fin 8) : List PeerEvent → Prop
  | [] => False
  | .answered other :: older => other = peer ∨ Answering peer older
  | .released other _ :: older => other ≠ peer ∧ Answering peer older
  | .connected other :: older => other ≠ peer ∧ Answering peer older
  | .missed other :: older => other ≠ peer ∧ Answering peer older
  | .lost other :: older => other ≠ peer ∧ Answering peer older
  | .returned other result :: older =>
      (other = peer → definite result = true) ∧ Answering peer older
  | .handed _ _ :: older => Answering peer older
  | .reported _ :: older => Answering peer older

/-- The heartbeats of the peer missed in a row. -/
def streak (peer : Fin 8) : List PeerEvent → Nat
  | [] => 0
  | .missed other :: older => streak peer older + if other = peer then 1 else 0
  | .answered other :: older => if other = peer then 0 else streak peer older
  | .connected other :: older => if other = peer then 0 else streak peer older
  | _ :: older => streak peer older

/-- The intersection has reported since its endpoint was last lost. -/
def Reporting (routes : Routes) (i : Fin 6) : List PeerEvent → Prop
  | [] => False
  | .reported id :: older => id = i.val ∨ Reporting routes i older
  | .lost peer :: older => routes.route i ≠ peer ∧ Reporting routes i older
  | _ :: older => Reporting routes i older

/-- What an event presupposes of the log before it. -/
def Justified (routes : Routes) : PeerEvent → List PeerEvent → Prop
  | .handed peer target, older => Answering peer older ∧
      (peer ≠ trainPeer →
        ∃ i, target = some i ∧ routes.route i = peer ∧ Reporting routes i older)
  | .lost peer, older => streak peer older = heartbeatMissLimit
  | _, _ => True

def AllJustified (routes : Routes) (log : List PeerEvent) : Prop :=
  ∀ event older, (event :: older) <:+ log → Justified routes event older

theorem AllJustified.cons {event : PeerEvent} {log : List PeerEvent}
    (h : AllJustified routes log) (hevent : Justified routes event log) :
    AllJustified routes (event :: log) := by
  intro newer older hsuffix
  rcases List.suffix_cons_iff.mp hsuffix with heq | hsuffix
  · obtain ⟨rfl, rfl⟩ := List.cons.inj heq
    exact hevent
  · exact h newer older hsuffix

/-- The events that no thread but the one of the peer writes. -/
def concerns (peer : Fin 8) : PeerEvent → Bool
  | .released other _ => other = peer
  | .connected other => other = peer
  | .answered other => other = peer
  | .missed other => other = peer
  | .lost other => other = peer
  | .handed other _ => other = peer
  | .returned other _ => other = peer
  | .reported _ => false

theorem answering_skip {peer : Fin 8} {event : PeerEvent} (h : concerns peer event = false)
    {log : List PeerEvent} (hlog : Answering peer log) : Answering peer (event :: log) := by
  cases event <;> simp_all [concerns, Answering]

theorem streak_skip {peer : Fin 8} {event : PeerEvent} (h : concerns peer event = false)
    (log : List PeerEvent) : streak peer (event :: log) = streak peer log := by
  cases event <;> simp_all [concerns, streak]

/-- A record for a Local is filed with the endpoint of its intersection. -/
def Routed (routes : Routes) (s : Central) : Prop :=
  ∀ slot, (s.commands slot).id ≠ 0 → (s.commands slot).peer = trainPeer ∨
    (s.commands slot).peer = routes.route (s.commands slot).target

theorem Routed.sameFiles {s s' : Central} (h : Routed routes s) (hfiles : SameFiles s s') :
    Routed routes s' := by
  intro slot hid
  rw [hfiles.id] at hid
  rw [hfiles.peer, hfiles.target]
  exact h slot hid

theorem sameFiles_update {s : Central} {slot : Fin 64} {record : CommandRecord}
    (h : CommandRecord.file record = CommandRecord.file (s.commands slot)) :
    SameFiles s { s with commands := Function.update s.commands slot record } := by
  intro other
  dsimp only
  by_cases hother : other = slot
  · rw [hother, Function.update_self]
    exact h
  · rw [Function.update_of_ne hother]

theorem sameFiles_takeStep (s : Central) (peer : Fin 8) (now later : Nat)
    (timestamp : Fin 32 → UInt8) : SameFiles s (takeStep routes s peer now later timestamp) := by
  have htaken : SameFiles s (takeCommand routes s peer now later timestamp).central := by
    rcases @takeCommand_cases routes s peer now later timestamp with
      ⟨-, htaken⟩ | ⟨i, -, -, hadmission⟩
    · rw [htaken]
      exact fun _ => rfl
    · generalize takeCommand routes s peer now later timestamp = taken at hadmission ⊢
      cases hadmission with
      | stale => exact fun _ => rfl
      | dropped => exact sameFiles_update rfl
      | handed => exact sameFiles_update rfl
  unfold takeStep
  split
  · exact fun _ => rfl
  · dsimp only
    split
    · exact htaken
    · exact htaken

theorem sameFiles_sentStep (s : Central) (peer : Fin 8) (result : SendResult) (now : Nat) :
    SameFiles s (sentStep s peer result now) := by
  unfold sentStep
  split
  · exact fun _ => rfl
  · dsimp only [sendDone]
    split
    · exact fun _ => rfl
    · exact sameFiles_update rfl

theorem sameFiles_discardQueue (s : Central) (peer : Fin 8) (now : Nat) :
    SameFiles s (discardQueue s peer now) := by
  rw [discardQueue_eq]
  exact sameFiles_finishAll .canceled now s (discarded s peer)

theorem sameFiles_recordLost (s : Central) (peer : Fin 8) (now : Nat) :
    SameFiles s (recordLost routes s peer now) := by
  intro slot
  unfold recordLost
  rw [sameFiles_discardQueue]

theorem sameFiles_discardQueues (s : Central) (now : Nat) (order : List (Fin 8)) :
    SameFiles s (order.foldl (fun s peer => discardQueue s peer now) s) := by
  induction order generalizing s with
  | nil => exact fun _ => rfl
  | cons peer order ih =>
      intro slot
      rw [List.foldl_cons, ih (discardQueue s peer now) slot,
        sameFiles_discardQueue s peer now slot]

theorem Routed.request {s : Central} (h : Routed routes s) (hbounded : Bounded s)
    (r : Request) : Routed routes (queueStep routes s r.action) := by
  cases r with
  | enqueue prototype target delay automatic now =>
      rcases @enqueueCommand_cases routes s prototype target delay automatic now with
        ⟨refusal, -, hresult⟩ | ⟨s', fresh, -, hresult, -, hfiles⟩
      · simp only [Request.action, queueStep, hresult]
        exact h
      · simp only [Request.action, queueStep, hresult]
        intro slot hid
        by_cases hslot : slot ∈ fresh.map Fresh.slot
        · obtain ⟨f, hf, rfl⟩ := List.mem_map.mp hslot
          rw [hfiles.commands_fresh hf]
          show peerFor routes prototype f.target = trainPeer ∨
            peerFor routes prototype f.target = routes.route f.target
          unfold peerFor
          split
          · exact .inl rfl
          · exact .inr rfl
        · rw [hfiles.commands_other hslot] at hid ⊢
          exact h slot hid
  | cancel target now =>
      exact h.sameFiles (foldl_cancelPeer (nodup_peers routes) hbounded).2.1
  | stop now =>
      exact h.sameFiles (sameFiles_discardQueues { s with running := false } now (peers routes))
  | release target => exact h
  | operator policyAck scheduledMode operatorPolicy => exact h

/-- An entry that counts as reported. -/
def synchronized (m : Monitor) (i : Fin 6) : Bool := (m.intersections i.val).synchronized

theorem synchronized_disconnected {m : Monitor} {source : UInt16} {i : Fin 6}
    (h : synchronized (centralPeerDisconnected m source) i = true) :
    synchronized m i = true := by
  unfold centralPeerDisconnected at h
  split at h
  · exact h
  · rename_i peer hindex
    cases peer with
    | localPeer => simp [synchronized, Monitor.unsynchronize] at h
    | trainPeer => exact h

theorem synchronized_observe {m : Monitor} {source : UInt16} {now : Nat} {i : Fin 6}
    (h : synchronized (centralObservePeer m source now).2 i = true) :
    synchronized m i = true := by
  unfold centralObservePeer at h
  split at h
  · exact h
  · dsimp only at h
    split at h
    · exact synchronized_disconnected h
    · exact h

theorem synchronized_report {m : Monitor} {report : Report} {now : Nat} {i : Fin 6}
    (h : synchronized (monitorStep m (report.call now)) i = true) :
    .reported i.val ∈ report.events ∨ synchronized m i = true := by
  cases report with
  | status s =>
      simp only [Report.call, monitorStep, centralMonitorStatus] at h
      simp only [Report.events]
      split at h
      · rename_i haccepted
        rw [if_pos haccepted, List.mem_singleton, PeerEvent.reported.injEq]
        by_cases hid : i.val = s.intersectionId.toNat
        · exact .inl hid
        · right
          simp only [Option.getD_some, synchronized] at h
          rw [Function.update_of_ne hid] at h
          exact synchronized_observe h
      · exact .inr h
  | railway s =>
      simp only [Report.call, monitorStep, centralMonitorRailway] at h
      right
      split at h
      · exact @synchronized_observe m controllerTrain now i h
      · exact h
  | heartbeat source beat =>
      simp only [Report.call, monitorStep, centralMonitorHeartbeat] at h
      right
      split at h
      · exact h
      · split at h
        · split at h
          · exact synchronized_observe h
          · exact synchronized_observe h
        · exact h

theorem synchronized_lost (hown : OwnTrain routes) {m : Monitor} {peer : Fin 8}
    {connected : Fin 8 → Bool} {i : Fin 6}
    (h : synchronized (lostMonitor routes m peer connected) i = true) :
    routes.route i ≠ peer ∧ synchronized m i = true := by
  have hrouted : synchronized (unsynchronizeRouted routes m peer) i = true →
      routes.route i ≠ peer ∧ synchronized m i = true := by
    intro hsync
    unfold synchronized unsynchronizeRouted at hsync
    dsimp only at hsync
    split at hsync
    · cases hsync
    · rename_i hnone
      exact ⟨fun heq => hnone ⟨i, rfl, heq⟩, hsync⟩
  unfold lostMonitor at h
  split at h
  · rename_i htrain
    exact ⟨htrain ▸ hown i, synchronized_disconnected h⟩
  · split at h
    · exact hrouted h
    · exact hrouted (synchronized_disconnected h)

theorem synchronized_of_ready {s : Central} {i : Fin 6} {now : Nat}
    (h : localReady routes s i now = true) : synchronized s.monitor i = true := by
  simp only [localReady, Bool.and_eq_true] at h
  have hcan := h.2
  unfold centralCanCommand at hcan
  split at hcan
  · cases hcan
  · simp only [Bool.and_eq_true] at hcan
    exact hcan.1.1.2

theorem ready_of_taken {s : Central} (hbooks : Books s) (hrouted : Routed routes s)
    {peer : Fin 8} {now later : Nat} {timestamp : Fin 32 → UInt8}
    (hready : (takeCommand routes s peer now later timestamp).ready = true)
    (hpeer : peer ≠ trainPeer) :
    ∃ i, takenTarget s (takeCommand routes s peer now later timestamp) = some i ∧
      routes.route i = peer ∧ synchronized s.monitor i = true := by
  rcases @takeCommand_cases routes s peer now later timestamp with
    ⟨-, htaken⟩ | ⟨k, hrunning, hposition, -⟩
  · rw [htaken] at hready
    cases hready
  · rw [takeCommand_of_position hrunning hposition] at hready ⊢
    have hwork : (s.queue peer).get k ∈ entries s peer :=
      List.mem_of_find?_eq_some (RingQueue.Ring.find_view_of_position hposition)
    generalize (s.queue peer).get k = work at hready hwork ⊢
    simp only [admitWork, if_neg hpeer] at hready ⊢
    cases hfind : findCommand (withoutEntry s peer k) work.id with
    | none =>
        rw [hfind] at hready
        cases hready
    | some slot =>
        have hfound : findCommand s work.id = some slot := hfind
        obtain ⟨hid, hrecordPeer, -⟩ := hbooks.matched.record hwork (findCommand_some hfound).2
        rw [hfind] at hready
        dsimp only at hready ⊢
        split at hready
        · cases hready
        · rename_i hstate
          rw [if_neg hstate]
          split at hready
          · cases hready
          · rename_i hfresh
            rw [if_neg hfresh]
            split at hready
            · cases hready
            · rename_i hlocal
              rw [if_neg hlocal]
              rw [Bool.not_eq_false] at hlocal
              refine ⟨(s.commands slot).target, ?_, ?_, ?_⟩
              · simp only [takenTarget, Option.bind_some, stamp, hfound, Option.map_some]
              · rcases hrouted slot ((findCommand_some hfound).2 ▸ hid) with htrain | hroute
                · exact absurd (hrecordPeer.symm.trans htrain) hpeer
                · exact hroute.symm.trans hrecordPeer
              · exact synchronized_of_ready hlocal

/-- What the place of a thread says about the heartbeats missed in a row. -/
def Missing (thread : PeerThread) (missed : Nat) : Prop :=
  match thread.place with
  | .connecting => True
  | .connected => True
  | .answered => thread.misses = 0
  | .losing => missed = heartbeatMissLimit
  | _ => thread.linkUp = true → missed = thread.misses ∧ thread.misses < heartbeatMissLimit

structure Guarded (routes : Routes) (t : Threads) : Prop where
  routed : Routed routes t.central
  answering : ∀ peer, (t.thread peer).commandReady = true → Answering peer t.log
  missing : ∀ peer, Missing (t.thread peer) (streak peer t.log)
  reporting : ∀ i, synchronized t.central.monitor i = true → Reporting routes i t.log
  justified : AllJustified routes t.log

theorem concerns_unique {peer other : Fin 8} {event : PeerEvent} (h : concerns peer event = true)
    (hother : other ≠ peer) : concerns other event = false := by
  cases event <;> simp_all [concerns] <;> exact fun heq => hother heq.symm

theorem Guarded.still {t : Threads} (h : Guarded routes t) {peer : Fin 8} {central : Central}
    {thread : PeerThread} (hrouted : Routed routes central)
    (hready : thread.commandReady = true → (t.thread peer).commandReady = true)
    (hmissing : Missing thread (streak peer t.log))
    (hsync : ∀ i, synchronized central.monitor i = true →
      synchronized t.central.monitor i = true) :
    Guarded routes ⟨central, Function.update t.thread peer thread, t.log⟩ := by
  constructor
  · exact hrouted
  · intro other
    dsimp only
    by_cases hother : other = peer
    · rw [hother, Function.update_self]
      exact fun hnext => h.answering peer (hready hnext)
    · rw [Function.update_of_ne hother]
      exact h.answering other
  · intro other
    dsimp only
    by_cases hother : other = peer
    · rw [hother, Function.update_self]
      exact hmissing
    · rw [Function.update_of_ne hother]
      exact h.missing other
  · exact fun i hi => h.reporting i (hsync i hi)
  · exact h.justified

theorem Guarded.event {t : Threads} (h : Guarded routes t) (event : PeerEvent) {peer : Fin 8}
    {central : Central} {thread : PeerThread} (hrouted : Routed routes central)
    (hconcerns : concerns peer event = true) (hevent : Justified routes event t.log)
    (hanswering : thread.commandReady = true → Answering peer (event :: t.log))
    (hmissing : Missing thread (streak peer (event :: t.log)))
    (hreporting : ∀ i, synchronized central.monitor i = true →
      Reporting routes i (event :: t.log)) :
    Guarded routes ⟨central, Function.update t.thread peer thread, event :: t.log⟩ := by
  constructor
  · exact hrouted
  · intro other
    dsimp only
    by_cases hother : other = peer
    · rw [hother, Function.update_self]
      exact hanswering
    · rw [Function.update_of_ne hother]
      intro hready
      exact answering_skip (concerns_unique hconcerns hother) (h.answering other hready)
  · intro other
    dsimp only
    by_cases hother : other = peer
    · rw [hother, Function.update_self]
      exact hmissing
    · rw [Function.update_of_ne hother, streak_skip (concerns_unique hconcerns hother)]
      exact h.missing other
  · exact hreporting
  · exact h.justified.cons hevent

theorem reporting_cons {event : PeerEvent} {log : List PeerEvent} {i : Fin 6}
    (hevent : ∀ peer, event ≠ .lost peer) (h : Reporting routes i log) :
    Reporting routes i (event :: log) := by
  cases event with
  | lost peer => exact absurd rfl (hevent peer)
  | reported id => exact .inr h
  | _ => exact h

theorem missing_released {thread : PeerThread} {missed nextTick : Nat}
    (h : thread.linkUp = true → missed = thread.misses ∧ thread.misses < heartbeatMissLimit) :
    Missing
      { thread with
        nextTick
        commandReady := false
        place := if thread.linkUp then .probing else .connecting } missed := by
  cases hup : thread.linkUp with
  | false => exact trivial
  | true => exact fun _ => h hup

theorem Guarded.waiting {t : Threads} (h : Guarded routes t) {peer : Fin 8}
    (hplace : (t.thread peer).place = .waiting) (turn : Turn) :
    Guarded routes (peerStep routes t peer turn) := by
  have hmissed := h.missing peer
  simp only [Missing, hplace] at hmissed
  simp only [peerStep, hplace, wake]
  split
  · exact h.still h.routed id hmissed fun _ => id
  · split
    · exact h.still h.routed id (by simpa only [Missing, hplace]) fun _ => id
    · split
      · refine @Guarded.still routes t h peer t.central _ h.routed id ?_ fun _ => id
        cases (t.thread peer).commandReady <;> exact hmissed
      · refine @Guarded.event routes t h (.released peer turn.later) peer t.central _ h.routed
          (by simp [concerns]) trivial (fun hready => absurd hready Bool.false_ne_true) ?_
          fun i hsync => reporting_cons (by simp) (h.reporting i hsync)
        exact missing_released hmissed

theorem Guarded.probing {t : Threads} (hwired : Wired t) (h : Guarded routes t) {peer : Fin 8}
    (hplace : (t.thread peer).place = .probing) (turn : Turn) :
    Guarded routes (peerStep routes t peer turn) := by
  have hup := (hwired.shaped peer).up (by simp [hplace])
  have hsilent := (hwired.shaped peer).silent (by simp [hplace])
  have hmissed := h.missing peer
  simp only [Missing, hplace] at hmissed
  obtain ⟨hstreak, hlow⟩ := hmissed hup
  have hreporting : ∀ i, synchronized t.central.monitor i = true →
      Reporting routes i (.missed peer :: t.log) :=
    fun i hsync => reporting_cons (by simp) (h.reporting i hsync)
  have hnext : streak peer (.missed peer :: t.log) = (t.thread peer).misses + 1 := by
    simp [streak, hstreak]
  simp only [peerStep, hplace, probed]
  split
  · exact h.still h.routed id rfl fun _ => id
  · split
    · rename_i hlimit
      refine @Guarded.event routes t h (.missed peer) peer t.central _ h.routed
        (by simp [concerns]) trivial (by simp [hsilent]) ?_ hreporting
      show streak peer (.missed peer :: t.log) = heartbeatMissLimit
      rw [hnext]
      omega
    · rename_i hlimit
      refine @Guarded.event routes t h (.missed peer) peer t.central _ h.routed
        (by simp [concerns]) trivial (by simp [hsilent]) ?_ hreporting
      exact fun _ => ⟨hnext, Nat.not_le.mp hlimit⟩

theorem Guarded.connecting {t : Threads} (hwired : Wired t) (h : Guarded routes t)
    {peer : Fin 8} (hplace : (t.thread peer).place = .connecting) (turn : Turn) :
    Guarded routes (peerStep routes t peer turn) := by
  have hsilent := (hwired.shaped peer).silent (by simp [hplace])
  simp only [peerStep, hplace]
  refine @Guarded.still routes t h peer t.central _ h.routed id ?_ fun _ => id
  cases turn.up with
  | false => exact fun hup => absurd hup Bool.false_ne_true
  | true => exact trivial

theorem Guarded.connected {t : Threads} (hwired : Wired t) (h : Guarded routes t)
    {peer : Fin 8} (hplace : (t.thread peer).place = .connected) (turn : Turn) :
    Guarded routes (peerStep routes t peer turn) := by
  have hsilent := (hwired.shaped peer).silent (by simp [hplace])
  simp only [peerStep, hplace]
  refine @Guarded.event routes t h (.connected peer) peer _ _ h.routed (by simp [concerns]) trivial
    (by simp [hsilent]) ?_ fun i hsync => reporting_cons (by simp) (h.reporting i hsync)
  exact fun _ => ⟨by simp [streak], by simp [heartbeatMissLimit]⟩

theorem Guarded.answered {t : Threads} (h : Guarded routes t) {peer : Fin 8}
    (hplace : (t.thread peer).place = .answered) (turn : Turn) :
    Guarded routes (peerStep routes t peer turn) := by
  have hmissed := h.missing peer
  simp only [Missing, hplace] at hmissed
  simp only [peerStep, hplace]
  refine @Guarded.event routes t h (.answered peer) peer _ _ h.routed (by simp [concerns]) trivial
    (fun _ => Or.inl rfl) ?_
    fun i hsync => reporting_cons (by simp) (h.reporting i (synchronized_observe hsync))
  exact fun _ => ⟨by simp [streak, hmissed], by simp [hmissed, heartbeatMissLimit]⟩

theorem Guarded.losing {t : Threads} (hown : OwnTrain routes) (hwired : Wired t)
    (h : Guarded routes t) {peer : Fin 8} (hplace : (t.thread peer).place = .losing)
    (turn : Turn) : Guarded routes (peerStep routes t peer turn) := by
  have hdown := (hwired.shaped peer).down (by simp [hplace])
  have hsilent := (hwired.shaped peer).silent (by simp [hplace])
  have hmissed := h.missing peer
  have hrouted := h.routed.sameFiles (@sameFiles_recordLost routes t.central peer turn.now)
  have hmonitor := (@keepsLinks_recordLost routes t.central peer turn.now).2.1
  simp only [Missing, hplace] at hmissed
  simp only [peerStep, hplace]
  generalize recordLost routes t.central peer turn.now = central at hrouted hmonitor ⊢
  refine @Guarded.event routes t h (.lost peer) peer central _ hrouted (by simp [concerns]) hmissed
    (by simp [hsilent]) ?_ ?_
  · exact fun hup => by simp [hdown] at hup
  · intro i hsync
    rw [hmonitor] at hsync
    obtain ⟨hroute, hbefore⟩ := synchronized_lost hown hsync
    exact ⟨hroute, h.reporting i hbefore⟩

theorem Guarded.taking {t : Threads} (hwired : Wired t) (hbooks : Books t.central)
    (h : Guarded routes t) {peer : Fin 8} (hplace : (t.thread peer).place = .taking)
    (turn : Turn) : Guarded routes (peerStep routes t peer turn) := by
  have hready := (hwired.shaped peer).asked (by simp [hplace])
  have hanswering := h.answering peer hready
  have hmissed := h.missing peer
  have hidle : (t.central.inFlight peer).isSome = false := by
    rw [← Bool.not_eq_true, hwired.flight]
    simp [hplace]
  have hmonitor := (@takeStep_flight routes t.central peer hidle turn.now turn.later
    turn.timestamp).1
  have hrouted := h.routed.sameFiles
    (@sameFiles_takeStep routes t.central peer turn.now turn.later turn.timestamp)
  have hgiven := @ready_of_taken routes t.central hbooks h.routed peer turn.now turn.later
    turn.timestamp
  simp only [Missing, hplace] at hmissed
  simp only [peerStep, hplace]
  generalize takeStep routes t.central peer turn.now turn.later turn.timestamp = central
    at hmonitor hrouted ⊢
  generalize takeCommand routes t.central peer turn.now turn.later turn.timestamp = taken
    at hgiven ⊢
  have hsync : ∀ i, synchronized central.monitor i = true →
      synchronized t.central.monitor i = true := by
    rw [hmonitor]
    exact fun _ => id
  cases hsent : taken.ready with
  | false => exact h.still hrouted id hmissed hsync
  | true =>
      refine @Guarded.event routes t h (.handed peer (takenTarget t.central taken)) peer central _
        hrouted (by simp [concerns]) ⟨hanswering, ?_⟩ (fun _ => hanswering) hmissed
        fun i hi => reporting_cons (by simp) (h.reporting i (hsync i hi))
      intro hpeer
      obtain ⟨i, htarget, hroute, hfresh⟩ := hgiven hsent hpeer
      exact ⟨i, htarget, hroute, h.reporting i hfresh⟩

theorem Guarded.sending {t : Threads} (h : Guarded routes t) {peer : Fin 8}
    (hplace : (t.thread peer).place = .sending) (turn : Turn) :
    Guarded routes (peerStep routes t peer turn) := by
  have hmissed := h.missing peer
  have hmonitor := (sentStep_flight t.central peer turn.result turn.now).1
  have hrouted := h.routed.sameFiles (sameFiles_sentStep t.central peer turn.result turn.now)
  simp only [Missing, hplace] at hmissed
  simp only [peerStep, hplace]
  generalize sentStep t.central peer turn.result turn.now = central at hmonitor hrouted ⊢
  refine @Guarded.event routes t h (.returned peer turn.result) peer central _ hrouted
    (by simp [concerns]) trivial ?_ hmissed ?_
  · intro hready
    obtain ⟨hbefore, hdefinite⟩ := Bool.and_eq_true_iff.mp hready
    exact ⟨fun _ => hdefinite, h.answering peer hbefore⟩
  · intro i hsync
    rw [hmonitor] at hsync
    exact reporting_cons (by simp) (h.reporting i hsync)

theorem Guarded.threadStep {t : Threads} (hown : OwnTrain routes) (hrunning : Running routes t)
    (h : Guarded routes t) (a : ThreadAction) : Guarded routes (threadStep routes t a) := by
  have hwired := wired_of_running hrunning
  cases a with
  | request r =>
      have hkeeps := @keepsLinks_request routes t.central r
      refine ⟨h.routed.request hwired.bounded r, h.answering, h.missing, ?_, h.justified⟩
      intro i hsync
      apply h.reporting i
      rw [← hkeeps.monitor]
      exact hsync
  | receive report now =>
      have hlog : report.events = [] ∨ ∃ id, report.events = [.reported id] := by
        cases report with
        | status s =>
            simp only [Report.events]
            split
            · exact .inr ⟨_, rfl⟩
            · exact .inl rfl
        | railway s => exact .inl rfl
        | heartbeat source beat => exact .inl rfl
      have hsync := fun i => @synchronized_report t.central.monitor report now i
      simp only [PeerThreads.threadStep]
      rcases hlog with hnone | ⟨id, hone⟩
      · rw [hnone] at hsync ⊢
        refine ⟨h.routed, h.answering, h.missing, ?_, h.justified⟩
        intro i hi
        exact h.reporting i ((hsync i hi).resolve_left List.not_mem_nil)
      · rw [hone] at hsync ⊢
        refine ⟨h.routed, h.answering, h.missing, ?_, h.justified.cons trivial⟩
        intro i hi
        rcases hsync i hi with hmem | hbefore
        · exact .inl (PeerEvent.reported.inj (List.mem_singleton.mp hmem)).symm
        · exact .inr (h.reporting i hbefore)
  | turn peer turn =>
      simp only [PeerThreads.threadStep]
      cases hplace : (t.thread peer).place with
      | waiting => exact h.waiting hplace turn
      | connecting => exact h.connecting hwired hplace turn
      | connected => exact h.connected hwired hplace turn
      | probing => exact h.probing hwired hplace turn
      | answered => exact h.answered hplace turn
      | losing => exact h.losing hown hwired hplace turn
      | taking => exact h.taking hwired (books_of_reached (reached_of_running hrunning)) hplace turn
      | sending => exact h.sending hplace turn
      | ended =>
          simp only [peerStep, hplace]
          exact h

theorem guarded_start (maxAgeSeconds : Nat) (starts : Fin 8 → Nat) :
    Guarded routes (threadsStart routes maxAgeSeconds starts) := by
  constructor
  · exact fun slot hid => absurd rfl hid
  · exact fun peer hready => by simp [threadsStart, threadStart] at hready
  · intro peer
    simp only [threadsStart, threadStart]
    split
    · exact fun hup => Bool.noConfusion hup
    · exact fun hup => Bool.noConfusion hup
  · intro i hsync
    simp [threadsStart, synchronized, centralStart, centralMonitorInit] at hsync
  · intro event older hsuffix
    cases List.suffix_nil.mp hsuffix

/-- Every request handed to a peer follows an answered heartbeat, with no
unanswered message and no new heartbeat in between; for a Local its intersection
has also reported since the endpoint was last lost. An endpoint is lost on the
third heartbeat missed in a row. -/
theorem requests_follow_heartbeats {t : Threads} (hown : OwnTrain routes)
    (h : Running routes t) : AllJustified routes t.log := by
  suffices hall : Running routes t ∧ Guarded routes t by exact hall.2.justified
  apply Reachable.invariant (I := fun t => Running routes t ∧ Guarded routes t) _ _ h
  · rintro t ⟨maxAgeSeconds, starts, rfl⟩
    exact ⟨Reachable.init ⟨maxAgeSeconds, starts, rfl⟩, guarded_start maxAgeSeconds starts⟩
  · rintro t a ⟨hrunning, hguarded⟩
    exact ⟨hrunning.step a, hguarded.threadStep hown hrunning a⟩

theorem requests_follow_heartbeats_sending : AllJustified defaultRoutes firstSending.log :=
  requests_follow_heartbeats ownTrain_default running_firstSending

end TrafficLight.HeartbeatGuard
