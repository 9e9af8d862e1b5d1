import TrafficLight.PeerThreads

namespace TrafficLight.EndpointFlags

open TrafficLight.Runs
open TrafficLight.Protocol
open TrafficLight.Telemetry
open TrafficLight.CentralFrames
open TrafficLight.CentralMonitor
open TrafficLight.CommandQueue
open TrafficLight.QueueOperations
open TrafficLight.QueueOrder
open TrafficLight.AllOrNothing
open TrafficLight.CommandBooks
open TrafficLight.PeerThreads

variable {routes : Routes}

/-- The endpoint of the thread is recorded as connected. -/
def recorded (thread : PeerThread) : Bool :=
  (thread.linkUp && thread.place ≠ .connected) || thread.place = .losing

/-- What the place of a thread says about its link. -/
structure Shaped (thread : PeerThread) : Prop where
  ready : thread.commandReady = true → thread.linkUp = true
  up : thread.place ∈ [.connected, .probing, .answered, .taking, .sending] →
    thread.linkUp = true
  down : thread.place ∈ [.connecting, .losing] → thread.linkUp = false
  asked : thread.place ∈ [.taking, .sending] → thread.commandReady = true
  silent : thread.place ∈ [.connecting, .connected, .probing, .answered, .losing] →
    thread.commandReady = false

/-- The flag of an endpoint, the request under way for it and the queue of its
requests agree with the state of its thread. -/
structure Wired (t : Threads) : Prop where
  bounded : Bounded t.central
  flag : ∀ peer, t.central.endpointConnected peer = recorded (t.thread peer)
  flight : ∀ peer, (t.central.inFlight peer).isSome = true ↔ (t.thread peer).place = .sending
  shaped : ∀ peer, Shaped (t.thread peer)
  queued : ∀ peer, entries t.central peer ≠ [] → t.central.endpointConnected peer = true

theorem bounded_threadStep {t : Threads} (h : Bounded t.central) (a : ThreadAction) :
    Bounded (threadStep routes t a).central := by
  obtain ⟨as, hrun⟩ := @central_threadStep routes t a
  rw [hrun]
  exact run_invariant (I := Bounded) (fun s a hs => (entries_queueStep hs a).1) h as

theorem Wired.turn {t : Threads} (h : Wired t) {peer : Fin 8} {central : Central}
    {thread : PeerThread} {log : List PeerEvent} (hbounded : Bounded central)
    (hflag : central.endpointConnected =
      Function.update t.central.endpointConnected peer (recorded thread))
    (hothers : ∀ other, other ≠ peer → central.inFlight other = t.central.inFlight other)
    (hflight : (central.inFlight peer).isSome = true ↔ thread.place = .sending)
    (hshaped : Shaped thread)
    (hqueued : ∀ other, entries central other ≠ [] →
      entries t.central other ≠ [] ∧ (other = peer → recorded thread = true)) :
    Wired ⟨central, Function.update t.thread peer thread, log⟩ := by
  constructor
  · exact hbounded
  · intro other
    dsimp only
    rw [hflag]
    by_cases hother : other = peer
    · rw [hother, Function.update_self, Function.update_self]
    · rw [Function.update_of_ne hother, Function.update_of_ne hother]
      exact h.flag other
  · intro other
    dsimp only
    by_cases hother : other = peer
    · rw [hother, Function.update_self]
      exact hflight
    · rw [Function.update_of_ne hother, hothers other hother]
      exact h.flight other
  · intro other
    dsimp only
    by_cases hother : other = peer
    · rw [hother, Function.update_self]
      exact hshaped
    · rw [Function.update_of_ne hother]
      exact h.shaped other
  · intro other hentries
    obtain ⟨hbefore, hpeer⟩ := hqueued other hentries
    dsimp only
    rw [hflag]
    by_cases hother : other = peer
    · rw [hother, Function.update_self]
      exact hpeer hother
    · rw [Function.update_of_ne hother]
      exact h.queued other hbefore

theorem Wired.put {t : Threads} (h : Wired t) {peer : Fin 8} {thread : PeerThread}
    {log : List PeerEvent} (hrecorded : recorded thread = recorded (t.thread peer))
    (hsending : thread.place = .sending ↔ (t.thread peer).place = .sending)
    (hshaped : Shaped thread) :
    Wired ⟨t.central, Function.update t.thread peer thread, log⟩ := by
  apply h.turn h.bounded _ (fun _ _ => rfl) _ hshaped
  · intro other hentries
    refine ⟨hentries, ?_⟩
    rintro rfl
    rw [hrecorded, ← h.flag other]
    exact h.queued other hentries
  · rw [hrecorded, ← h.flag peer, Function.update_eq_self]
  · rw [h.flight peer, hsending]

theorem shaped_wake {s : Central} {peer : Fin 8} {thread : PeerThread} (h : Shaped thread)
    (hplace : thread.place = .waiting) (turn : Turn) :
    Shaped (wake s peer thread turn).1 ∧
      recorded (wake s peer thread turn).1 = recorded thread ∧
      (wake s peer thread turn).1.place ≠ .sending := by
  obtain ⟨nextTick, misses, ready, up, place⟩ := thread
  dsimp only at hplace
  subst hplace
  have hready : ready = true → up = true := h.ready
  unfold wake
  split
  · exact ⟨⟨hready, by simp, by simp, by simp, by simp⟩, by simp [recorded], by simp⟩
  · split
    · exact ⟨h, rfl, by simp⟩
    · split
      · cases ready with
        | false => exact ⟨⟨hready, by simp, by simp, by simp, by simp⟩, by simp [recorded], by simp⟩
        | true =>
            exact ⟨⟨hready, fun _ => hready rfl, by simp, fun _ => rfl, by simp⟩,
              by simp [recorded], by simp⟩
      · cases up with
        | false =>
            exact ⟨⟨by simp, by simp, by simp, by simp, by simp⟩, by simp [recorded], by simp⟩
        | true =>
            exact ⟨⟨by simp, by simp, by simp, by simp, by simp⟩, by simp [recorded], by simp⟩

theorem shaped_probed {peer : Fin 8} {thread : PeerThread} (h : Shaped thread)
    (hplace : thread.place = .probing) (result : SendResult) :
    Shaped (probed peer thread result).1 ∧
      recorded (probed peer thread result).1 = recorded thread ∧
      (probed peer thread result).1.place ≠ .sending := by
  obtain ⟨nextTick, misses, ready, up, place⟩ := thread
  dsimp only at hplace
  subst hplace
  have hup : up = true := h.up (by simp)
  have hsilent : ready = false := h.silent (by simp)
  subst hup hsilent
  unfold probed
  split
  · exact ⟨⟨by simp, by simp, by simp, by simp, by simp⟩, by simp [recorded], by simp⟩
  · split
    · exact ⟨⟨by simp, by simp, by simp, by simp, by simp⟩, by simp [recorded], by simp⟩
    · exact ⟨⟨by simp, by simp, by simp, by simp, by simp⟩, by simp [recorded], by simp⟩

theorem entries_takeStep {s : Central} (h : Bounded s) (peer : Fin 8) (now later : Nat)
    (timestamp : Fin 32 → UInt8) {other : Fin 8}
    (hentries : entries (takeStep routes s peer now later timestamp) other ≠ []) :
    entries s other ≠ [] := by
  have hstep := (@entries_queueStep routes s h (.take peer now later timestamp)).2 other
  simp only [queueStep, queueOp] at hstep
  rw [hstep] at hentries
  intro hnil
  rw [hnil] at hentries
  split at hentries
  · exact hentries rfl
  · exact hentries rfl

theorem takeStep_flight {s : Central} {peer : Fin 8} (hidle : (s.inFlight peer).isSome = false)
    (now later : Nat) (timestamp : Fin 32 → UInt8) :
    (takeStep routes s peer now later timestamp).monitor = s.monitor ∧
      (takeStep routes s peer now later timestamp).endpointConnected = s.endpointConnected ∧
      (∀ other, other ≠ peer →
        (takeStep routes s peer now later timestamp).inFlight other = s.inFlight other) ∧
      ((takeStep routes s peer now later timestamp).inFlight peer).isSome =
        (takeCommand routes s peer now later timestamp).ready := by
  have hkeeps := @keepsLinks_takeCommand routes s peer now later timestamp
  unfold takeStep
  rw [if_neg (by simp [hidle])]
  dsimp only
  rcases @takeCommand_cases routes s peer now later timestamp with
    ⟨-, htaken⟩ | ⟨i, -, -, hadmission⟩
  · rw [htaken]
    exact ⟨rfl, rfl, fun _ _ => rfl, hidle⟩
  · generalize takeCommand routes s peer now later timestamp = taken at hkeeps hadmission ⊢
    have hsome : taken.ready = true → taken.work.isSome = true := by
      cases hadmission <;> simp
    cases hready : taken.ready with
    | false =>
        rw [if_neg (by simp)]
        exact ⟨hkeeps.monitor, hkeeps.connected,
          fun other _ => congrFun hkeeps.flight other, by rw [hkeeps.flight, hidle]⟩
    | true =>
        rw [if_pos rfl]
        refine ⟨hkeeps.monitor, hkeeps.connected, ?_, ?_⟩
        · intro other hother
          dsimp only
          rw [Function.update_of_ne hother, hkeeps.flight]
        · dsimp only
          rw [Function.update_self, hsome hready]

theorem sentStep_flight (s : Central) (peer : Fin 8) (result : SendResult) (now : Nat) :
    (sentStep s peer result now).monitor = s.monitor ∧
      (sentStep s peer result now).endpointConnected = s.endpointConnected ∧
      (sentStep s peer result now).inFlight = Function.update s.inFlight peer none := by
  unfold sentStep
  split
  · rename_i hidle
    refine ⟨rfl, rfl, ?_⟩
    rw [← hidle, Function.update_eq_self]
  · rename_i work hwork
    dsimp only [sendDone]
    split
    · exact ⟨rfl, rfl, rfl⟩
    · exact ⟨rfl, rfl, rfl⟩

theorem entries_sentStep (s : Central) (peer : Fin 8) (result : SendResult) (now : Nat)
    (other : Fin 8) : entries (sentStep s peer result now) other = entries s other := by
  unfold entries
  rw [sentStep_queue]

theorem entries_recordLost (s : Central) (peer : Fin 8) (now : Nat) (other : Fin 8) :
    entries (recordLost routes s peer now) other =
      if other = peer then [] else entries s other := by
  unfold entries recordLost
  dsimp only
  rw [discardQueue_queue]
  by_cases hother : other = peer
  · rw [hother, if_pos rfl, Function.update_self]
    rfl
  · rw [if_neg hother, Function.update_of_ne hother]

theorem keepsLinks_recordLost (s : Central) (peer : Fin 8) (now : Nat) :
    (recordLost routes s peer now).endpointConnected =
        Function.update s.endpointConnected peer false ∧
      (recordLost routes s peer now).monitor =
        lostMonitor routes s.monitor peer (Function.update s.endpointConnected peer false) ∧
      (recordLost routes s peer now).inFlight = s.inFlight := by
  have hkeeps := keepsLinks_discardQueue
    { s with
      endpointConnected := Function.update s.endpointConnected peer false
      endpointProbe := Function.update s.endpointProbe peer 0
      monitor := lostMonitor routes s.monitor peer
        (Function.update s.endpointConnected peer false) } peer now
  exact ⟨hkeeps.connected, hkeeps.monitor, hkeeps.flight⟩

theorem Wired.turnStep {t : Threads} (h : Wired t) (peer : Fin 8) (turn : Turn) :
    Wired (peerStep routes t peer turn) := by
  have hshaped := h.shaped peer
  have hflag := h.flag peer
  have hflight := h.flight peer
  have hbounded := @bounded_threadStep routes t h.bounded (.turn peer turn)
  simp only [threadStep] at hbounded
  cases hplace : (t.thread peer).place with
  | waiting =>
      obtain ⟨hnext, hrecorded, hsending⟩ :=
        @shaped_wake t.central peer (t.thread peer) hshaped hplace turn
      simp only [peerStep, hplace]
      exact h.put hrecorded (iff_of_false hsending (by simp [hplace])) hnext
  | connecting =>
      have hdown : (t.thread peer).linkUp = false := hshaped.down (by simp [hplace])
      have hsilent : (t.thread peer).commandReady = false := hshaped.silent (by simp [hplace])
      simp only [peerStep, hplace]
      apply h.put
      · cases turn.up <;> simp [recorded, hplace, hdown]
      · cases turn.up <;> simp [hplace]
      · cases turn.up with
        | false => exact ⟨by simp [hsilent], by simp, by simp, by simp, by simp [hsilent]⟩
        | true => exact ⟨by simp, by simp, by simp, by simp, by simp [hsilent]⟩
  | connected =>
      have hup : (t.thread peer).linkUp = true := hshaped.up (by simp [hplace])
      have hsilent : (t.thread peer).commandReady = false := hshaped.silent (by simp [hplace])
      simp only [peerStep, hplace] at hbounded ⊢
      apply h.turn hbounded _ (fun _ _ => rfl)
      · rw [show (recordConnected t.central peer).inFlight = t.central.inFlight from rfl]
        rw [hflight]
        simp [hplace]
      · exact ⟨by simp [hup], by simp [hup], by simp, by simp, by simp [hsilent]⟩
      · exact fun other hentries => ⟨hentries, fun _ => by simp [recorded, hup]⟩
      · simp [recordConnected, recorded, hup]
  | probing =>
      obtain ⟨hnext, hrecorded, hsending⟩ :=
        @shaped_probed peer (t.thread peer) hshaped hplace turn.result
      simp only [peerStep, hplace]
      exact h.put hrecorded (iff_of_false hsending (by simp [hplace])) hnext
  | answered =>
      have hup : (t.thread peer).linkUp = true := hshaped.up (by simp [hplace])
      have hrecorded : recorded (t.thread peer) = true := by simp [recorded, hplace, hup]
      simp only [peerStep, hplace] at hbounded ⊢
      apply h.turn hbounded _ (fun _ _ => rfl)
      · rw [show (recordAnswer t.central peer turn.now turn.later).inFlight =
          t.central.inFlight from rfl, hflight]
        simp [hplace]
      · exact ⟨fun _ => hup, by simp, by simp, by simp, by simp⟩
      · exact fun other hentries => ⟨hentries, fun _ => by simp [recorded, hup]⟩
      · rw [show (recordAnswer t.central peer turn.now turn.later).endpointConnected =
          t.central.endpointConnected from rfl]
        have hnext : recorded { t.thread peer with
            commandReady := true
            place := Place.waiting } = true := by
          simp [recorded, hup]
        rw [hnext, ← hrecorded, ← hflag, Function.update_eq_self]
  | losing =>
      -- the link is down already; the flag follows only in this section
      have hdown : (t.thread peer).linkUp = false := hshaped.down (by simp [hplace])
      have hsilent : (t.thread peer).commandReady = false := hshaped.silent (by simp [hplace])
      obtain ⟨hconnected, -, hlostFlight⟩ := @keepsLinks_recordLost routes t.central peer turn.now
      simp only [peerStep, hplace] at hbounded ⊢
      apply h.turn hbounded _ (fun other _ => congrFun hlostFlight other)
      · rw [hlostFlight, hflight]
        simp [hplace]
      · exact ⟨by simp [hsilent], by simp, by simp, by simp, by simp⟩
      · intro other hentries
        rw [entries_recordLost] at hentries
        split at hentries
        · exact absurd rfl hentries
        · rename_i hother
          exact ⟨hentries, fun heq => absurd heq hother⟩
      · rw [hconnected]
        simp [recorded, hdown]
  | taking =>
      -- what is taken here is under way until the section that records its result
      have hup : (t.thread peer).linkUp = true := hshaped.up (by simp [hplace])
      have hasked : (t.thread peer).commandReady = true := hshaped.asked (by simp [hplace])
      have hrecorded : recorded (t.thread peer) = true := by simp [recorded, hplace, hup]
      have hidle : (t.central.inFlight peer).isSome = false := by
        rw [← Bool.not_eq_true, hflight]
        simp [hplace]
      obtain ⟨-, hconnected, hothers, htaken⟩ :=
        @takeStep_flight routes t.central peer hidle turn.now turn.later turn.timestamp
      simp only [peerStep, hplace] at hbounded ⊢
      generalize (takeCommand routes t.central peer turn.now turn.later turn.timestamp).ready =
        ready at htaken hbounded ⊢
      have hnext : recorded { t.thread peer with
          place := if ready then Place.sending else Place.waiting } = true := by
        cases ready <;> simp [recorded, hup]
      apply h.turn hbounded _ hothers
      · rw [htaken]
        cases ready <;> simp
      · cases ready with
        | false => exact ⟨fun _ => hup, by simp, by simp, by simp, by simp⟩
        | true => exact ⟨fun _ => hup, fun _ => hup, by simp, fun _ => hasked, by simp⟩
      · intro other hentries
        exact ⟨entries_takeStep h.bounded peer turn.now turn.later turn.timestamp hentries,
          fun _ => hnext⟩
      · rw [hconnected, hnext, ← hrecorded, ← hflag, Function.update_eq_self]
  | sending =>
      have hup : (t.thread peer).linkUp = true := hshaped.up (by simp [hplace])
      have hrecorded : recorded (t.thread peer) = true := by simp [recorded, hplace, hup]
      obtain ⟨-, hconnected, hidle⟩ := sentStep_flight t.central peer turn.result turn.now
      have hnext : recorded { t.thread peer with
          commandReady := (t.thread peer).commandReady && definite turn.result
          place := Place.waiting } = true := by
        simp [recorded, hup]
      simp only [peerStep, hplace] at hbounded ⊢
      apply h.turn hbounded
      · rw [hconnected, hnext, ← hrecorded, ← hflag, Function.update_eq_self]
      · intro other hother
        rw [hidle, Function.update_of_ne hother]
      · rw [hidle, Function.update_self]
        simp
      · exact ⟨fun _ => hup, by simp, by simp, by simp, by simp⟩
      · intro other hentries
        rw [entries_sentStep] at hentries
        exact ⟨hentries, fun _ => hnext⟩
  | ended =>
      simp only [peerStep, hplace]
      exact h

theorem Wired.threadStep {t : Threads} (h : Wired t) (a : ThreadAction) :
    Wired (threadStep routes t a) := by
  have hbounded := @bounded_threadStep routes t h.bounded a
  cases a with
  | turn peer turn => exact h.turnStep peer turn
  | receive report now => exact ⟨hbounded, h.flag, h.flight, h.shaped, h.queued⟩
  | request r =>
      have hkeeps := @keepsLinks_request routes t.central r
      refine ⟨hbounded, ?_, ?_, h.shaped, ?_⟩
      · intro peer
        show (queueStep routes t.central r.action).endpointConnected peer = _
        rw [hkeeps.connected]
        exact h.flag peer
      · intro peer
        show ((queueStep routes t.central r.action).inFlight peer).isSome = true ↔ _
        rw [hkeeps.flight]
        exact h.flight peer
      · intro peer hentries
        show (queueStep routes t.central r.action).endpointConnected peer = true
        rw [hkeeps.connected]
        rcases entries_request h.bounded r hentries with hbefore | hconnected
        · exact h.queued peer hbefore
        · exact hconnected

theorem wired_start (maxAgeSeconds : Nat) (starts : Fin 8 → Nat) :
    Wired (threadsStart routes maxAgeSeconds starts) := by
  constructor
  · exact fun peer => Nat.zero_le _
  · intro peer
    simp only [threadsStart, threadStart, recorded]
    split <;> rfl
  · intro peer
    simp only [threadsStart, threadStart]
    split <;> exact iff_of_false (by simp [centralStart]) (by simp)
  · intro peer
    simp only [threadsStart, threadStart]
    split <;> exact ⟨by simp, by simp, by simp, by simp, by simp⟩
  · intro peer hentries
    exact absurd rfl hentries

theorem wired_of_running {t : Threads} (h : Running routes t) : Wired t := by
  apply Reachable.invariant (I := Wired) _ (fun t a ht => ht.threadStep a) h
  rintro t ⟨maxAgeSeconds, starts, rfl⟩
  exact wired_start maxAgeSeconds starts

/-- The record of a request that a thread is sending. -/
def Sending (t : Threads) (peer : Fin 8) (slot : Fin 64) : Prop :=
  (t.central.commands slot).id ≠ 0 ∧ (t.central.commands slot).peer = peer ∧
    (t.central.commands slot).state = .sending

/-- The threads do nothing to the queues that a run of the queues does not do,
and a thread is in `central_send` exactly while one record of its peer says so. -/
theorem threads_refine_queues {t : Threads} (h : Running routes t) :
    Reached routes t.central ∧
      ∀ peer, (t.thread peer).place = .sending ↔ ∃! slot, Sending t peer slot := by
  have hreached := reached_of_running h
  have hwired := wired_of_running h
  have hbooks := books_of_reached hreached
  refine ⟨hreached, fun peer => ?_⟩
  rw [← hwired.flight peer, Option.isSome_iff_exists]
  constructor
  · rintro ⟨work, hwork⟩
    obtain ⟨slot, hid, hrecord, hpeer, hstate⟩ := hbooks.flying.recorded peer work hwork
    refine ⟨slot, ⟨hrecord ▸ hid, hpeer, hstate⟩, ?_⟩
    rintro other ⟨hother, hotherPeer, hotherState⟩
    obtain ⟨work', hwork', hrecord'⟩ := hbooks.flying.taken other hother hotherState
    rw [hotherPeer, hwork] at hwork'
    obtain rfl := Option.some.inj hwork'
    exact hbooks.matched.distinct slot other (hrecord ▸ hid) (hrecord'.symm.trans hrecord.symm)
  · rintro ⟨slot, ⟨hid, hpeer, hstate⟩, -⟩
    obtain ⟨work, hwork, -⟩ := hbooks.flying.taken slot hid hstate
    exact ⟨work, hpeer ▸ hwork⟩

theorem connected_of_busy {t : Threads} (h : Running routes t) {slot : Fin 64}
    (hbusy : (t.central.commands slot).busy = true) :
    t.central.endpointConnected (t.central.commands slot).peer = true := by
  have hwired := wired_of_running h
  have hbooks := books_of_reached (reached_of_running h)
  simp only [CommandRecord.busy, decide_eq_true_eq] at hbusy
  obtain ⟨hid, hstate | hstate⟩ := hbusy
  · obtain ⟨work, hwork, -⟩ := hbooks.matched.listed slot hid hstate
    exact hwired.queued _ (List.ne_nil_of_mem hwork)
  · obtain ⟨work, hwork, -⟩ := hbooks.flying.taken slot hid hstate
    have hplace := (hwired.flight (t.central.commands slot).peer).mp (by rw [hwork]; rfl)
    have hup := (hwired.shaped (t.central.commands slot).peer).up (by simp [hplace])
    rw [hwired.flag]
    simp [recorded, hup, hplace]

theorem connected_disconnected (m : Monitor) (source : UInt16) (p : Peer) :
    ((centralPeerDisconnected m source).peers p).connected =
      if centralPeerIndex source = some p then false else (m.peers p).connected := by
  unfold centralPeerDisconnected
  cases hindex : centralPeerIndex source with
  | none => rfl
  | some q =>
      have hpeers : ((m.setPeer q ⟨false, false, (m.peers q).lastSeen⟩).unsynchronize q).peers =
          Function.update m.peers q ⟨false, false, (m.peers q).lastSeen⟩ := by
        cases q <;> rfl
      dsimp only
      rw [hpeers]
      by_cases hp : p = q
      · rw [hp, Function.update_self, if_pos rfl]
      · rw [Function.update_of_ne hp, if_neg fun heq => hp (Option.some.inj heq).symm]

theorem connected_observe (m : Monitor) (source : UInt16) (now : Nat) (p : Peer) :
    ((centralObservePeer m source now).2.peers p).connected = (m.peers p).connected := by
  unfold centralObservePeer
  cases hindex : centralPeerIndex source with
  | none => rfl
  | some q =>
      dsimp only [Monitor.setPeer]
      by_cases hp : p = q
      · rw [hp, Function.update_self]
        split
        · dsimp only
          rw [Function.update_self]
        · rfl
      · rw [Function.update_of_ne hp]
        split
        · dsimp only
          rw [Function.update_of_ne hp, connected_disconnected, hindex,
            if_neg fun heq => hp (Option.some.inj heq).symm]
        · rfl

theorem connected_report (m : Monitor) (report : Report) (now : Nat) (p : Peer) :
    ((monitorStep m (report.call now)).peers p).connected = (m.peers p).connected := by
  cases report with
  | status s =>
      simp only [Report.call, monitorStep, centralMonitorStatus]
      split
      · exact connected_observe m controllerLocal now p
      · rfl
  | railway s =>
      simp only [Report.call, monitorStep, centralMonitorRailway]
      split
      · exact connected_observe m controllerTrain now p
      · rfl
  | heartbeat source h =>
      simp only [Report.call, monitorStep, centralMonitorHeartbeat]
      cases centralPeerIndex source with
      | none => rfl
      | some q =>
          dsimp only
          split
          · split
            · exact connected_observe m source now p
            · exact connected_observe m source now p
          · rfl

/-- The Train has an endpoint of its own, as `main` sees to. -/
def OwnTrain (routes : Routes) : Prop := ∀ i, routes.route i ≠ trainPeer

theorem update_train (hown : OwnTrain routes) (flags : Fin 8 → Bool) (flag : Bool) (i : Fin 6) :
    Function.update flags trainPeer flag (routes.route i) = flags (routes.route i) :=
  Function.update_of_ne (hown i) ..

/-- The connection flags of the monitor: the one of the Train is the flag of its
endpoint, and the one of the Locals is up while one of their endpoints is. -/
structure Flagged (routes : Routes) (t : Threads) : Prop where
  train : (t.central.monitor.peers .trainPeer).connected = t.central.endpointConnected trainPeer
  locals : (t.central.monitor.peers .localPeer).connected = true ↔
    ∃ i, t.central.endpointConnected (routes.route i) = true

/-- The thread of an endpoint that nothing is routed to has ended. -/
def Active (routes : Routes) (t : Threads) : Prop :=
  ∀ peer, (t.thread peer).place ≠ .ended → peer = trainPeer ∨ ∃ i, routes.route i = peer

theorem active_start (maxAgeSeconds : Nat) (starts : Fin 8 → Nat) :
    Active routes (threadsStart routes maxAgeSeconds starts) := by
  intro peer hplace
  simp only [threadsStart, threadStart] at hplace
  split at hplace
  · assumption
  · exact absurd rfl hplace

theorem Active.turn {t : Threads} (h : Active routes t) {peer : Fin 8}
    (hactive : (t.thread peer).place ≠ .ended) (thread : PeerThread) (central : Central)
    (log : List PeerEvent) :
    Active routes ⟨central, Function.update t.thread peer thread, log⟩ := by
  intro other hplace
  by_cases hother : other = peer
  · rw [hother]
    exact h peer hactive
  · dsimp only at hplace
    rw [Function.update_of_ne hother] at hplace
    exact h other hplace

theorem Active.threadStep {t : Threads} (h : Active routes t) (a : ThreadAction) :
    Active routes (threadStep routes t a) := by
  cases a with
  | request r => exact h
  | receive report now => exact h
  | turn peer turn =>
      by_cases hactive : (t.thread peer).place = .ended
      · simp only [PeerThreads.threadStep, peerStep, hactive]
        exact h
      · simp only [PeerThreads.threadStep, peerStep]
        split
        · exact h.turn hactive _ _ _
        · exact h.turn hactive _ _ _
        · exact h.turn hactive _ _ _
        · exact h.turn hactive _ _ _
        · exact h.turn hactive _ _ _
        · exact h.turn hactive _ _ _
        · exact h.turn hactive _ _ _
        · exact h.turn hactive _ _ _
        · exact h

theorem Flagged.congr {t t' : Threads} (h : Flagged routes t)
    (hmonitor : ∀ p, (t'.central.monitor.peers p).connected =
      (t.central.monitor.peers p).connected)
    (hconnected : t'.central.endpointConnected = t.central.endpointConnected) :
    Flagged routes t' := by
  constructor
  · rw [hmonitor, hconnected]
    exact h.train
  · rw [hmonitor, hconnected]
    exact h.locals

theorem flagged_connected {t : Threads} (hown : OwnTrain routes) (h : Flagged routes t)
    {peer : Fin 8} (hactive : peer = trainPeer ∨ ∃ i, routes.route i = peer)
    (thread : Fin 8 → PeerThread) (log : List PeerEvent) :
    Flagged routes ⟨recordConnected t.central peer, thread, log⟩ := by
  by_cases htrain : peer = trainPeer
  · subst htrain
    constructor
    · simp [recordConnected, indexOf, Monitor.setPeer]
    · have hlocals := h.locals
      simp only [recordConnected, indexOf, Monitor.setPeer, if_true, update_train hown]
      exact hlocals
  · have hroute : ∃ i, routes.route i = peer := hactive.resolve_left htrain
    constructor
    · simp [recordConnected, indexOf, Monitor.setPeer, htrain, Ne.symm htrain, h.train]
    · obtain ⟨i, hi⟩ := hroute
      simp only [recordConnected, indexOf, Monitor.setPeer, htrain, if_false,
        Function.update_self, true_iff]
      exact ⟨i, by rw [hi, Function.update_self]⟩

theorem flagged_lost {t : Threads} (hown : OwnTrain routes) (h : Flagged routes t)
    (peer : Fin 8) (now : Nat) (thread : Fin 8 → PeerThread) (log : List PeerEvent) :
    Flagged routes ⟨recordLost routes t.central peer now, thread, log⟩ := by
  obtain ⟨hconnected, hmonitor, -⟩ := @keepsLinks_recordLost routes t.central peer now
  have hindex : centralPeerIndex controllerTrain = some .trainPeer ∧
      centralPeerIndex controllerLocal = some .localPeer := ⟨rfl, rfl⟩
  constructor
  · dsimp only
    rw [hmonitor, hconnected]
    unfold lostMonitor
    by_cases htrain : peer = trainPeer
    · rw [if_pos htrain, connected_disconnected, hindex.1, if_pos rfl, htrain,
        Function.update_self]
    · rw [if_neg htrain, Function.update_of_ne (Ne.symm htrain), ← h.train]
      split
      · rfl
      · rw [connected_disconnected, hindex.2, if_neg (by simp)]
        rfl
  · dsimp only
    rw [hmonitor, hconnected]
    unfold lostMonitor
    by_cases htrain : peer = trainPeer
    · rw [if_pos htrain, connected_disconnected, hindex.1, if_neg (by simp), h.locals, htrain]
      simp only [update_train hown]
    · rw [if_neg htrain]
      split
      · rename_i hsome
        have hsame : ((unsynchronizeRouted routes t.central.monitor peer).peers
            .localPeer).connected = (t.central.monitor.peers .localPeer).connected := rfl
        rw [hsame, h.locals]
        refine ⟨fun _ => hsome, ?_⟩
        rintro ⟨i, hi⟩
        refine ⟨i, ?_⟩
        by_cases hpeer : routes.route i = peer
        · rw [hpeer, Function.update_self] at hi
          cases hi
        · rwa [Function.update_of_ne hpeer] at hi
      · rename_i hnone
        rw [connected_disconnected, hindex.2, if_pos rfl]
        exact iff_of_false (by simp) hnone

theorem Flagged.threadStep {t : Threads} (hown : OwnTrain routes) (h : Flagged routes t)
    (hwired : Wired t) (hactive : Active routes t) (a : ThreadAction) :
    Flagged routes (threadStep routes t a) := by
  cases a with
  | request r =>
      have hkeeps := @keepsLinks_request routes t.central r
      exact h.congr (fun p => by rw [← hkeeps.monitor]; rfl) hkeeps.connected
  | receive report now =>
      exact h.congr (fun p => connected_report t.central.monitor report now p) rfl
  | turn peer turn =>
      simp only [PeerThreads.threadStep]
      cases hplace : (t.thread peer).place with
      | waiting => simp only [peerStep, hplace]; exact h.congr (fun _ => rfl) rfl
      | connecting => simp only [peerStep, hplace]; exact h.congr (fun _ => rfl) rfl
      | probing => simp only [peerStep, hplace]; exact h.congr (fun _ => rfl) rfl
      | ended => simp only [peerStep, hplace]; exact h
      | connected =>
          simp only [peerStep, hplace]
          exact flagged_connected hown h (hactive peer (by simp [hplace])) _ _
      | answered =>
          simp only [peerStep, hplace]
          exact h.congr (fun p => connected_observe t.central.monitor _ _ p) rfl
      | losing =>
          simp only [peerStep, hplace]
          exact flagged_lost hown h peer turn.now _ _
      | taking =>
          have hidle : (t.central.inFlight peer).isSome = false := by
            rw [← Bool.not_eq_true, hwired.flight]
            simp [hplace]
          obtain ⟨hmonitor, hconnected, -⟩ :=
            @takeStep_flight routes t.central peer hidle turn.now turn.later turn.timestamp
          simp only [peerStep, hplace]
          exact h.congr (fun p => by rw [← hmonitor]) hconnected
      | sending =>
          obtain ⟨hmonitor, hconnected, -⟩ :=
            sentStep_flight t.central peer turn.result turn.now
          simp only [peerStep, hplace]
          exact h.congr (fun p => by rw [← hmonitor]) hconnected

theorem flags_follow_links {t : Threads} (hown : OwnTrain routes) (h : Running routes t) :
    Flagged routes t ∧ ∀ peer, t.central.endpointConnected peer = recorded (t.thread peer) := by
  suffices hall : Wired t ∧ Active routes t ∧ Flagged routes t by
    exact ⟨hall.2.2, hall.1.flag⟩
  apply Reachable.invariant (I := fun t => Wired t ∧ Active routes t ∧ Flagged routes t) _ _ h
  · rintro t ⟨maxAgeSeconds, starts, rfl⟩
    refine ⟨wired_start _ _, active_start _ _, ?_⟩
    constructor
    · rfl
    · simp [threadsStart, centralStart, centralMonitorInit]
  · rintro t a ⟨hwired, hactive, hflagged⟩
    exact ⟨hwired.threadStep a, hactive.threadStep a,
      hflagged.threadStep hown hwired hactive a⟩

/-- A turn at the start of the clock, with a peer that is there and answers. -/
def readyTurn : Turn := ⟨0, 0, true, .ok, blankTimestamp⟩

def zeroStatus : StatusMsg := StatusMsg.ofData fun _ => 0

/-- The first endpoint is connected and answers, its intersection reports, and
the request that is then filed for it is on its way. -/
def firstRequest : List ThreadAction :=
  List.replicate 5 (.turn 0 readyTurn) ++ [.receive (.status zeroStatus) 0,
    .request (.enqueue modeFixed (some 0) 0 false 0), .turn 0 readyTurn, .turn 0 readyTurn]

def firstSending : Threads :=
  run (threadStep defaultRoutes) (threadsStart defaultRoutes 5 fun _ => 0) firstRequest

theorem running_firstSending : Running defaultRoutes firstSending :=
  ⟨_, firstRequest, ⟨5, fun _ => 0, rfl⟩, rfl⟩

theorem ownTrain_default : OwnTrain defaultRoutes := by
  unfold OwnTrain
  decide

theorem threads_refine_queues_sending :
    Reached defaultRoutes firstSending.central ∧ ∀ peer,
      (firstSending.thread peer).place = .sending ↔ ∃! slot, Sending firstSending peer slot :=
  threads_refine_queues running_firstSending

theorem connected_of_busy_sending :
    firstSending.central.endpointConnected (firstSending.central.commands 0).peer = true :=
  connected_of_busy running_firstSending (by decide +kernel)

theorem flags_follow_links_sending :
    Flagged defaultRoutes firstSending ∧ ∀ peer,
      firstSending.central.endpointConnected peer = recorded (firstSending.thread peer) :=
  flags_follow_links ownTrain_default running_firstSending

end TrafficLight.EndpointFlags
