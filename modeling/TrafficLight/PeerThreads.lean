import TrafficLight.CommandBooks

/-!
The threads that keep Central's endpoints, `peer_thread` of `central_controller.c`.
A turn of a thread is one section under the mutex of the shared state, or one
call on its link between two sections; the turns of all threads interleave with
the operator's requests and with the reports that arrive. The log is not in the
source; it records, newest first, what the threads did.
-/

namespace TrafficLight.PeerThreads

open TrafficLight.Runs
open TrafficLight.Protocol
open TrafficLight.Telemetry
open TrafficLight.CentralFrames
open TrafficLight.CentralMonitor
open TrafficLight.RingQueue
open TrafficLight.CommandQueue
open TrafficLight.QueueOperations
open TrafficLight.CommandAdmission
open TrafficLight.QueueOrder
open TrafficLight.AllOrNothing
open TrafficLight.CommandBooks

def heartbeatPeriodSec : Nat := 1

def period : Nat := heartbeatPeriodSec * centralNsec

/-- Where the thread of a peer is. -/
inductive Place
  /-- at the top of its loop -/
  | waiting
  /-- in `central_link_connect` -/
  | connecting
  /-- connected, which is not yet recorded -/
  | connected
  /-- in `central_send_heartbeat` -/
  | probing
  /-- with an answer that is not yet recorded -/
  | answered
  /-- with a link it has closed, which is not yet recorded -/
  | losing
  /-- before `take_command` -/
  | taking
  /-- in `central_send` -/
  | sending
  | ended
  deriving DecidableEq, Repr

/-- The variables of `peer_thread`, and whether its link is connected. -/
structure PeerThread where
  nextTick : Nat
  misses : Nat
  commandReady : Bool
  linkUp : Bool
  place : Place
  deriving DecidableEq

/-- What a turn reads: the clock, twice, whether a connection was found, and how
a message to the peer ended. -/
structure Turn where
  now : Nat
  later : Nat
  up : Bool
  result : SendResult
  timestamp : Fin 32 → UInt8

inductive PeerEvent
  | released (peer : Fin 8) (time : Nat)
  | connected (peer : Fin 8)
  | answered (peer : Fin 8)
  | missed (peer : Fin 8)
  | lost (peer : Fin 8)
  | handed (peer : Fin 8) (target : Option (Fin 6))
  | returned (peer : Fin 8) (result : SendResult)
  | reported (target : Nat)
  deriving DecidableEq

structure Threads where
  central : Central
  thread : Fin 8 → PeerThread
  log : List PeerEvent

/-- `source` of a thread's context. -/
def sourceOf (peer : Fin 8) : UInt16 :=
  if peer = trainPeer then controllerTrain else controllerLocal

def indexOf (peer : Fin 8) : Peer := if peer = trainPeer then .trainPeer else .localPeer

/-- `queue_ready_locked` -/
def queueReady (s : Central) (peer : Fin 8) (now : Nat) : Bool :=
  ((s.queue peer).position fun work => work.notBefore ≤ now).isSome

/-- The next release after one that is due; missed periods are skipped. -/
def nextRelease (nextTick now : Nat) : Nat :=
  nextTick + ((now - nextTick) / period + 1) * period

/-- The wait at the top of the loop, and the release of a heartbeat when one is
due. Without a release the thread turns to its queue. -/
def wake (s : Central) (peer : Fin 8) (t : PeerThread) (turn : Turn) :
    PeerThread × List PeerEvent :=
  if s.running = false then ({ t with place := .ended }, [])
  else if turn.now < t.nextTick ∧ ¬ (t.commandReady ∧ queueReady s peer turn.now) then (t, [])
  else if turn.later < t.nextTick then
    ({ t with place := if t.commandReady then .taking else .waiting }, [])
  else
    ({ t with
        nextTick := nextRelease t.nextTick turn.later
        commandReady := false
        place := if t.linkUp then .probing else .connecting },
      [.released peer turn.later])

/-- The section after a connection was found. -/
def recordConnected (s : Central) (peer : Fin 8) : Central :=
  { s with
    endpointConnected := Function.update s.endpointConnected peer true
    monitor := s.monitor.setPeer (indexOf peer)
      { s.monitor.peers (indexOf peer) with connected := true } }

/-- The section after an answered heartbeat. -/
def recordAnswer (s : Central) (peer : Fin 8) (now later : Nat) : Central :=
  { s with
    monitor := (centralObservePeer s.monitor (sourceOf peer) now).2
    endpointProbe := Function.update s.endpointProbe peer later }

section Routed

variable (routes : Routes)

/-- The intersections of an endpoint have to report again. -/
def unsynchronizeRouted (m : Monitor) (peer : Fin 8) : Monitor :=
  { m with
    intersections := fun id =>
      if ∃ i : Fin 6, i.val = id ∧ routes.route i = peer then
        { m.intersections id with synchronized := false }
      else m.intersections id }

/-- The monitor after the loss of an endpoint, with the flags after it. -/
def lostMonitor (m : Monitor) (peer : Fin 8) (endpointConnected : Fin 8 → Bool) : Monitor :=
  if peer = trainPeer then centralPeerDisconnected m controllerTrain
  else if ∃ i, endpointConnected (routes.route i) then unsynchronizeRouted routes m peer
  else centralPeerDisconnected (unsynchronizeRouted routes m peer) controllerLocal

/-- The section after a link was given up. -/
def recordLost (s : Central) (peer : Fin 8) (now : Nat) : Central :=
  let endpointConnected := Function.update s.endpointConnected peer false
  discardQueue
    { s with
      endpointConnected
      endpointProbe := Function.update s.endpointProbe peer 0
      monitor := lostMonitor routes s.monitor peer endpointConnected }
    peer now

/-- The target of the request that was taken. -/
def takenTarget (s : Central) (taken : Taken) : Option (Fin 6) :=
  (taken.work.bind fun work => findCommand s work.id).map fun slot => (s.commands slot).target

/-- The answer or the miss of a heartbeat. -/
def probed (peer : Fin 8) (t : PeerThread) (result : SendResult) :
    PeerThread × List PeerEvent :=
  if result = .ok then ({ t with misses := 0, place := .answered }, [])
  else if t.misses + 1 ≥ heartbeatMissLimit then
    ({ t with misses := t.misses + 1, linkUp := false, place := .losing }, [.missed peer])
  else ({ t with misses := t.misses + 1, place := .waiting }, [.missed peer])

/-- The answer that a message to a peer is known to have got. -/
def definite (result : SendResult) : Bool := result = .ok ∨ result = .rejected

def Threads.put (t : Threads) (peer : Fin 8) (thread : PeerThread) : Threads :=
  { t with thread := Function.update t.thread peer thread }

/-- `peer_thread` -/
def peerStep (t : Threads) (peer : Fin 8) (turn : Turn) : Threads :=
  let thread := t.thread peer
  match thread.place with
  | .waiting =>
      let (next, events) := wake t.central peer thread turn
      { t.put peer next with log := events ++ t.log }
  | .connecting =>
      t.put peer { thread with
        linkUp := turn.up
        place := if turn.up then .connected else .waiting }
  | .connected =>
      { t.put peer { thread with misses := 0, place := .probing } with
        central := recordConnected t.central peer
        log := .connected peer :: t.log }
  | .probing =>
      let (next, events) := probed peer thread turn.result
      { t.put peer next with log := events ++ t.log }
  | .answered =>
      { t.put peer { thread with commandReady := true, place := .waiting } with
        central := recordAnswer t.central peer turn.now turn.later
        log := .answered peer :: t.log }
  | .losing =>
      { t.put peer { thread with place := .waiting } with
        central := recordLost routes t.central peer turn.now
        log := .lost peer :: t.log }
  | .taking =>
      let taken := takeCommand routes t.central peer turn.now turn.later turn.timestamp
      { t.put peer { thread with place := if taken.ready then .sending else .waiting } with
        central := takeStep routes t.central peer turn.now turn.later turn.timestamp
        log := if taken.ready then .handed peer (takenTarget t.central taken) :: t.log else t.log }
  | .sending =>
      { t.put peer { thread with
          commandReady := thread.commandReady && definite turn.result
          place := .waiting } with
        central := sentStep t.central peer turn.result turn.now
        log := .returned peer turn.result :: t.log }
  | .ended => t

/-- The thread of a peer at its start. It ends at once if nothing is routed to it. -/
def threadStart (peer : Fin 8) (start : Nat) : PeerThread :=
  { nextTick := start
    misses := 0
    commandReady := false
    linkUp := false
    place := if peer = trainPeer ∨ ∃ i, routes.route i = peer then .waiting else .ended }

def threadsStart (maxAgeSeconds : Nat) (starts : Fin 8 → Nat) : Threads :=
  { central := centralStart maxAgeSeconds
    thread := fun peer => threadStart routes peer (starts peer)
    log := [] }

/-- What the operator, the schedule and `main` do with the queues. -/
inductive Request
  | enqueue (prototype : TestMessage) (target : Option (Fin 6)) (delay : Nat)
      (automatic : Bool) (now : Nat)
  | cancel (target : Option (Fin 6)) (now : Nat)
  | stop (now : Nat)
  | release (target : Option (Fin 6))
  | operator (policyAck : Fin 6 → UInt16) (scheduledMode : Fin 6 → Option UInt8)
      (operatorPolicy : OperatorPolicy)

def Request.action : Request → QueueAction
  | .enqueue prototype target delay automatic now => .enqueue prototype target delay automatic now
  | .cancel target now => .cancel target now
  | .stop now => .stop now
  | .release target => .release target
  | .operator policyAck scheduledMode operatorPolicy =>
      .operator policyAck scheduledMode operatorPolicy

/-- The reports of `handle_message` that reach the monitor. -/
inductive Report
  | status (s : StatusMsg)
  | railway (s : RailwayStatusMsg)
  | heartbeat (source : UInt16) (h : HeartbeatMsg)

def Report.call (now : Nat) : Report → MonitorCall
  | .status s => .status s now
  | .railway s => .railway s now
  | .heartbeat source h => .heartbeat source h now

/-- The event of an accepted status. -/
def Report.events : Report → List PeerEvent
  | .status s => if statusAccepted s then [.reported s.intersectionId.toNat] else []
  | _ => []

inductive ThreadAction
  | turn (peer : Fin 8) (turn : Turn)
  | request (r : Request)
  | receive (report : Report) (now : Nat)

def threadStep (t : Threads) : ThreadAction → Threads
  | .turn peer turn => peerStep routes t peer turn
  | .request r => { t with central := queueStep routes t.central r.action }
  | .receive report now =>
      { t with
        central := { t.central with monitor := monitorStep t.central.monitor (report.call now) }
        log := report.events ++ t.log }

/-- The states that the threads reach. -/
def Running (t : Threads) : Prop :=
  Reachable (fun t => ∃ maxAgeSeconds starts, t = threadsStart routes maxAgeSeconds starts)
    (threadStep routes) t

end Routed

variable {routes : Routes}

theorem central_threadStep (t : Threads) (a : ThreadAction) :
    ∃ as, (threadStep routes t a).central = run (queueStep routes) t.central as := by
  cases a with
  | request r => exact ⟨[r.action], rfl⟩
  | receive report now =>
      exact ⟨[.observe (monitorStep t.central.monitor (report.call now))
        t.central.endpointConnected t.central.endpointProbe], rfl⟩
  | turn peer turn =>
      simp only [threadStep, peerStep]
      cases (t.thread peer).place with
      | waiting => exact ⟨[], rfl⟩
      | connecting => exact ⟨[], rfl⟩
      | probing => exact ⟨[], rfl⟩
      | ended => exact ⟨[], rfl⟩
      | connected =>
          exact ⟨[.observe (recordConnected t.central peer).monitor
            (recordConnected t.central peer).endpointConnected t.central.endpointProbe], rfl⟩
      | answered =>
          exact ⟨[.observe (recordAnswer t.central peer turn.now turn.later).monitor
            t.central.endpointConnected
            (recordAnswer t.central peer turn.now turn.later).endpointProbe], rfl⟩
      | losing =>
          refine ⟨[.observe (lostMonitor routes t.central.monitor peer
              (Function.update t.central.endpointConnected peer false))
            t.central.endpointConnected t.central.endpointProbe, .lost peer turn.now], ?_⟩
          simp only [run_cons, run_nil, queueStep, recordLost]
      | taking => exact ⟨[.take peer turn.now turn.later turn.timestamp], rfl⟩
      | sending => exact ⟨[.sent peer turn.result turn.now], rfl⟩

theorem reached_of_running {t : Threads} (h : Running routes t) : Reached routes t.central := by
  apply Reachable.invariant (I := fun t => Reached routes t.central) _ _ h
  · rintro t ⟨maxAgeSeconds, starts, rfl⟩
    exact Reachable.init ⟨maxAgeSeconds, rfl⟩
  · intro t a hreached
    obtain ⟨as, hrun⟩ := @central_threadStep routes t a
    rw [hrun]
    exact hreached.run as

/-- The monitor, the flags of the endpoints and the requests under way are the same. -/
structure KeepsLinks (s s' : Central) : Prop where
  monitor : s'.monitor = s.monitor
  connected : s'.endpointConnected = s.endpointConnected
  flight : s'.inFlight = s.inFlight

theorem KeepsLinks.refl (s : Central) : KeepsLinks s s := ⟨rfl, rfl, rfl⟩

theorem KeepsLinks.trans {s s' s'' : Central} (h : KeepsLinks s s') (h' : KeepsLinks s' s'') :
    KeepsLinks s s'' :=
  ⟨h'.monitor.trans h.monitor, h'.connected.trans h.connected, h'.flight.trans h.flight⟩

theorem keepsLinks_foldl {α : Type} {f : Central → α → Central}
    (hf : ∀ s x, KeepsLinks s (f s x)) (s : Central) (xs : List α) :
    KeepsLinks s (xs.foldl f s) := by
  induction xs generalizing s with
  | nil => exact KeepsLinks.refl s
  | cons x xs ih => exact (hf s x).trans (ih (f s x))

theorem keepsLinks_discardQueue (s : Central) (peer : Fin 8) (now : Nat) :
    KeepsLinks s (discardQueue s peer now) := by
  rw [discardQueue_eq, finishAll_frame]
  exact ⟨rfl, rfl, rfl⟩

theorem keepsLinks_cancelStep (target : Option (Fin 6)) (peer : Fin 8) (now : Nat)
    (s : Central × Nat) (i : Nat) : KeepsLinks s.1 (cancelStep target peer now s i).1 := by
  unfold cancelStep
  dsimp only
  split
  · exact ⟨rfl, rfl, rfl⟩
  · exact ⟨rfl, rfl, rfl⟩

theorem keepsLinks_cancelPeer (target : Option (Fin 6)) (now : Nat) (s : Central)
    (peer : Fin 8) : KeepsLinks s (cancelPeer target now s peer) := by
  have hloop : ∀ (visits : List Nat) (kept : Central × Nat),
      KeepsLinks kept.1 (visits.foldl (cancelStep target peer now) kept).1 := by
    intro visits
    induction visits with
    | nil => exact fun kept => KeepsLinks.refl kept.1
    | cons i visits ih =>
        exact fun kept => (keepsLinks_cancelStep target peer now kept i).trans (ih _)
  obtain ⟨hmonitor, hconnected, hflight⟩ := hloop (List.range (s.queue peer).count) (s, 0)
  exact ⟨hmonitor, hconnected, hflight⟩

theorem keepsLinks_request (s : Central) (r : Request) :
    KeepsLinks s (queueStep routes s r.action) := by
  cases r with
  | enqueue prototype target delay automatic now =>
      rcases @enqueueCommand_cases routes s prototype target delay automatic now with
        ⟨refusal, -, hresult⟩ | ⟨s', fresh, -, hresult, -, hfiles⟩
      · simp only [Request.action, queueStep, hresult]
        exact KeepsLinks.refl s
      · simp only [Request.action, queueStep, hresult]
        rw [hfiles.frame]
        exact ⟨rfl, rfl, rfl⟩
  | cancel target now =>
      exact keepsLinks_foldl (fun s peer => keepsLinks_cancelPeer target now s peer) s _
  | stop now =>
      have hstopped : KeepsLinks s { s with running := false } := ⟨rfl, rfl, rfl⟩
      have hdiscarded := keepsLinks_foldl (fun s peer => keepsLinks_discardQueue s peer now)
        { s with running := false } (peers routes)
      exact hstopped.trans hdiscarded
  | release target => exact ⟨rfl, rfl, rfl⟩
  | operator policyAck scheduledMode operatorPolicy => exact ⟨rfl, rfl, rfl⟩

theorem keepsLinks_takeCommand (s : Central) (peer : Fin 8) (now later : Nat)
    (timestamp : Fin 32 → UInt8) :
    KeepsLinks s (takeCommand routes s peer now later timestamp).central := by
  rcases @takeCommand_cases routes s peer now later timestamp with
    ⟨-, htaken⟩ | ⟨i, -, -, hadmission⟩
  · rw [htaken]
    exact KeepsLinks.refl s
  · generalize takeCommand routes s peer now later timestamp = taken at hadmission ⊢
    cases hadmission with
    | stale => exact ⟨rfl, rfl, rfl⟩
    | dropped => exact ⟨rfl, rfl, rfl⟩
    | handed => exact ⟨rfl, rfl, rfl⟩

theorem ready_of_admitted {s : Central} {prototype : TestMessage} {target : Option (Fin 6)}
    {now : Nat} (h : enqueueRefusal routes s prototype target now = none) {i : Fin 6}
    (hi : i ∈ expand prototype target) :
    if forTrain prototype then trainReady s now = true else localReady routes s i now = true := by
  unfold enqueueRefusal at h
  dsimp only at h
  split at h
  · cases h
  · split at h
    · cases h
    · split at h
      · rename_i htrain
        rw [if_pos htrain]
        split at h
        · assumption
        · cases h
      · rename_i hlocal
        rw [if_neg hlocal]
        rw [Option.map_eq_none_iff, List.find?_eq_none] at h
        simpa using h i hi

theorem connected_of_admitted {s : Central} {prototype : TestMessage} {target : Option (Fin 6)}
    {now : Nat} (h : enqueueRefusal routes s prototype target now = none) {i : Fin 6}
    (hi : i ∈ expand prototype target) :
    s.endpointConnected (peerFor routes prototype i) = true := by
  have hready := ready_of_admitted h hi
  unfold peerFor
  split at hready
  · rename_i htrain
    rw [if_pos htrain]
    exact (Bool.and_eq_true_iff.mp hready).1
  · rename_i hlocal
    rw [if_neg hlocal]
    simp only [localReady, Bool.and_eq_true] at hready
    exact hready.1.1.1

theorem entries_request {s : Central} (hbounded : Bounded s) (r : Request) {peer : Fin 8}
    (h : entries (queueStep routes s r.action) peer ≠ []) :
    entries s peer ≠ [] ∨ s.endpointConnected peer = true := by
  have hkept : ∀ q : QueuedCommand → Bool, (entries s peer).filter q ≠ [] →
      entries s peer ≠ [] := by
    intro q hfilter hnil
    rw [hnil] at hfilter
    exact hfilter rfl
  have hstep := (@entries_queueStep routes s hbounded r.action).2 peer
  cases r with
  | enqueue prototype target delay automatic now =>
      rcases @enqueueCommand_cases routes s prototype target delay automatic now with
        ⟨refusal, -, hresult⟩ | ⟨s', fresh, hadmitted, hresult, htargets, hfiles⟩
      · simp only [Request.action, queueStep, hresult] at h
        exact .inl h
      · simp only [Request.action, queueStep, hresult] at h
        rw [(enqueue_entries hbounded hadmitted htargets hfiles peer).1] at h
        cases hsent : sentTo routes prototype fresh peer with
        | nil =>
            rw [hsent, List.map_nil, List.append_nil] at h
            exact .inl h
        | cons f rest =>
            have hf : f ∈ sentTo routes prototype fresh peer := by simp [hsent]
            obtain ⟨hmem, hpeer⟩ := List.mem_filter.mp hf
            right
            rw [← of_decide_eq_true hpeer]
            apply connected_of_admitted hadmitted
            rw [← htargets]
            exact List.mem_map_of_mem hmem
  | cancel target now =>
      rw [hstep] at h
      simp only [Request.action, queueOp] at h
      split at h
      · exact .inl (hkept _ h)
      · rw [listStep, List.append_nil] at h
        exact .inl h
  | stop now =>
      rw [hstep] at h
      simp only [Request.action, queueOp] at h
      split at h
      · exact .inl (hkept _ h)
      · rw [listStep, List.append_nil] at h
        exact .inl h
  | release target => exact .inl h
  | operator policyAck scheduledMode operatorPolicy => exact .inl h

end TrafficLight.PeerThreads
