import Mathlib.Data.List.Chain
import Mathlib.Logic.Function.Basic
import TrafficLight.Runs
import TrafficLight.Telemetry

/-!
Central's record of its peers, `monitor.c`. Times are in nanoseconds. The
second half says what command readiness means: a status that is still fresh, an
unbroken chain of contacts since, and no reported degradation.
-/

namespace TrafficLight.CentralMonitor

open TrafficLight.Runs
open TrafficLight.Protocol
open TrafficLight.Telemetry

def centralNsec : Nat := 1000000000
def centralStatusStaleSec : Nat := 5
def heartbeatMissLimit : Nat := 3

/-- The two peers, in the order of their indices. -/
inductive Peer
  | localPeer
  | trainPeer
  deriving DecidableEq, Repr

/-- `central_reported_health_t` -/
structure ReportedHealth where
  seen : Bool
  healthy : UInt8
  receivedAt : Nat

/-- `central_peer_status_t` -/
structure PeerStatus where
  connected : Bool
  seen : Bool
  lastSeen : Nat

/-- `central_intersection_status_t` and `central_crossing_status_t` -/
structure Entry (σ : Type) where
  valid : Bool
  synchronized : Bool
  receivedAt : Nat
  status : σ

/-- `central_monitor_t` -/
structure Monitor where
  statusMaxAgeNs : Nat
  peers : Peer → PeerStatus
  health : Peer → Nat → ReportedHealth
  intersections : Nat → Entry StatusMsg
  crossings : Nat → Entry RailwayStatusMsg

/-- The number of senders a peer stands for. -/
def Peer.count : Peer → Nat
  | .localPeer => numIntersections
  | .trainPeer => numCrossings

/-- Everything is zero but the age limit; a zero age selects the default. -/
def centralMonitorInit (maxAgeSeconds : Nat) : Monitor :=
  { statusMaxAgeNs :=
      (if maxAgeSeconds ≠ 0 then maxAgeSeconds else centralStatusStaleSec) * centralNsec
    peers := fun _ => ⟨false, false, 0⟩
    health := fun _ _ => ⟨false, 0, 0⟩
    intersections := fun _ => ⟨false, false, 0, StatusMsg.ofData fun _ => 0⟩
    crossings := fun _ => ⟨false, false, 0, RailwayStatusMsg.ofData fun _ => 0⟩ }

def centralMonitorStatusMaxAgeNs (m : Monitor) : Nat :=
  if m.statusMaxAgeNs ≠ 0 then m.statusMaxAgeNs else centralStatusStaleSec * centralNsec

def centralPeerIndex (source : UInt16) : Option Peer :=
  if source = controllerLocal then some .localPeer
  else if source = controllerTrain then some .trainPeer
  else none

/-- `none` stands for the unknown health -1. -/
def centralMonitorHealth (m : Monitor) (source : UInt16) (senderId : Nat) : Option UInt8 :=
  match centralPeerIndex source with
  | none => none
  | some peer =>
      if senderId ≥ peer.count ∨ (m.health peer senderId).seen = false then none
      else some (m.health peer senderId).healthy

def centralPeerOnline (m : Monitor) (source : UInt16) (now : Nat) : Bool :=
  match centralPeerIndex source with
  | none => false
  | some peer =>
      (m.peers peer).seen && decide (now ≥ (m.peers peer).lastSeen) &&
        decide (now - (m.peers peer).lastSeen < heartbeatMissLimit * centralNsec)

/-- The entries of a peer have to be reported again. -/
def Monitor.unsynchronize (m : Monitor) : Peer → Monitor
  | .localPeer =>
      { m with intersections := fun id => { m.intersections id with synchronized := false } }
  | .trainPeer =>
      { m with crossings := fun id => { m.crossings id with synchronized := false } }

def Monitor.setPeer (m : Monitor) (peer : Peer) (status : PeerStatus) : Monitor :=
  { m with peers := Function.update m.peers peer status }

def centralPeerDisconnected (m : Monitor) (source : UInt16) : Monitor :=
  match centralPeerIndex source with
  | none => m
  | some peer =>
      (m.setPeer peer ⟨false, false, (m.peers peer).lastSeen⟩).unsynchronize peer

/-- Whether the contact restores the peer, and the monitor after it. -/
def centralObservePeer (m : Monitor) (source : UInt16) (now : Nat) : Bool × Monitor :=
  match centralPeerIndex source with
  | none => (false, m)
  | some peer =>
      let restored := !centralPeerOnline m source now
      let m := if restored then
          (centralPeerDisconnected m source).setPeer peer
            ⟨(m.peers peer).connected, false, (m.peers peer).lastSeen⟩
        else m
      (restored, m.setPeer peer ⟨(m.peers peer).connected, true, now⟩)

/-- The checks of `central_monitor_heartbeat`. -/
def heartbeatAccepted (peer : Peer) (h : HeartbeatMsg) : Bool :=
  decide (h.senderId.toNat < peer.count ∧ h.healthy ≤ 1)

/-- The empty payload that older peers send as a heartbeat. -/
def legacyHeartbeat (h : HeartbeatMsg) : Bool :=
  decide (h.senderId = 0 ∧ h.healthy = 0 ∧ h.sequence = 0)

/-- A refused report is `none`; it leaves the monitor as it is. -/
def centralMonitorHeartbeat (m : Monitor) (source : UInt16) (h : HeartbeatMsg) (now : Nat) :
    Option Monitor :=
  match centralPeerIndex source with
  | none => none
  | some peer =>
      if heartbeatAccepted peer h then
        let m := (centralObservePeer m source now).2
        if legacyHeartbeat h then some m
        else some { m with
          health := Function.update m.health peer
            (Function.update (m.health peer) h.senderId.toNat ⟨true, h.healthy, now⟩) }
      else none

/-- The checks of `central_monitor_status`. -/
def statusAccepted (s : StatusMsg) : Bool :=
  !decide (s.intersectionId.toNat ≥ numIntersections ∨ s.mode > modeFailsafe ∨
    s.phase > phaseRailwayHold ∨ s.nsState > lightGreen ∨ s.ewState > lightGreen ∨
    s.pedestrianNs > 1 ∨ s.pedestrianEw > 1 ∨ s.railwayPreempt > 1 ∨
    s.telemetryVersion > statusTelemetryVersion ∨ s.reserved ≠ 0 ∨
    s.pedestrianNsRequest > 1 ∨ s.pedestrianEwRequest > 1 ∨ s.simRunning > 1 ∨
    s.trainPending > 1 ∨ s.trainActive > 1 ∨ s.manualModeOverride > 1 ∨
    s.manualSensorOverride > 1 ∨ s.coordinationPending > 1 ∨ s.faultActive > 1 ∨
    s.faultType > faultNotWorking ∨ s.faultSeverity > sevCritical ∨
    (s.telemetryVersion ≠ 0 ∧ s.simMinuteOfDay ≥ 24 * 60))

def centralMonitorStatus (m : Monitor) (s : StatusMsg) (now : Nat) : Option Monitor :=
  if statusAccepted s then
    let m := (centralObservePeer m controllerLocal now).2
    some { m with
      intersections := Function.update m.intersections s.intersectionId.toNat
        ⟨true, true, now, s⟩ }
  else none

/-- The checks of `central_monitor_railway`. -/
def railwayAccepted (s : RailwayStatusMsg) : Bool :=
  !decide (s.crossingId.toNat ≥ numCrossings ∨ s.trainState > trainClear ∨
    s.gateState > gateFault ∨ s.fault > faultNotWorking ∨ s.trackStates > 1 ∨
    s.upState > trainClear ∨ s.downState > trainClear ∨ s.reserved ≠ 0)

def centralMonitorRailway (m : Monitor) (s : RailwayStatusMsg) (now : Nat) : Option Monitor :=
  if railwayAccepted s then
    let m := (centralObservePeer m controllerTrain now).2
    some { m with
      crossings := Function.update m.crossings s.crossingId.toNat ⟨true, true, now, s⟩ }
  else none

def centralCanCommand (m : Monitor) (target now : Nat) : Bool :=
  if target ≥ numIntersections ∨ (m.peers .localPeer).connected = false ∨
      centralPeerOnline m controllerLocal now = false ∨
      centralMonitorHealth m controllerLocal target = some 0 then false
  else
    let entry := m.intersections target
    entry.valid && entry.synchronized && decide (now ≥ entry.receivedAt) &&
      decide (now - entry.receivedAt < centralMonitorStatusMaxAgeNs m)

/-! ### Histories -/

/-- One call on the monitor; `mark` is Central setting the connection flag of
the Local peer. -/
inductive MonitorCall
  | status (s : StatusMsg) (now : Nat)
  | railway (s : RailwayStatusMsg) (now : Nat)
  | heartbeat (source : UInt16) (h : HeartbeatMsg) (now : Nat)
  | observe (source : UInt16) (now : Nat)
  | disconnected (source : UInt16)
  | mark (connected : Bool)
  deriving DecidableEq

def monitorStep (m : Monitor) : MonitorCall → Monitor
  | .status s now => (centralMonitorStatus m s now).getD m
  | .railway s now => (centralMonitorRailway m s now).getD m
  | .heartbeat source h now => (centralMonitorHeartbeat m source h now).getD m
  | .observe source now => (centralObservePeer m source now).2
  | .disconnected source => centralPeerDisconnected m source
  | .mark connected => m.setPeer .localPeer { m.peers .localPeer with connected }

/-- The time a call is made at, if it takes one. -/
def MonitorCall.time : MonitorCall → Option Nat
  | .status _ now | .railway _ now | .heartbeat _ _ now | .observe _ now => some now
  | .disconnected _ | .mark _ => none

/-- The calls come in the order of their times, and `now` is not earlier. -/
def InTime (calls : List MonitorCall) (now : Nat) : Prop :=
  (calls.filterMap MonitorCall.time ++ [now]).Pairwise (· ≤ ·)

/-- The time of a contact with the Local peer. -/
def contact : MonitorCall → Option Nat
  | .status s now => if statusAccepted s then some now else none
  | .heartbeat source h now =>
      if source = controllerLocal ∧ heartbeatAccepted .localPeer h then some now else none
  | .observe source now => if source = controllerLocal then some now else none
  | .railway _ _ | .disconnected _ | .mark _ => none

/-- The health an accepted heartbeat reports for a Local, the legacy payload apart. -/
def reported (target : Nat) : MonitorCall → Option UInt8
  | .heartbeat source h _ =>
      if source = controllerLocal ∧ heartbeatAccepted .localPeer h ∧
          legacyHeartbeat h = false ∧ h.senderId.toNat = target then some h.healthy else none
  | _ => none

/-- The next contact comes less than the miss limit later. -/
def Close (earlier later : Nat) : Prop :=
  later - earlier < heartbeatMissLimit * centralNsec

/-- A status of the target was accepted at time `t`; since then the Local was
not disconnected and its contacts never stopped for the miss limit. -/
def Supported (target : Nat) (calls : List MonitorCall) (t : Nat) : Prop :=
  ∃ before s since, calls = before ++ .status s t :: since ∧ statusAccepted s = true ∧
    s.intersectionId.toNat = target ∧ .disconnected controllerLocal ∉ since ∧
    (t :: since.filterMap contact).IsChain Close

theorem contacts_split {before since : List MonitorCall} {s : StatusMsg} {t : Nat}
    (haccepted : statusAccepted s = true) :
    (before ++ .status s t :: since).filterMap contact =
      before.filterMap contact ++ t :: since.filterMap contact := by
  simp [contact, haccepted]

theorem getLast_contacts {before since : List MonitorCall} {s : StatusMsg} {t : Nat}
    (haccepted : statusAccepted s = true) :
    ((before ++ .status s t :: since).filterMap contact).getLast? =
      (t :: since.filterMap contact).getLast? := by
  rw [contacts_split haccepted, List.getLast?_append, List.getLast?_cons]
  rfl

theorem time_of_supported {target t : Nat} {calls : List MonitorCall}
    (h : Supported target calls t) : t ∈ calls.filterMap MonitorCall.time := by
  obtain ⟨before, s, since, rfl, -⟩ := h
  simp [MonitorCall.time]

theorem supported_append {target t : Nat} {calls : List MonitorCall} {c : MonitorCall} :
    Supported target (calls ++ [c]) t ↔
      (∃ s, c = .status s t ∧ statusAccepted s = true ∧ s.intersectionId.toNat = target) ∨
      (Supported target calls t ∧ c ≠ .disconnected controllerLocal ∧
        ∀ last ∈ (calls.filterMap contact).getLast?, ∀ now ∈ contact c, Close last now) := by
  have hchain (since : List MonitorCall) (t : Nat) :
      (t :: (since ++ [c]).filterMap contact).IsChain Close ↔
        (t :: since.filterMap contact).IsChain Close ∧
          ∀ last ∈ (t :: since.filterMap contact).getLast?, ∀ now ∈ contact c,
            Close last now := by
    rw [List.filterMap_append, ← List.cons_append, List.isChain_append]
    cases hc : contact c <;> simp [hc]
  constructor
  · rintro ⟨before, s, since, heq, haccepted, hid, hkept, hlinked⟩
    rcases List.eq_nil_or_concat since with rfl | ⟨since, d, rfl⟩
    · obtain ⟨-, rfl⟩ := List.append_singleton_inj.mp heq
      exact .inl ⟨s, rfl, haccepted, hid⟩
    · rw [List.concat_eq_append] at heq hkept hlinked
      rw [← List.cons_append, ← List.append_assoc] at heq
      obtain ⟨rfl, rfl⟩ := List.append_singleton_inj.mp heq
      rw [List.mem_append, not_or, List.mem_singleton] at hkept
      obtain ⟨hlinked, hclose⟩ := (hchain since t).mp hlinked
      refine .inr ⟨⟨before, s, since, rfl, haccepted, hid, hkept.1, hlinked⟩,
        fun hc => hkept.2 hc.symm, ?_⟩
      rwa [getLast_contacts haccepted]
  · rintro (⟨s, rfl, haccepted, hid⟩ | ⟨hsupported, hc, hclose⟩)
    · exact ⟨calls, s, [], rfl, haccepted, hid, List.not_mem_nil, List.isChain_singleton t⟩
    · obtain ⟨before, s, since, rfl, haccepted, hid, hkept, hlinked⟩ := hsupported
      rw [getLast_contacts haccepted] at hclose
      refine ⟨before, s, since ++ [c], by simp, haccepted, hid, ?_, (hchain since t).mpr
        ⟨hlinked, hclose⟩⟩
      rw [List.mem_append, not_or, List.mem_singleton]
      exact ⟨hkept, fun h => hc h.symm⟩

theorem centralPeerIndex_eq_local {source : UInt16} :
    centralPeerIndex source = some .localPeer ↔ source = controllerLocal := by
  unfold centralPeerIndex
  split
  · simp_all
  · split <;> simp_all

/-- What of the monitor is about the Locals, the connection flag apart. -/
def localPart (m : Monitor) :=
  (m.statusMaxAgeNs, (m.peers .localPeer).seen, (m.peers .localPeer).lastSeen,
    m.intersections, m.health .localPeer)

theorem localPart_disconnected {m : Monitor} {source : UInt16}
    (h : source ≠ controllerLocal) :
    localPart (centralPeerDisconnected m source) = localPart m := by
  unfold centralPeerDisconnected
  cases hpeer : centralPeerIndex source with
  | none => rfl
  | some peer =>
      cases peer with
      | localPeer => exact absurd (centralPeerIndex_eq_local.mp hpeer) h
      | trainPeer => simp [localPart, Monitor.setPeer, Monitor.unsynchronize]

theorem localPart_observe {m : Monitor} {source : UInt16} {now : Nat}
    (h : source ≠ controllerLocal) :
    localPart (centralObservePeer m source now).2 = localPart m := by
  have hdisconnected := localPart_disconnected (m := m) h
  unfold centralObservePeer
  cases hpeer : centralPeerIndex source with
  | none => rfl
  | some peer =>
      cases peer with
      | localPeer => exact absurd (centralPeerIndex_eq_local.mp hpeer) h
      | trainPeer =>
          dsimp only
          split <;> simp_all [localPart, Monitor.setPeer]

theorem localPart_step {m : Monitor} {c : MonitorCall} (hcontact : contact c = none)
    (hdisconnected : c ≠ .disconnected controllerLocal) :
    localPart (monitorStep m c) = localPart m := by
  cases c with
  | status s now =>
      have hrefused : statusAccepted s = false := by simpa [contact] using hcontact
      simp [monitorStep, centralMonitorStatus, hrefused]
  | mark connected => simp [monitorStep, localPart, Monitor.setPeer]
  | railway s now =>
      simp only [monitorStep, centralMonitorRailway]
      split
      · exact localPart_observe (by decide)
      · rfl
  | heartbeat source h now =>
      simp only [monitorStep, centralMonitorHeartbeat]
      cases hpeer : centralPeerIndex source with
      | none => rfl
      | some peer =>
          cases peer with
          | localPeer =>
              have hlocal := centralPeerIndex_eq_local.mp hpeer
              have hrefused : heartbeatAccepted .localPeer h = false := by
                simpa [contact, hlocal] using hcontact
              simp [hrefused]
          | trainPeer =>
              have hother : source ≠ controllerLocal := fun heq => by
                simp [centralPeerIndex_eq_local.mpr heq] at hpeer
              have hpart := @localPart_observe m source now hother
              dsimp only
              split
              · split
                · exact hpart
                · simpa [localPart] using hpart
              · rfl
  | observe source now =>
      have hother : source ≠ controllerLocal := by simpa [contact] using hcontact
      exact localPart_observe hother
  | disconnected source =>
      exact localPart_disconnected fun heq => hdisconnected (by rw [heq])

/-- The entry of an intersection after a contact with the Local peer. -/
def contactEntry (m : Monitor) (now target : Nat) : Entry StatusMsg :=
  if centralPeerOnline m controllerLocal now then m.intersections target
  else { m.intersections target with synchronized := false }

theorem localPart_observe_local (m : Monitor) (now : Nat) :
    localPart (centralObservePeer m controllerLocal now).2 =
      (m.statusMaxAgeNs, true, now, contactEntry m now, m.health .localPeer) := by
  have hindex : centralPeerIndex controllerLocal = some .localPeer := rfl
  have hentry : contactEntry m now = if centralPeerOnline m controllerLocal now then
      m.intersections else fun id => { m.intersections id with synchronized := false } := by
    funext target
    unfold contactEntry
    split <;> rfl
  simp only [centralObservePeer, hindex, hentry]
  cases centralPeerOnline m controllerLocal now <;>
    simp [localPart, Monitor.setPeer, centralPeerDisconnected, hindex, Monitor.unsynchronize]

/-- A status replaces the entry of its intersection. -/
def recordStatus (entries : Nat → Entry StatusMsg) (now : Nat) :
    MonitorCall → Nat → Entry StatusMsg
  | .status s _ => Function.update entries s.intersectionId.toNat ⟨true, true, now, s⟩
  | _ => entries

/-- A heartbeat replaces the health of its sender, unless it is a legacy one. -/
def recordHealth (health : Nat → ReportedHealth) (now : Nat) :
    MonitorCall → Nat → ReportedHealth
  | .heartbeat _ h _ =>
      if legacyHeartbeat h then health
      else Function.update health h.senderId.toNat ⟨true, h.healthy, now⟩
  | _ => health

theorem localPart_contact {m : Monitor} {c : MonitorCall} {now : Nat}
    (hcontact : contact c = some now) :
    localPart (monitorStep m c) =
      (m.statusMaxAgeNs, true, now, recordStatus (contactEntry m now) now c,
        recordHealth (m.health .localPeer) now c) := by
  have hobserved := localPart_observe_local m now
  cases c with
  | status s at' =>
      obtain ⟨haccepted, rfl⟩ : statusAccepted s = true ∧ at' = now := by
        simpa [contact] using hcontact
      simp_all [monitorStep, centralMonitorStatus, localPart, recordStatus, recordHealth]
  | heartbeat source h at' =>
      obtain ⟨⟨rfl, haccepted⟩, rfl⟩ : (source = controllerLocal ∧
          heartbeatAccepted .localPeer h = true) ∧ at' = now := by
        simpa [contact] using hcontact
      have hindex : centralPeerIndex controllerLocal = some .localPeer := rfl
      simp only [monitorStep, centralMonitorHeartbeat, hindex, haccepted, if_true]
      cases hlegacy : legacyHeartbeat h <;>
        simp_all [localPart, recordStatus, recordHealth]
  | observe source at' =>
      obtain ⟨rfl, rfl⟩ : source = controllerLocal ∧ at' = now := by
        simpa [contact] using hcontact
      exact hobserved
  | railway | disconnected | mark => cases hcontact

theorem localPart_disconnected_local (m : Monitor) :
    localPart (centralPeerDisconnected m controllerLocal) =
      (m.statusMaxAgeNs, false, (m.peers .localPeer).lastSeen,
        (fun id => { m.intersections id with synchronized := false }),
        m.health .localPeer) := by
  have hindex : centralPeerIndex controllerLocal = some .localPeer := rfl
  simp [centralPeerDisconnected, hindex, localPart, Monitor.setPeer, Monitor.unsynchronize]

/-- The health the monitor holds for a Local. -/
def heldHealth (health : Nat → ReportedHealth) (target : Nat) : Option UInt8 :=
  if (health target).seen then some (health target).healthy else none

theorem heldHealth_step (m : Monitor) (c : MonitorCall) (target : Nat) :
    heldHealth ((monitorStep m c).health .localPeer) target =
      (reported target c).or (heldHealth (m.health .localPeer) target) := by
  have hpart : ∀ {a b : Monitor}, localPart a = localPart b →
      a.health .localPeer = b.health .localPeer := by
    intro a b h
    simp only [localPart, Prod.mk.injEq] at h
    exact h.2.2.2.2
  cases hcontact : contact c with
  | none =>
      have hnone : reported target c = none := by
        cases c <;> simp_all [reported, contact]
      rw [hnone, Option.none_or]
      by_cases hc : c = .disconnected controllerLocal
      · subst hc
        have h := localPart_disconnected_local m
        simp only [localPart, Prod.mk.injEq] at h
        simp only [monitorStep]
        rw [h.2.2.2.2]
      · rw [hpart (localPart_step hcontact hc)]
  | some now =>
      have hcontacted := localPart_contact (m := m) hcontact
      simp only [localPart, Prod.mk.injEq] at hcontacted
      rw [hcontacted.2.2.2.2]
      cases c with
      | heartbeat source h at' =>
          simp only [contact] at hcontact
          split at hcontact
          · rename_i haccepted
            by_cases hid : h.senderId.toNat = target
            · subst hid
              cases hlegacy : legacyHeartbeat h <;>
                simp [reported, heldHealth, recordHealth, haccepted, hlegacy]
            · have hother := Ne.symm hid
              cases hlegacy : legacyHeartbeat h <;>
                simp [reported, heldHealth, recordHealth, hid, hother, hlegacy]
          · cases hcontact
      | _ => rfl

/-- The monitor agrees with the history of its calls. -/
structure Agrees (limit : Nat) (calls : List MonitorCall) (m : Monitor) : Prop where
  limit : m.statusMaxAgeNs = limit
  seen : (m.peers .localPeer).seen = true →
    (calls.filterMap contact).getLast? = some (m.peers .localPeer).lastSeen
  synchronized : ∀ target, (m.intersections target).synchronized = true →
    (m.peers .localPeer).seen = true ∧ (m.intersections target).valid = true ∧
      Supported target calls (m.intersections target).receivedAt
  supported : ∀ target t, Supported target calls t →
    (m.intersections target).synchronized = true ∧ t ≤ (m.intersections target).receivedAt
  health : ∀ target, (calls.filterMap (reported target)).getLast? =
    heldHealth (m.health .localPeer) target

theorem centralPeerOnline_local {m : Monitor} {now : Nat} :
    centralPeerOnline m controllerLocal now = true ↔
      (m.peers .localPeer).seen = true ∧ (m.peers .localPeer).lastSeen ≤ now ∧
        Close (m.peers .localPeer).lastSeen now := by
  have hindex : centralPeerIndex controllerLocal = some .localPeer := rfl
  simp [centralPeerOnline, hindex, Close, and_assoc]

theorem time_of_contact {c : MonitorCall} {now : Nat} (h : contact c = some now) :
    c.time = some now := by
  cases c <;> simp_all [contact, MonitorCall.time]

theorem mem_times_of_contact {calls : List MonitorCall} {t : Nat}
    (h : t ∈ calls.filterMap contact) : t ∈ calls.filterMap MonitorCall.time := by
  obtain ⟨c, hc, ht⟩ := List.mem_filterMap.mp h
  exact List.mem_filterMap.mpr ⟨c, hc, time_of_contact ht⟩

theorem status_contact {s : StatusMsg} {t now : Nat} (h : contact (.status s t) = some now) :
    statusAccepted s = true ∧ t = now := by
  simpa [contact] using h

theorem recordStatus_apply (entries : Nat → Entry StatusMsg) (now : Nat) (c : MonitorCall)
    (target : Nat) :
    (∃ s t, c = .status s t ∧ s.intersectionId.toNat = target ∧
      recordStatus entries now c target = ⟨true, true, now, s⟩) ∨
      ((∀ s t, c = .status s t → s.intersectionId.toNat ≠ target) ∧
        recordStatus entries now c target = entries target) := by
  cases c with
  | status s t =>
      by_cases hid : s.intersectionId.toNat = target
      · left
        exact ⟨s, t, rfl, hid, by simp [recordStatus, hid]⟩
      · right
        refine ⟨?_, by simp [recordStatus, Ne.symm hid]⟩
        intro s' t' heq
        injection heq with hs
        rwa [← hs]
  | _ =>
      right
      refine ⟨?_, rfl⟩
      intro s t h
      cases h

section Step

variable {limit : Nat} {calls : List MonitorCall} {m : Monitor} {c : MonitorCall}

theorem Agrees.health_step (h : Agrees limit calls m) (target : Nat) :
    ((calls ++ [c]).filterMap (reported target)).getLast? =
      heldHealth ((monitorStep m c).health .localPeer) target := by
  rw [heldHealth_step, ← h.health, List.filterMap_append, List.getLast?_append]
  cases hreported : reported target c <;> simp [hreported]

theorem Agrees.last_seen (h : Agrees limit calls m) {target t : Nat}
    (hsupported : Supported target calls t) :
    (m.peers .localPeer).seen = true ∧
      (calls.filterMap contact).getLast? = some (m.peers .localPeer).lastSeen := by
  have hseen := (h.synchronized target (h.supported target t hsupported).1).1
  exact ⟨hseen, h.seen hseen⟩

theorem Agrees.disconnect (h : Agrees limit calls m) :
    Agrees limit (calls ++ [.disconnected controllerLocal])
      (monitorStep m (.disconnected controllerLocal)) := by
  have hpart : localPart (monitorStep m (.disconnected controllerLocal)) = _ :=
    localPart_disconnected_local m
  simp only [localPart, Prod.mk.injEq] at hpart
  obtain ⟨hlimit, hseen, -, hentries, -⟩ := hpart
  constructor
  case limit => exact hlimit.trans h.limit
  case seen =>
    intro hseen'
    exact absurd (hseen.symm.trans hseen') (by decide)
  case synchronized =>
    intro target hsync
    rw [hentries] at hsync
    cases hsync
  case supported =>
    intro target t hsupported
    rcases supported_append.mp hsupported with ⟨s, hs, -⟩ | ⟨-, hne, -⟩
    · cases hs
    · exact absurd rfl hne
  case health => exact h.health_step

theorem Agrees.other (h : Agrees limit calls m) (hcontact : contact c = none)
    (hc : c ≠ .disconnected controllerLocal) : Agrees limit (calls ++ [c]) (monitorStep m c) := by
  have hpart := localPart_step (m := m) hcontact hc
  have hsupported : ∀ target t, Supported target (calls ++ [c]) t ↔
      Supported target calls t := by
    intro target t
    rw [supported_append]
    constructor
    · rintro (⟨s, rfl, haccepted, -⟩ | ⟨hsupported, -⟩)
      · simp [contact, haccepted] at hcontact
      · exact hsupported
    · intro hsupported
      exact .inr ⟨hsupported, hc, fun _ _ now hnow => by simp [hcontact] at hnow⟩
  simp only [localPart, Prod.mk.injEq] at hpart
  obtain ⟨hlimit, hseen, hlast, hentries, -⟩ := hpart
  constructor
  case limit => exact hlimit.trans h.limit
  case seen =>
    intro hseen'
    rw [hlast, List.filterMap_append, List.filterMap_cons, hcontact]
    simpa using h.seen (hseen.symm.trans hseen')
  case synchronized =>
    intro target hsync
    rw [hentries] at hsync ⊢
    rw [hseen, hsupported]
    exact h.synchronized target hsync
  case supported =>
    intro target t ht
    rw [hentries]
    exact h.supported target t ((hsupported target t).mp ht)
  case health => exact h.health_step

theorem Agrees.contact {now : Nat} (h : Agrees limit calls m)
    (hcontact : CentralMonitor.contact c = some now)
    (hlater : ∀ t ∈ calls.filterMap MonitorCall.time, t ≤ now) :
    Agrees limit (calls ++ [c]) (monitorStep m c) := by
  have hpart := localPart_contact (m := m) hcontact
  have hc : c ≠ .disconnected controllerLocal := by
    rintro rfl
    cases hcontact
  simp only [localPart, Prod.mk.injEq] at hpart
  obtain ⟨hlimit, hseen, hlast, hentries, -⟩ := hpart
  constructor
  case limit => exact hlimit.trans h.limit
  case seen =>
    intro _
    rw [hlast, List.filterMap_append, List.filterMap_cons, hcontact]
    simp
  case synchronized =>
    intro target hsync
    rw [hentries] at hsync ⊢
    rcases recordStatus_apply (contactEntry m now) now c target with
      ⟨s, t, rfl, rfl, hentry⟩ | ⟨-, hentry⟩
    · have haccepted := status_contact hcontact
      rw [hentry]
      exact ⟨hseen, rfl, supported_append.mpr (.inl ⟨s, haccepted.2 ▸ rfl, haccepted.1, rfl⟩)⟩
    -- a contact alone keeps a status only while the Local has stayed online
    · rw [hentry, contactEntry] at hsync ⊢
      split at hsync
      · rename_i honline
        obtain ⟨hwas, hle, hclose⟩ := centralPeerOnline_local.mp honline
        obtain ⟨-, hvalid, hsupported⟩ := h.synchronized target hsync
        rw [if_pos honline]
        refine ⟨hseen, hvalid, supported_append.mpr (.inr ⟨hsupported, hc, ?_⟩)⟩
        intro last hlast' now' hnow'
        rw [(h.last_seen hsupported).2, Option.mem_some] at hlast'
        rw [hcontact, Option.mem_some] at hnow'
        rw [← hlast', ← hnow']
        exact hclose
      · cases hsync
  case supported =>
    intro target t ht
    rw [hentries]
    rcases recordStatus_apply (contactEntry m now) now c target with
      ⟨s, t', rfl, rfl, hentry⟩ | ⟨hnone, hentry⟩
    · rw [hentry]
      refine ⟨rfl, ?_⟩
      rcases supported_append.mp ht with ⟨s', hs', -, -⟩ | ⟨hsupported, -⟩
      · injection hs' with _ ht'
        rw [← ht', (status_contact hcontact).2]
      · exact hlater t (time_of_supported hsupported)
    · rcases supported_append.mp ht with ⟨s, rfl, haccepted, rfl⟩ | ⟨hsupported, -, hclose⟩
      · exact absurd rfl (hnone s t rfl)
      · obtain ⟨hwas, hlast'⟩ := h.last_seen hsupported
        have honline : centralPeerOnline m controllerLocal now = true := by
          rw [centralPeerOnline_local]
          refine ⟨hwas, hlater _ (mem_times_of_contact (List.mem_of_getLast? hlast')), ?_⟩
          exact hclose _ hlast' now hcontact
        rw [hentry, contactEntry, if_pos honline]
        exact h.supported target t hsupported
  case health => exact h.health_step

end Step

theorem agrees_init (maxAgeSeconds : Nat) :
    Agrees (centralMonitorInit maxAgeSeconds).statusMaxAgeNs [] (centralMonitorInit maxAgeSeconds)
    where
  limit := rfl
  seen h := by cases h
  synchronized target h := by cases h
  supported target t h := by
    obtain ⟨before, s, since, heq, -⟩ := h
    cases before <;> cases heq
  health target := rfl

theorem agrees_run (maxAgeSeconds : Nat) {calls : List MonitorCall}
    (htimes : (calls.filterMap MonitorCall.time).Pairwise (· ≤ ·)) :
    Agrees (centralMonitorInit maxAgeSeconds).statusMaxAgeNs calls
      (run monitorStep (centralMonitorInit maxAgeSeconds) calls) := by
  induction calls using List.reverseRecOn with
  | nil => exact agrees_init maxAgeSeconds
  | append_singleton calls c ih =>
      rw [List.filterMap_append, List.pairwise_append] at htimes
      have hagrees := ih htimes.1
      rw [run_append, run_cons, run_nil]
      cases hcontact : contact c with
      | none =>
          by_cases hc : c = .disconnected controllerLocal
          · subst hc
            exact hagrees.disconnect
          · exact hagrees.other hcontact hc
      | some now =>
          refine hagrees.contact hcontact fun t ht => htimes.2.2 t ht now ?_
          simp [time_of_contact hcontact]

/-! ### Command readiness -/

/-- Some accepted status of the target is younger than the limit, and from it
up to `now` the Local was never disconnected and never silent for the miss
limit. -/
def FreshStatus (limit : Nat) (calls : List MonitorCall) (target now : Nat) : Prop :=
  ∃ before s t since, calls = before ++ .status s t :: since ∧ statusAccepted s = true ∧
    s.intersectionId.toNat = target ∧ now - t < limit ∧
    .disconnected controllerLocal ∉ since ∧
    (t :: (since.filterMap contact ++ [now])).IsChain Close

theorem freshStatus_iff {limit : Nat} {calls : List MonitorCall} {target now : Nat} :
    FreshStatus limit calls target now ↔ ∃ t, now - t < limit ∧ Supported target calls t ∧
      ∀ last ∈ (calls.filterMap contact).getLast?, Close last now := by
  have hchain (since : List Nat) (t : Nat) :
      (t :: (since ++ [now])).IsChain Close ↔
        (t :: since).IsChain Close ∧ ∀ last ∈ (t :: since).getLast?, Close last now := by
    rw [← List.cons_append, List.isChain_append]
    simp
  constructor
  · rintro ⟨before, s, t, since, rfl, haccepted, hid, hage, hkept, hlinked⟩
    obtain ⟨hlinked, hclose⟩ := (hchain _ _).mp hlinked
    rw [← getLast_contacts haccepted] at hclose
    exact ⟨t, hage, ⟨before, s, since, rfl, haccepted, hid, hkept, hlinked⟩, hclose⟩
  · rintro ⟨t, hage, ⟨before, s, since, rfl, haccepted, hid, hkept, hlinked⟩, hclose⟩
    rw [getLast_contacts haccepted] at hclose
    exact ⟨before, s, t, since, rfl, haccepted, hid, hage, hkept,
      (hchain _ _).mpr ⟨hlinked, hclose⟩⟩

theorem lt_of_statusAccepted {s : StatusMsg} (h : statusAccepted s = true) :
    s.intersectionId.toNat < numIntersections := by
  simp only [statusAccepted, Bool.not_eq_true', decide_eq_false_iff_not, not_or, not_le] at h
  exact h.1

theorem centralMonitorHealth_local (m : Monitor) {target : Nat} (h : target < numIntersections) :
    centralMonitorHealth m controllerLocal target = heldHealth (m.health .localPeer) target := by
  have hindex : centralPeerIndex controllerLocal = some .localPeer := rfl
  have hcount : Peer.count .localPeer = numIntersections := rfl
  simp only [centralMonitorHealth, hindex, hcount, heldHealth, Nat.not_le.mpr h, false_or]
  cases (m.health .localPeer target).seen <;> simp

theorem status_max_age_pos (maxAgeSeconds : Nat) :
    (centralMonitorInit maxAgeSeconds).statusMaxAgeNs ≠ 0 := by
  simp only [centralMonitorInit, centralNsec, centralStatusStaleSec]
  split <;> omega

theorem centralCanCommand_eq_true {m : Monitor} {target now : Nat} :
    centralCanCommand m target now = true ↔
      target < numIntersections ∧ (m.peers .localPeer).connected = true ∧
      centralPeerOnline m controllerLocal now = true ∧
      heldHealth (m.health .localPeer) target ≠ some 0 ∧
      (m.intersections target).valid = true ∧ (m.intersections target).synchronized = true ∧
      (m.intersections target).receivedAt ≤ now ∧
      now - (m.intersections target).receivedAt < centralMonitorStatusMaxAgeNs m := by
  by_cases htarget : target < numIntersections
  · rw [centralCanCommand, centralMonitorHealth_local m htarget]
    split
    · simp_all
      grind
    · simp_all [and_assoc]
  · simp [centralCanCommand, htarget, Nat.not_lt.mp htarget]

theorem reported_le {target : Nat} {c : MonitorCall} {healthy : UInt8}
    (h : reported target c = some healthy) : healthy = 0 ∨ healthy = 1 := by
  cases c with
  | heartbeat source heartbeat now =>
      simp only [reported, heartbeatAccepted, decide_eq_true_eq] at h
      split at h
      · rename_i haccepted
        obtain rfl := Option.some.inj h
        have hle : heartbeat.healthy.toNat ≤ 1 := haccepted.2.1.2
        simp only [← UInt8.toNat_inj]
        change heartbeat.healthy.toNat = 0 ∨ heartbeat.healthy.toNat = 1
        omega
      · cases h
  | _ => cases h

/-- A target is ready for commands iff its Local is connected, its evidence is
fresh and its last typed heartbeat, if there was one, reported healthy. -/
theorem centralCanCommand_iff (maxAgeSeconds : Nat) (calls : List MonitorCall)
    (target now : Nat) (htimes : InTime calls now) :
    let m := run monitorStep (centralMonitorInit maxAgeSeconds) calls
    centralCanCommand m target now = true ↔
      (m.peers .localPeer).connected = true ∧
      FreshStatus (centralMonitorInit maxAgeSeconds).statusMaxAgeNs calls target now ∧
      ∀ healthy, (calls.filterMap (reported target)).getLast? = some healthy → healthy = 1 := by
  intro m
  rw [InTime, List.pairwise_append] at htimes
  have hagrees : Agrees (centralMonitorInit maxAgeSeconds).statusMaxAgeNs calls m :=
    agrees_run maxAgeSeconds htimes.1
  have hnow : ∀ t ∈ calls.filterMap MonitorCall.time, t ≤ now :=
    fun t ht => htimes.2.2 t ht now (List.mem_singleton_self now)
  have hage : centralMonitorStatusMaxAgeNs m =
      (centralMonitorInit maxAgeSeconds).statusMaxAgeNs := by
    rw [centralMonitorStatusMaxAgeNs, hagrees.limit, if_pos (status_max_age_pos maxAgeSeconds)]
  rw [freshStatus_iff]
  constructor
  · intro hready
    obtain ⟨-, hconnected, honline, hhealthy, -, hsync, -, hyoung⟩ :=
      centralCanCommand_eq_true.mp hready
    obtain ⟨hseen, -, hclose⟩ := centralPeerOnline_local.mp honline
    obtain ⟨-, -, hsupported⟩ := hagrees.synchronized target hsync
    rw [hage] at hyoung
    refine ⟨hconnected, ⟨_, hyoung, hsupported, ?_⟩, ?_⟩
    · intro last hlast
      rw [hagrees.seen hseen, Option.mem_some] at hlast
      rwa [← hlast]
    · intro healthy hlast
      obtain ⟨c, -, hreported⟩ := List.mem_filterMap.mp (List.mem_of_getLast? hlast)
      rw [hagrees.health] at hlast
      rcases reported_le hreported with rfl | rfl
      · exact absurd hlast hhealthy
      · rfl
  · rintro ⟨hconnected, ⟨t, hyoung, hsupported, hclose⟩, hhealthy⟩
    have htarget : target < numIntersections := by
      obtain ⟨before, s, since, -, haccepted, rfl, -⟩ := hsupported
      exact lt_of_statusAccepted haccepted
    obtain ⟨hsync, hnewer⟩ := hagrees.supported target t hsupported
    obtain ⟨hseen, hvalid, hreceived⟩ := hagrees.synchronized target hsync
    have hlast := hagrees.seen hseen
    have honline : centralPeerOnline m controllerLocal now = true :=
      centralPeerOnline_local.mpr ⟨hseen,
        hnow _ (mem_times_of_contact (List.mem_of_getLast? hlast)), hclose _ hlast⟩
    refine centralCanCommand_eq_true.mpr ⟨htarget, hconnected, honline, ?_, hvalid, hsync,
      hnow _ (time_of_supported hreceived), ?_⟩
    · intro hzero
      rw [← hagrees.health] at hzero
      exact absurd (hhealthy 0 hzero) (by decide)
    · rw [hage]
      omega

theorem centralCanCommand_iff_fresh :
    centralCanCommand (run monitorStep (centralMonitorInit 0)
      [.mark true, .status (StatusMsg.ofData fun _ => 0) 100]) 0 100 = true :=
  (centralCanCommand_iff 0 _ 0 100 (by
    show List.Pairwise (· ≤ ·) [100, 100]
    decide)).mpr
    ⟨rfl, ⟨[.mark true], _, 100, [], rfl, by decide, rfl, by decide, List.not_mem_nil,
      by simp [Close, centralNsec, heartbeatMissLimit]⟩, fun _ h => by cases h⟩

end TrafficLight.CentralMonitor
