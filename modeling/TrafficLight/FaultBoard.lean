import TrafficLight.CentralReports
import TrafficLight.FaultChanges
import TrafficLight.StatusDelivery

namespace TrafficLight.FaultBoard

open TrafficLight.Runs
open TrafficLight.Protocol
open TrafficLight.Telemetry
open TrafficLight.Decimal
open TrafficLight.LocalData
open TrafficLight.LocalTraffic
open TrafficLight.LocalCore
open TrafficLight.LocalMeters
open TrafficLight.LocalProfile
open TrafficLight.LocalReports
open TrafficLight.CentralFrames
open TrafficLight.CentralMonitor
open TrafficLight.CentralReports
open TrafficLight.StatusHistory
open TrafficLight.StatusDelivery
open TrafficLight.FaultChanges

/-- The time that `get_timestamp` prints. -/
def Timestamp : Type := { timestamp : Fin 32 → UInt8 // terminated timestamp = true }

/-- The fault alert that is due at this point of the loop. -/
def dueAlert (y : System) : Option FaultMsg :=
  match y.point with
  | .fault poll =>
      if y.central ∧ y.lastFault ≠ poll.reply.faultSequence then some poll.reply.fault else none
  | _ => none

/-- The report that is due at this point of the loop, as `send_payload` gets it. -/
def dueReport (y : System) : Option (UInt16 × List UInt8) :=
  match y.point with
  | .idle => none
  | .status poll =>
      if y.central ∧ (y.delivered ≠ poll.reply.event.id ∨ poll.heartbeatDue) then
        some (msgStatusUpdate, poll.reply.event.status.toBytes)
      else none
  | .fault _ => (dueAlert y).map fun fault => (msgFaultAlert, fault.toBytes)
  | .heartbeat poll =>
      if y.central ∧ poll.heartbeatDue then
        some (msgHeartbeat, (heartbeatOf poll.reply.status y.sequence).toBytes)
      else none

/-! ### The record of a run -/

/-- A fault alert that was sent, with the faults of the Local up to its poll, the
latest first. -/
structure Alert where
  fault : FaultMsg
  faults : List LocalFault
  exchange : Exchange

inductive AlertEvent
  | reopened
  | sent (alert : Alert)

/-- The faults of a Local, those it had at every poll, and what became of its
alerts, all of them the latest first. -/
structure FaultLog where
  faults : List LocalFault
  polls : List (List LocalFault)
  alerts : List AlertEvent

def FaultLog.polled (log : FaultLog) : List LocalFault := log.polls.headD []

/-- The fault is noted when its number changes. -/
def noteFault (y y' : System) (faults : List LocalFault) : List LocalFault :=
  if y'.core.state.faultSequence = y.core.state.faultSequence then faults
  else (faultsOf y'.core.state).fault :: faults

/-- The events of a step at the alerts of a Local. -/
def noteAlert (y : System) (polled : List LocalFault) : SystemStep → List AlertEvent
  | .core _ => []
  | .poll heartbeatDue _ _ _ _ =>
      match y.point with
      | .idle => if heartbeatDue ∧ y.central = false then [.reopened] else []
      | _ => []
  | .exchange result =>
      match dueAlert y with
      | some fault => [.sent ⟨fault, polled, result⟩]
      | none => []

def notePoll (y : System) (faults : List LocalFault) : SystemStep → List (List LocalFault)
  | .poll _ _ _ answered _ =>
      match y.point with
      | .idle => if answered then [faults] else []
      | _ => []
  | _ => []

def observe (y : System) (step : SystemStep) (y' : System) (log : FaultLog) : FaultLog :=
  let faults := noteFault y y' log.faults
  { faults
    polls := notePoll y faults step ++ log.polls
    alerts := noteAlert y log.polled step ++ log.alerts }

/-- A Local with its log. -/
structure Link where
  system : System
  log : FaultLog

structure Network where
  links : Fin 6 → Link
  reports : Reports

/-- A moment at which both stored lamp outputs of a Local are green, a step of a
Local or its report thread, or a message to Central from another controller. -/
inductive NetworkStep
  | greens (i : Fin 6)
  | node (i : Fin 6) (step : SystemStep) (timestamp : Timestamp) (now : Nat)
  | foreign (message : TestMessage) (now : Nat)

def conflictingLamps (y : System) : System :=
  let state := { y.core.state with nsLight := .green, ewLight := .green }
  { y with core := { y.core with state } }

/-- The reports of Central after a frame. -/
def received (r : Reports) (frame : List UInt8) (now : Nat) : Reports :=
  (receiveFrame r frame now).getD r

/-- The reports of Central after a step of a Local. -/
def delivered (r : Reports) (y : System) (timestamp : Timestamp) (now : Nat) :
    SystemStep → Reports
  | .exchange result =>
      match dueReport y with
      | some (type, payload) =>
          if result.taken then received r (sendPayload type payload timestamp.val) now else r
      | none => r
  | _ => r

def networkStep (x : Network) : NetworkStep → Network
  | .greens i =>
      { x with
        links := Function.update x.links i
          ⟨conflictingLamps (x.links i).system, (x.links i).log⟩ }
  | .node i step timestamp now =>
      let y := (x.links i).system
      { links := Function.update x.links i
          ⟨systemStep y step, observe y step (systemStep y step) (x.links i).log⟩
        reports := delivered x.reports y timestamp now step }
  | .foreign message now =>
      if message.header.src = controllerLocal then x
      else { x with reports := (handleMessage x.reports message now).getD x.reports }

def linkStart (core : Core) : Link :=
  ⟨systemStart core, ⟨[(faultsOf core.state).fault], [], []⟩⟩

/-- Six Locals at the first turn of their cores; Central may hold anything. -/
def NetworkStarted (x : Network) : Prop :=
  ∀ i, ∃ draws now, x.links i = linkStart (coreStart (UInt8.ofNat i) draws now)

def alertsOf : List AlertEvent → List Alert
  | .sent alert :: older => alert :: alertsOf older
  | .reopened :: older => alertsOf older
  | [] => []

/-- The alerts since the connection was last opened. -/
def alertsSince : List AlertEvent → List Alert
  | .sent alert :: older => alert :: alertsSince older
  | _ => []

/-- The alerts that Central took. -/
def takenAlerts (alerts : List Alert) : List Alert := alerts.filter (·.exchange.taken)

/-- The last alert accepted since the connection was opened. -/
def lastAccepted (events : List AlertEvent) : Option Alert :=
  (alertsSince events).find? (·.exchange = .accepted)

/-- An alert says what one fault was. -/
structure Carries (alert : FaultMsg) (fault : LocalFault) : Prop where
  type : alert.faultType = fault.type.toByte
  severity : alert.severity = fault.severity.toByte
  description : alert.description = descriptionOf (ascii fault.description.toList)

/-- Central holds the fault of a Local. -/
structure Agrees (r : Reports) (i : Fin 6) (s : LocalState) : Prop where
  active : r.faultActive .localPeer i = s.faultActive
  type : (r.faults .localPeer i).faultType = s.faultType.toByte
  severity : (r.faults .localPeer i).severity = s.faultSeverity.toByte

/-- The link is up and the last number is acknowledged. -/
def Settled (y : System) : Prop := y.central = true ∧ y.lastFault = y.core.state.faultSequence

/-- Central follows a Local. -/
structure Follows (x : Network) (i : Fin 6) : Prop where
  current : (x.links i).log.faults.head? = some (faultsOf (x.links i).system.core.state).fault
  ordered : (takenAlerts (alertsOf (x.links i).log.alerts)).Pairwise fun later earlier =>
    earlier.faults <:+ later.faults
  once : (takenAlerts (alertsSince (x.links i).log.alerts)).Pairwise fun later earlier =>
    earlier.faults.length < later.faults.length
  together : ∀ alert, .sent alert ∈ (x.links i).log.alerts →
    alert.faults <:+ (x.links i).log.faults ∧
      ∃ fault, alert.faults.head? = some fault ∧ Carries alert.fault fault
  board : Settled (x.links i).system →
    (∀ alert, lastAccepted (x.links i).log.alerts = some alert →
      (x.links i).log.faults.length < alert.faults.length + 65535) →
    Agrees x.reports i (x.links i).system.core.state

/-- The number after so many changes; a Local starts with one. -/
def changeNumber (changes : Nat) : UInt16 := bumpSequence^[changes] 1

/-- The number that a Local has with its last fault. -/
def numberOf : List LocalFault → UInt16
  | [] => 0
  | _ :: older => changeNumber older.length

theorem changeNumber_succ (n : Nat) : changeNumber (n + 1) = bumpSequence (changeNumber n) :=
  Function.iterate_succ_apply' bumpSequence n 1

theorem toNat_changeNumber (n : Nat) : (changeNumber n).toNat = n % 65535 + 1 := by
  have hone : (1 : UInt16).toNat = 1 := rfl
  cases n with
  | zero => rfl
  | succ n =>
      rw [changeNumber, toNat_iterate_bumpSequence, hone]
      omega

theorem numberOf_ne_zero {faults : List LocalFault} (h : faults ≠ []) : numberOf faults ≠ 0 := by
  obtain ⟨fault, older, rfl⟩ := List.exists_cons_of_ne_nil h
  intro hzero
  have hnat := congrArg UInt16.toNat hzero
  rw [numberOf, toNat_changeNumber] at hnat
  exact Nat.succ_ne_zero _ hnat

theorem suffix_eq_of_number {faults later : List LocalFault} (hne : faults ≠ [])
    (hsuffix : faults <:+ later) (hnumber : numberOf faults = numberOf later)
    (hlt : later.length < faults.length + 65535) : faults = later := by
  have hle := hsuffix.length_le
  obtain ⟨fault, older, rfl⟩ := List.exists_cons_of_ne_nil hne
  have hne' : later ≠ [] := by
    rintro rfl
    exact absurd (List.eq_nil_of_suffix_nil hsuffix) hne
  obtain ⟨fault', older', rfl⟩ := List.exists_cons_of_ne_nil hne'
  have hnat := congrArg UInt16.toNat hnumber
  rw [numberOf, numberOf, toNat_changeNumber, toNat_changeNumber] at hnat
  apply hsuffix.eq_of_length
  simp only [List.length_cons] at hle hlt ⊢
  omega

/-- A state of the Local with this number. -/
structure Fit (i : Fin 6) (s : LocalState) : Prop where
  id : s.intersectionId = i
  inRange : InRange s
  active : s.faultActive = decide (s.faultType ≠ .none)

theorem active_of_faultStep {f f' : Faults} (h : FaultStep f f')
    (hf : f.fault.active = decide (f.fault.type ≠ .none)) :
    f'.fault.active = decide (f'.fault.type ≠ .none) := by
  cases h with
  | kept => exact hf
  | changed fault hfault => rcases hfault with rfl | rfl <;> rfl

theorem Fit.coreStep {i : Fin 6} {s : LocalState} (h : Fit i s) (step : CoreStep) :
    Fit i (coreStep s step) := by
  refine ⟨?_, ?_, active_of_faultStep (faultStep_coreStep s step) h.active⟩
  · rw [coreStep_eq_run]
    exact run_invariant (I := fun t : LocalState => t.intersectionId = i)
      (fun t op ht => (localStep_id t op).trans ht) h.id _
  · rw [coreStep_eq_run]
    exact run_invariant (fun t op ht => ht.step op) h.inRange _

theorem Fit.greens {i : Fin 6} {s : LocalState} (h : Fit i s) :
    Fit i { s with nsLight := .green, ewLight := .green } :=
  ⟨h.id, h.inRange, h.active⟩

/-- The faults up to now end with the one that holds, and its number counts them. -/
structure Recorded (faults : List LocalFault) (s : LocalState) : Prop where
  current : faults.head? = some (faultsOf s).fault
  number : s.faultSequence = numberOf faults

theorem Recorded.ne_nil {faults : List LocalFault} {s : LocalState} (h : Recorded faults s) :
    faults ≠ [] := by
  rintro rfl
  cases h.current

theorem suffix_noteFault (y y' : System) (faults : List LocalFault) :
    faults <:+ noteFault y y' faults := by
  unfold noteFault
  split
  · exact List.suffix_rfl
  · exact List.suffix_cons _ _

theorem Recorded.note {faults : List LocalFault} {y y' : System}
    (h : Recorded faults y.core.state)
    (hstep : FaultStep (faultsOf y.core.state) (faultsOf y'.core.state)) :
    Recorded (noteFault y y' faults) y'.core.state := by
  generalize hafter : faultsOf y'.core.state = after at hstep
  cases hstep with
  | kept =>
      have hsequence : y'.core.state.faultSequence = y.core.state.faultSequence :=
        congrArg Faults.sequence hafter
      rw [noteFault, if_pos hsequence]
      exact ⟨h.current.trans (congrArg (fun f : Faults => some f.fault) hafter.symm),
        hsequence.trans h.number⟩
  | changed fault _ =>
      have hsequence : y'.core.state.faultSequence = bumpSequence y.core.state.faultSequence :=
        congrArg Faults.sequence hafter
      have hne := iterate_bumpSequence_ne y.core.state.faultSequence (k := 0) (by omega)
      rw [noteFault, if_neg (by rwa [hsequence])]
      refine ⟨rfl, ?_⟩
      obtain ⟨first, older, rfl⟩ := List.exists_cons_of_ne_nil h.ne_nil
      rw [hsequence, h.number]
      exact (changeNumber_succ _).symm

/-- Central keeps this alert of a Local. -/
structure Shows (r : Reports) (i : Fin 6) (alert : FaultMsg) : Prop where
  fault : r.faults .localPeer i = alert
  active : r.faultActive .localPeer i = decide (alert.faultType ≠ FaultType.none.toByte)

structure SameRow (r r' : Reports) (i : Fin 6) : Prop where
  fault : r'.faults .localPeer i = r.faults .localPeer i
  active : r'.faultActive .localPeer i = r.faultActive .localPeer i

theorem SameRow.refl (r : Reports) (i : Fin 6) : SameRow r r i := ⟨rfl, rfl⟩

theorem Shows.sameRow {r r' : Reports} {i : Fin 6} {alert : FaultMsg} (h : Shows r i alert)
    (hrow : SameRow r r' i) : Shows r' i alert :=
  ⟨hrow.fault.trans h.fault, hrow.active.trans h.active⟩

theorem peer_eq_local {source : UInt16} (h : centralPeerIndex source = some .localPeer) :
    source = controllerLocal := by
  unfold centralPeerIndex at h
  split at h
  · assumption
  · split at h <;> cases h

theorem handleFault_row {r r' : Reports} {source : UInt16} {fault : FaultMsg} {now : Nat}
    {i : Fin 6} (h : handleFault r source fault now = some r')
    (hother : source ≠ controllerLocal ∨ fault.sourceId.toNat ≠ i) : SameRow r r' i := by
  unfold handleFault at h
  cases hpeer : centralPeerIndex source with
  | none =>
      rw [hpeer] at h
      cases h
  | some peer =>
      rw [hpeer] at h
      dsimp only at h
      split at h
      · cases h
      · obtain rfl := Option.some.inj h
        cases peer with
        | trainPeer => exact ⟨rfl, rfl⟩
        | localPeer =>
            have hne : i.val ≠ fault.sourceId.toNat :=
              (hother.resolve_left (not_not_intro (peer_eq_local hpeer))).symm
            constructor
            · dsimp only
              rw [Function.update_self, Function.update_of_ne hne]
            · dsimp only
              rw [Function.update_self, Function.update_of_ne hne]

theorem handleMessage_row {r r' : Reports} {message : TestMessage} {now : Nat} {i : Fin 6}
    (h : handleMessage r message now = some r')
    (hother : message.header.type = msgFaultAlert → message.header.src ≠ controllerLocal ∨
      (FaultMsg.ofData message.data).sourceId.toNat ≠ i) : SameRow r r' i := by
  have hmonitored : ∀ {m : Option Monitor},
      m.map (fun monitor => { r with monitor }) = some r' → SameRow r r' i := by
    intro m hm
    obtain ⟨monitor, -, rfl⟩ := Option.map_eq_some_iff.mp hm
    exact ⟨rfl, rfl⟩
  unfold handleMessage at h
  dsimp only at h
  split_ifs at h with _ _ _ _ htype
  · exact hmonitored h
  · obtain rfl := Option.some.inj h
    exact .refl r i
  · exact hmonitored h
  · exact hmonitored h
  · exact handleFault_row h (hother htype)

section Frames

variable {type : UInt16} {payload : List UInt8} {timestamp : Fin 32 → UInt8}

theorem receiveFrame_sendPayload {r r' : Reports} {now : Nat}
    (h : receiveFrame r (sendPayload type payload timestamp) now = some r') :
    handleMessage r (localEnvelope type payload timestamp) now = some r' := by
  have henvelope : frameEnvelope (sendPayload type payload timestamp) =
      some (localEnvelope type payload timestamp) := by
    unfold sendPayload frameEnvelope
    dsimp only
    rw [if_pos (length_messageBytes _), messageOfBytes_messageBytes]
    rfl
  obtain ⟨message, hmessage, hhandled⟩ := Option.bind_eq_some_iff.mp h
  unfold centralFrameNormalize at hmessage
  split at hmessage
  · cases hmessage
  · rw [henvelope] at hmessage
    obtain ⟨hsame, -⟩ := Option.filter_eq_some_iff.mp hmessage
    rw [Option.some.inj hsame]
    exact hhandled

theorem received_row {r : Reports} {now : Nat} {i : Fin 6}
    (hother : type = msgFaultAlert → (FaultMsg.ofData (dataOfBytes payload)).sourceId.toNat ≠ i) :
    SameRow r (received r (sendPayload type payload timestamp) now) i := by
  unfold received
  cases hreceived : receiveFrame r (sendPayload type payload timestamp) now with
  | none => exact .refl r i
  | some r' =>
      exact handleMessage_row (receiveFrame_sendPayload hreceived) fun htype => .inr (hother htype)

theorem received_alert {r : Reports} {now : Nat} {i : Fin 6} {s : LocalState} (h : Fit i s)
    (htime : terminated timestamp = true) :
    Shows (received r
      (sendPayload msgFaultAlert (prepareFaultMessageLocked s).toBytes timestamp) now) i
      (prepareFaultMessageLocked s) := by
  obtain ⟨r', hr', hfault, hactive, -⟩ := receive_fault htime r h.inRange now
  rw [received, hr']
  rw [h.id] at hfault hactive
  exact ⟨hfault, hactive⟩

end Frames

/-! ### One Local -/

/-- The reply in the hands of the report thread. -/
def pollOf : ReportPoint → Option Poll
  | .idle => none
  | .status poll | .fault poll | .heartbeat poll => some poll

/-- A reply about the faults up to the last poll. -/
structure Polled (i : Fin 6) (polled : List LocalFault) (poll : Poll) : Prop where
  reply : poll.reply.fault = prepareFaultMessageLocked poll.core.state
  number : poll.reply.faultSequence = poll.core.state.faultSequence
  fit : Fit i poll.core.state
  recorded : Recorded polled poll.core.state

/-- What holds of a Local between any two steps. -/
structure Sound (i : Fin 6) (l : Link) : Prop where
  fit : Fit i l.system.core.state
  recorded : Recorded l.log.faults l.system.core.state
  polled : l.log.polled <:+ l.log.faults
  inHand : ∀ poll, pollOf l.system.point = some poll → Polled i l.log.polled poll
  sent : ∀ alert, .sent alert ∈ l.log.alerts → alert.faults <:+ l.log.polled ∧
    ∃ fault, alert.faults.head? = some fault ∧ Carries alert.fault fault
  ordered : (takenAlerts (alertsOf l.log.alerts)).Pairwise fun later earlier =>
    earlier.faults <:+ later.faults
  once : (takenAlerts (alertsSince l.log.alerts)).Pairwise fun later earlier =>
    earlier.faults.length < later.faults.length
  acknowledged : l.system.lastFault =
    numberOf ((lastAccepted l.log.alerts).elim [] Alert.faults)
  clean : l.system.central = true →
    ∀ alert ∈ alertsSince l.log.alerts, alert.exchange.keepsOpen = true

variable {i : Fin 6} {y y' : System} {log : FaultLog}

theorem Sound.goesOn (h : Sound i ⟨y, log⟩) (hstate : y'.core.state = y.core.state)
    (hlast : y'.lastFault = y.lastFault) (hcentral : y'.central = true → y.central = true)
    (hpoint : ∀ poll, pollOf y'.point = some poll → pollOf y.point = some poll) :
    Sound i ⟨y', log⟩ where
  fit := by
    rw [hstate]
    exact h.fit
  recorded := by
    rw [hstate]
    exact h.recorded
  polled := h.polled
  inHand := fun poll hpoll => h.inHand poll (hpoint poll hpoll)
  sent := h.sent
  ordered := h.ordered
  once := h.once
  acknowledged := hlast.trans h.acknowledged
  clean := fun hup => h.clean (hcentral hup)

theorem state_coreTurn (c : Core) (turn : CoreStep × Nat) :
    (coreTurn c turn).state = coreStep c.state turn.1 := by
  unfold coreTurn StatusHistory.recordStatus
  dsimp only
  split <;> rfl

theorem noteFault_same (h : y'.core.state = y.core.state) (faults : List LocalFault) :
    noteFault y y' faults = faults :=
  if_pos (congrArg LocalState.faultSequence h)

theorem Sound.coreTurn (h : Sound i ⟨y, log⟩) (turn : CoreStep × Nat)
    (hcore : y'.core = coreTurn y.core turn) (hpoint : y'.point = y.point)
    (hlast : y'.lastFault = y.lastFault) (hcentral : y'.central = y.central) :
    Sound i ⟨y', { log with faults := noteFault y y' log.faults }⟩ := by
  have hstate : y'.core.state = coreStep y.core.state turn.1 := by
    rw [hcore, state_coreTurn]
  constructor
  · rw [hstate]
    exact h.fit.coreStep turn.1
  · apply h.recorded.note
    rw [hstate]
    exact faultStep_coreStep y.core.state turn.1
  · exact h.polled.trans (suffix_noteFault y y' log.faults)
  · intro poll hpoll
    exact h.inHand poll (hpoint ▸ hpoll)
  · exact h.sent
  · exact h.ordered
  · exact h.once
  · exact hlast.trans h.acknowledged
  · exact fun hup => h.clean (hcentral ▸ hup)

theorem Sound.reopened (h : Sound i ⟨y, log⟩) (hstate : y'.core.state = y.core.state)
    (hlast : y'.lastFault = 0) (hpoint : y'.point = .idle) :
    Sound i ⟨y', { log with alerts := .reopened :: log.alerts }⟩ := by
  constructor
  · rw [hstate]
    exact h.fit
  · rw [hstate]
    exact h.recorded
  · exact h.polled
  · intro poll hpoll
    rw [show Link.system _ = y' from rfl, hpoint] at hpoll
    cases hpoll
  · intro alert halert
    exact h.sent alert ((List.mem_cons.mp halert).resolve_left AlertEvent.noConfusion)
  · exact h.ordered
  · exact List.Pairwise.nil
  · exact hlast
  · exact fun _ alert halert => absurd halert List.not_mem_nil

theorem Sound.answered (h : Sound i ⟨y, log⟩) {poll : Poll} {number : Nat}
    (hreply : poll.reply = coreReply y.core number) (hcore : poll.core = y.core) :
    Sound i ⟨{ y with point := .status poll }, { log with polls := log.faults :: log.polls }⟩ where
  fit := h.fit
  recorded := h.recorded
  polled := List.suffix_rfl
  inHand := by
    rintro _ ⟨⟩
    refine ⟨?_, ?_, ?_, ?_⟩
    · rw [hreply, hcore]
      rfl
    · rw [hreply, hcore]
      rfl
    · rw [hcore]
      exact h.fit
    · rw [hcore]
      exact h.recorded
  sent := fun alert halert => ⟨(h.sent alert halert).1.trans h.polled, (h.sent alert halert).2⟩
  ordered := h.ordered
  once := h.once
  acknowledged := h.acknowledged
  clean := h.clean

theorem mem_alertsOf {events : List AlertEvent} {alert : Alert} :
    alert ∈ alertsOf events ↔ .sent alert ∈ events := by
  induction events with
  | nil => exact ⟨nofun, nofun⟩
  | cons event older ih =>
      cases event with
      | reopened =>
          rw [alertsOf, ih, List.mem_cons]
          exact ⟨.inr, fun h => h.resolve_left AlertEvent.noConfusion⟩
      | sent other => rw [alertsOf, List.mem_cons, List.mem_cons, ih, AlertEvent.sent.injEq]

theorem alertsSince_latest (events : List AlertEvent) : alertsSince events <+: alertsOf events := by
  induction events with
  | nil => exact List.prefix_rfl
  | cons event older ih =>
      cases event with
      | reopened => exact List.nil_prefix
      | sent alert => exact List.cons_prefix_cons.mpr ⟨rfl, ih⟩

theorem lastAccepted_eq {events : List AlertEvent}
    (hclean : ∀ alert ∈ alertsSince events, alert.exchange.keepsOpen = true) :
    lastAccepted events = (takenAlerts (alertsSince events)).head? := by
  rw [lastAccepted, ← List.head?_filter, takenAlerts]
  apply congrArg List.head?
  apply List.filter_congr
  intro alert halert
  have hopen := hclean alert halert
  cases hexchange : alert.exchange with
  | accepted => rfl
  | refused => rfl
  | failed taken =>
      rw [hexchange] at hopen
      cases hopen

theorem takenAlerts_cons (alert : Alert) (older : List Alert) :
    takenAlerts (alert :: older) =
      if alert.exchange.taken then alert :: takenAlerts older else takenAlerts older :=
  List.filter_cons

theorem Sound.later (h : Sound i ⟨y, log⟩) {poll : Poll} (hpoint : y.point = .fault poll)
    (hcentral : y.central = true) (hdue : y.lastFault ≠ poll.reply.faultSequence) :
    ∀ alert ∈ takenAlerts (alertsSince log.alerts), alert.faults.length < log.polled.length := by
  have hhand := h.inHand poll (by rw [show Link.system _ = y from rfl, hpoint]; rfl)
  have hlast := lastAccepted_eq (h.clean hcentral)
  have hacknowledged := h.acknowledged
  have honce := h.once
  have hsuffix : ∀ alert ∈ takenAlerts (alertsSince log.alerts), alert.faults <:+ log.polled := by
    intro alert halert
    have hsince := List.mem_of_mem_filter halert
    exact (h.sent alert (mem_alertsOf.mp ((alertsSince_latest _).subset hsince))).1
  dsimp only at hlast hacknowledged honce
  rw [hlast] at hacknowledged
  cases htaken : takenAlerts (alertsSince log.alerts) with
  | nil => exact fun alert halert => absurd halert List.not_mem_nil
  | cons newest older =>
      rw [htaken] at hacknowledged honce hsuffix
      have hnewest : newest.faults.length < log.polled.length := by
        apply lt_of_le_of_ne (hsuffix newest List.mem_cons_self).length_le
        intro hlength
        have hsame := (hsuffix newest List.mem_cons_self).eq_of_length hlength
        apply hdue
        rw [hacknowledged, hhand.number, hhand.recorded.number, ← hsame]
        rfl
      intro alert halert
      rcases List.mem_cons.mp halert with rfl | holder
      · exact hnewest
      · exact ((List.pairwise_cons.mp honce).1 alert holder).trans hnewest

theorem Sound.alertSent (h : Sound i ⟨y, log⟩) {poll : Poll} (hpoint : y.point = .fault poll)
    (hcentral : y.central = true) (hdue : y.lastFault ≠ poll.reply.faultSequence)
    (result : Exchange) :
    Sound i ⟨faultSend y poll result,
      { log with alerts := .sent ⟨poll.reply.fault, log.polled, result⟩ :: log.alerts }⟩ := by
  have hhand := h.inHand poll (by rw [show Link.system _ = y from rfl, hpoint]; rfl)
  have hsend : faultSend y poll result = { y with
      central := result.keepsOpen
      lastFault := if result = .accepted then poll.reply.faultSequence else y.lastFault
      point := .heartbeat poll } := if_pos ⟨hcentral, hdue⟩
  rw [hsend]
  constructor
  · exact h.fit
  · exact h.recorded
  · exact h.polled
  · rintro _ ⟨⟩
    exact hhand
  · intro alert halert
    rcases List.mem_cons.mp halert with heq | hold
    · obtain rfl := AlertEvent.sent.inj heq
      refine ⟨List.suffix_rfl, _, hhand.recorded.current, ?_⟩
      dsimp only
      rw [hhand.reply]
      exact ⟨rfl, rfl, rfl⟩
    · exact h.sent alert hold
  · dsimp only
    rw [alertsOf, takenAlerts_cons]
    split
    · refine List.pairwise_cons.mpr ⟨fun alert halert => ?_, h.ordered⟩
      exact (h.sent alert (mem_alertsOf.mp (List.mem_of_mem_filter halert))).1
    · exact h.ordered
  · dsimp only
    rw [alertsSince, takenAlerts_cons]
    split
    · exact List.pairwise_cons.mpr ⟨h.later hpoint hcentral hdue, h.once⟩
    · exact h.once
  · dsimp only
    by_cases haccepted : result = .accepted
    · rw [if_pos haccepted, hhand.number, hhand.recorded.number, lastAccepted, alertsSince,
        List.find?_cons_of_pos (by simpa using haccepted)]
      rfl
    · rw [if_neg haccepted, lastAccepted, alertsSince,
        List.find?_cons_of_neg (by simpa using haccepted)]
      exact h.acknowledged
  · intro hopen alert halert
    rcases List.mem_cons.mp halert with rfl | hold
    · exact hopen
    · exact h.clean hcentral alert hold

theorem observe_idle (h : y.point = .idle) (heartbeatDue opens trainUp answered : Bool)
    (now : Nat) :
    observe y (.poll heartbeatDue opens trainUp answered now) y' log =
      { faults := noteFault y y' log.faults
        polls := (if answered then [noteFault y y' log.faults] else []) ++ log.polls
        alerts :=
          (if heartbeatDue ∧ y.central = false then [.reopened] else []) ++ log.alerts } := by
  simp only [observe, notePoll, noteAlert, h]

theorem reopen_core (y : System) (heartbeatDue opens : Bool) :
    (reopen y heartbeatDue opens).core = y.core := by
  unfold reopen
  split <;> rfl

theorem Sound.poll (h : Sound i ⟨y, log⟩) (hidle : y.point = .idle)
    (heartbeatDue opens trainUp answered : Bool) (now : Nat) :
    let y' := pollStep y heartbeatDue opens trainUp answered now
    Sound i ⟨y', observe y (.poll heartbeatDue opens trainUp answered now) y' log⟩ := by
  intro y'
  have hcore := reopen_core y heartbeatDue opens
  have hreopen : Sound i ⟨reopen y heartbeatDue opens, { log with
      alerts :=
        (if heartbeatDue ∧ y.central = false then [.reopened] else []) ++ log.alerts }⟩ := by
    unfold reopen
    split
    · exact h.reopened rfl rfl hidle
    · exact h
  rw [observe_idle hidle]
  cases answered with
  | false =>
      have hy' : y' = reopen y heartbeatDue opens := rfl
      rw [hy', noteFault_same (congrArg Core.state hcore)]
      exact hreopen
  | true =>
      let turn : CoreStep × Nat := (.links (reopen y heartbeatDue opens).central trainUp, now)
      let turned := { reopen y heartbeatDue opens with
        core := StatusHistory.coreTurn (reopen y heartbeatDue opens).core turn }
      have hnote : noteFault (reopen y heartbeatDue opens) turned log.faults =
          noteFault y y' log.faults := by
        unfold noteFault
        rw [hcore]
        rfl
      have hturned : Sound i ⟨turned, ⟨noteFault y y' log.faults, log.polls,
          (if heartbeatDue ∧ y.central = false then [.reopened] else []) ++ log.alerts⟩⟩ := by
        rw [← hnote]
        exact hreopen.coreTurn turn rfl rfl rfl rfl
      exact @Sound.answered i turned _ hturned
        ⟨coreReply turned.core turned.delivered, turned.delivered, turned.core, heartbeatDue⟩ _
        rfl rfl

/-- An exchange that is not about an alert. -/
structure Quiet (y y' : System) : Prop where
  core : y'.core = y.core
  lastFault : y'.lastFault = y.lastFault
  central : y'.central = true → y.central = true
  point : ∀ poll, pollOf y'.point = some poll → pollOf y.point = some poll

theorem quiet_statusSend {poll : Poll} (hpoint : y.point = .status poll) (result : Exchange) :
    Quiet y (statusSend y poll result) := by
  have hnext : ∀ next, pollOf (.fault poll) = some next → pollOf y.point = some next := by
    rw [hpoint]
    exact fun _ => id
  unfold statusSend
  split
  · rename_i hdue
    exact ⟨rfl, rfl, fun _ => hdue.1, hnext⟩
  · exact ⟨rfl, rfl, id, hnext⟩

theorem quiet_heartbeatSend (y : System) (poll : Poll) (result : Exchange) :
    Quiet y (heartbeatSend y poll result) := by
  have hnext : ∀ next, pollOf .idle = some next → pollOf y.point = some next := by
    rintro next ⟨⟩
  unfold heartbeatSend
  split
  · rename_i hdue
    exact ⟨rfl, rfl, fun _ => hdue.1, hnext⟩
  · exact ⟨rfl, rfl, id, hnext⟩

theorem Sound.quiet (h : Sound i ⟨y, log⟩) (hquiet : Quiet y y') (hdue : dueAlert y = none)
    (result : Exchange) : Sound i ⟨y', observe y (.exchange result) y' log⟩ := by
  have hstate : y'.core.state = y.core.state := congrArg Core.state hquiet.core
  have hobserve : observe y (.exchange result) y' log = log := by
    simp only [observe, notePoll, noteAlert, hdue, noteFault_same hstate, List.nil_append]
  rw [hobserve]
  exact h.goesOn hstate hquiet.lastFault hquiet.central hquiet.point

theorem Sound.faultSend (h : Sound i ⟨y, log⟩) {poll : Poll} (hpoint : y.point = .fault poll)
    (result : Exchange) :
    Sound i ⟨faultSend y poll result,
      observe y (.exchange result) (faultSend y poll result) log⟩ := by
  have hnext : ∀ next, pollOf (.heartbeat poll) = some next → pollOf y.point = some next := by
    rw [hpoint]
    exact fun _ => id
  have halert : dueAlert y = if y.central ∧ y.lastFault ≠ poll.reply.faultSequence then
      some poll.reply.fault else none := by
    rw [dueAlert, hpoint]
  by_cases hdue : y.central = true ∧ y.lastFault ≠ poll.reply.faultSequence
  · rw [if_pos hdue] at halert
    have hcore : (StatusDelivery.faultSend y poll result).core.state = y.core.state := by
      rw [StatusDelivery.faultSend, if_pos hdue]
    have hobserve : observe y (.exchange result) (StatusDelivery.faultSend y poll result) log =
        { log with alerts := .sent ⟨poll.reply.fault, log.polled, result⟩ :: log.alerts } := by
      simp only [observe, notePoll, noteAlert, halert, noteFault_same hcore, List.nil_append,
        List.singleton_append]
    rw [hobserve]
    exact h.alertSent hpoint hdue.1 hdue.2 result
  · rw [if_neg hdue] at halert
    apply h.quiet _ halert
    have hsend : StatusDelivery.faultSend y poll result = { y with point := .heartbeat poll } :=
      if_neg hdue
    rw [hsend]
    exact ⟨rfl, rfl, id, hnext⟩

theorem Sound.exchange (h : Sound i ⟨y, log⟩) (result : Exchange) :
    Sound i ⟨systemStep y (.exchange result),
      observe y (.exchange result) (systemStep y (.exchange result)) log⟩ := by
  cases hpoint : y.point with
  | idle =>
      rw [show systemStep y (.exchange result) = y by rw [systemStep, hpoint]]
      exact h.quiet ⟨rfl, rfl, id, fun _ => id⟩ (by rw [dueAlert, hpoint]) result
  | status poll =>
      rw [show systemStep y (.exchange result) = statusSend y poll result by
        rw [systemStep, hpoint]]
      exact h.quiet (quiet_statusSend hpoint result) (by rw [dueAlert, hpoint]) result
  | heartbeat poll =>
      rw [show systemStep y (.exchange result) = heartbeatSend y poll result by
        rw [systemStep, hpoint]]
      exact h.quiet (quiet_heartbeatSend y poll result) (by rw [dueAlert, hpoint]) result
  | fault poll =>
      rw [show systemStep y (.exchange result) = StatusDelivery.faultSend y poll result by
        rw [systemStep, hpoint]]
      exact h.faultSend hpoint result

theorem poll_busy (hbusy : y.point ≠ .idle) (heartbeatDue opens trainUp answered : Bool)
    (now : Nat) :
    let step : SystemStep := .poll heartbeatDue opens trainUp answered now
    systemStep y step = y ∧ observe y step y log = log := by
  have hsame := @noteFault_same y y rfl log.faults
  cases hpoint : y.point with
  | idle => exact absurd hpoint hbusy
  | status poll | fault poll | heartbeat poll =>
      constructor
      · simp only [systemStep, hpoint]
      · simp only [observe, notePoll, noteAlert, hpoint, hsame, List.nil_append]

theorem Sound.step (h : Sound i ⟨y, log⟩) (step : SystemStep) :
    Sound i ⟨systemStep y step, observe y step (systemStep y step) log⟩ := by
  cases step with
  | core turn => exact h.coreTurn turn rfl rfl rfl rfl
  | poll heartbeatDue opens trainUp answered now =>
      by_cases hidle : y.point = .idle
      · rw [show systemStep y (.poll heartbeatDue opens trainUp answered now) =
          pollStep y heartbeatDue opens trainUp answered now by rw [systemStep, hidle]]
        exact h.poll hidle heartbeatDue opens trainUp answered now
      · obtain ⟨hstep, hlog⟩ := @poll_busy y log hidle heartbeatDue opens trainUp answered now
        rw [hstep, hlog]
        exact h
  | exchange result => exact h.exchange result

theorem Sound.greens (h : Sound i ⟨y, log⟩) : Sound i ⟨conflictingLamps y, log⟩ :=
  ⟨h.fit.greens, ⟨h.recorded.current, h.recorded.number⟩, h.polled, h.inHand, h.sent, h.ordered,
    h.once, h.acknowledged, h.clean⟩

theorem faults_init (intersectionId : UInt8) (draws : Draws) :
    faultsOf (localStateInit intersectionId draws) = ⟨⟨false, .none, .low, ""⟩, 1⟩ := by
  unfold localStateInit
  generalize intersectionOf intersectionId = id
  fin_cases id <;> rfl

theorem id_init (i : Fin 6) (draws : Draws) :
    (localStateInit (UInt8.ofNat i) draws).intersectionId = i := by
  have hid : ∀ i : Fin 6, intersectionOf (UInt8.ofNat i) = i := by decide
  unfold localStateInit
  rw [hid]
  fin_cases i <;> rfl

theorem sound_linkStart (i : Fin 6) (draws : Draws) (now : Nat) :
    Sound i (linkStart (coreStart (UInt8.ofNat i) draws now)) := by
  have hfaults := faults_init (UInt8.ofNat i) draws
  have hactive := congrArg (fun f : Faults => f.fault.active) hfaults
  have htype := congrArg (fun f : Faults => f.fault.type) hfaults
  constructor
  · refine ⟨id_init i draws, inRange_init _ draws, hactive.trans ?_⟩
    symm
    rw [decide_eq_false_iff_not, not_not]
    exact htype
  · exact ⟨rfl, congrArg Faults.sequence hfaults⟩
  · exact List.nil_suffix
  · rintro poll ⟨⟩
  · exact fun alert halert => absurd halert List.not_mem_nil
  · exact List.Pairwise.nil
  · exact List.Pairwise.nil
  · rfl
  · exact fun _ alert halert => absurd halert List.not_mem_nil

/-- The last alert that Central took, on any connection. -/
def lastShown (events : List AlertEvent) : Option Alert := (takenAlerts (alertsOf events)).head?

/-- Every Local is sound, and the board has its last alert. -/
structure SoundNetwork (x : Network) : Prop where
  sound : ∀ i, Sound i (x.links i)
  shown : ∀ i alert, lastShown (x.links i).log.alerts = some alert →
    Shows x.reports i alert.fault

theorem Sound.dueAlert (h : Sound i ⟨y, log⟩) {fault : FaultMsg}
    (hdue : dueAlert y = some fault) : ∃ s, Fit i s ∧ fault = prepareFaultMessageLocked s := by
  unfold FaultBoard.dueAlert at hdue
  split at hdue
  · rename_i poll hpoint
    have hhand := h.inHand poll (by rw [show Link.system _ = y from rfl, hpoint]; rfl)
    split at hdue
    · rw [hhand.reply] at hdue
      exact ⟨_, hhand.fit, (Option.some.inj hdue).symm⟩
    · cases hdue
  · cases hdue

theorem dueReport_cases {type : UInt16} {payload : List UInt8}
    (h : dueReport y = some (type, payload)) :
    (∃ fault, dueAlert y = some fault ∧ type = msgFaultAlert ∧ payload = fault.toBytes) ∨
      (dueAlert y = none ∧ type ≠ msgFaultAlert) := by
  unfold dueReport at h
  split at h
  · cases h
  · rename_i poll hpoint
    right
    split at h
    · obtain ⟨rfl, -⟩ := Prod.mk.inj (Option.some.inj h)
      exact ⟨by rw [dueAlert, hpoint], by decide⟩
    · cases h
  · left
    obtain ⟨fault, hfault, hreport⟩ := Option.map_eq_some_iff.mp h
    obtain ⟨rfl, rfl⟩ := Prod.mk.inj hreport
    exact ⟨fault, hfault, rfl, rfl⟩
  · rename_i poll hpoint
    right
    split at h
    · obtain ⟨rfl, -⟩ := Prod.mk.inj (Option.some.inj h)
      exact ⟨by rw [dueAlert, hpoint], by decide⟩
    · cases h

theorem delivered_other (h : Sound i ⟨y, log⟩) {j : Fin 6} (hne : i ≠ j) (r : Reports)
    (timestamp : Timestamp) (now : Nat) (step : SystemStep) :
    SameRow r (delivered r y timestamp now step) j := by
  cases step with
  | core | poll => exact .refl r j
  | exchange result =>
      unfold delivered
      dsimp only
      split
      · rename_i type payload hdue
        split
        · apply received_row
          intro htype
          rcases dueReport_cases hdue with ⟨fault, hfault, -, rfl⟩ | ⟨-, hother⟩
          · obtain ⟨s, hfit, rfl⟩ := h.dueAlert hfault
            rw [FaultMsg.ofData_toBytes]
            show (UInt8.ofNat s.intersectionId.val).toNat ≠ j
            rw [toNat_intersection, hfit.id]
            exact fun hval => hne (Fin.ext hval)
          · exact absurd htype hother
        · exact .refl r j
      · exact .refl r j

theorem dueReport_alert {fault : FaultMsg} (h : dueAlert y = some fault) :
    dueReport y = some (msgFaultAlert, fault.toBytes) := by
  have hpoint : ∃ poll, y.point = .fault poll := by
    unfold dueAlert at h
    split at h
    · exact ⟨_, ‹_›⟩
    · cases h
  obtain ⟨poll, hpoint⟩ := hpoint
  unfold dueReport
  rw [hpoint]
  dsimp only
  rw [h]
  rfl

theorem delivered_alert (h : Sound i ⟨y, log⟩) {fault : FaultMsg} (hdue : dueAlert y = some fault)
    (r : Reports) (timestamp : Timestamp) (now : Nat) (result : Exchange) :
    let r' := delivered r y timestamp now (.exchange result)
    if result.taken then Shows r' i fault else r' = r := by
  obtain ⟨s, hfit, rfl⟩ := h.dueAlert hdue
  simp only [delivered, dueReport_alert hdue]
  by_cases htaken : result.taken = true
  · rw [if_pos htaken, if_pos htaken]
    exact received_alert hfit timestamp.property
  · rw [if_neg htaken, if_neg htaken]

theorem delivered_quiet (hdue : dueAlert y = none) (r : Reports) (i : Fin 6)
    (timestamp : Timestamp) (now : Nat) (result : Exchange) :
    SameRow r (delivered r y timestamp now (.exchange result)) i := by
  unfold delivered
  dsimp only
  split
  · rename_i type payload hreport
    split
    · apply received_row
      intro htype
      rcases dueReport_cases hreport with ⟨fault, hfault, -, -⟩ | ⟨-, hother⟩
      · rw [hdue] at hfault
        cases hfault
      · exact absurd htype hother
    · exact .refl r i
  · exact .refl r i

theorem shown_delivered (h : Sound i ⟨y, log⟩) {r : Reports}
    (hshown : ∀ alert, lastShown log.alerts = some alert → Shows r i alert.fault)
    (timestamp : Timestamp) (now : Nat) (step : SystemStep) :
    ∀ alert, lastShown (observe y step (systemStep y step) log).alerts = some alert →
      Shows (delivered r y timestamp now step) i alert.fault := by
  cases step with
  | core turn => exact hshown
  | poll heartbeatDue opens trainUp answered now' =>
      have hsame : lastShown (observe y (.poll heartbeatDue opens trainUp answered now')
          (systemStep y (.poll heartbeatDue opens trainUp answered now')) log).alerts =
          lastShown log.alerts := by
        simp only [observe, noteAlert]
        split
        · split <;> rfl
        · rfl
      rw [hsame]
      exact hshown
  | exchange result =>
      cases hdue : dueAlert y with
      | none =>
          have hrow := delivered_quiet hdue r i timestamp now result
          simp only [observe, noteAlert, hdue, List.nil_append]
          exact fun alert halert => (hshown alert halert).sameRow hrow
      | some fault =>
          have halert := delivered_alert h hdue r timestamp now result
          simp only [observe, noteAlert, hdue, List.singleton_append]
          dsimp only at halert
          rw [lastShown, alertsOf, takenAlerts_cons]
          by_cases htaken : result.taken = true
          · rw [if_pos htaken] at halert ⊢
            rintro alert ⟨⟩
            exact halert
          · rw [if_neg htaken] at halert ⊢
            rw [halert]
            exact hshown

theorem SoundNetwork.step {x : Network} (h : SoundNetwork x) (step : NetworkStep) :
    SoundNetwork (networkStep x step) := by
  cases step with
  | greens i =>
      have hsound := h.sound i
      constructor
      · intro j
        by_cases hj : j = i
        · subst hj
          simp only [networkStep, Function.update_self]
          exact hsound.greens
        · simp only [networkStep, Function.update_of_ne hj]
          exact h.sound j
      · intro j
        by_cases hj : j = i
        · subst hj
          simp only [networkStep, Function.update_self]
          exact h.shown j
        · simp only [networkStep, Function.update_of_ne hj]
          exact h.shown j
  | node i step timestamp now =>
      have hsound : Sound i ⟨(x.links i).system, (x.links i).log⟩ := h.sound i
      constructor
      · intro j
        by_cases hj : j = i
        · subst hj
          simp only [networkStep, Function.update_self]
          exact hsound.step step
        · simp only [networkStep, Function.update_of_ne hj]
          exact h.sound j
      · intro j
        by_cases hj : j = i
        · subst hj
          simp only [networkStep, Function.update_self]
          exact shown_delivered hsound (h.shown j) timestamp now step
        · simp only [networkStep, Function.update_of_ne hj]
          have hrow := delivered_other hsound (Ne.symm hj) x.reports timestamp now step
          exact fun alert halert => (h.shown j alert halert).sameRow hrow
  | foreign message now =>
      unfold networkStep
      dsimp only
      split
      · exact h
      · rename_i hforeign
        refine ⟨h.sound, fun i alert halert => (h.shown i alert halert).sameRow ?_⟩
        cases hhandled : handleMessage x.reports message now with
        | none => exact .refl _ i
        | some r' => exact handleMessage_row hhandled fun _ => .inl hforeign

theorem soundNetwork_reachable {x : Network} (h : Reachable NetworkStarted networkStep x) :
    SoundNetwork x := by
  apply h.invariant _ fun x step hx => hx.step step
  intro x hstart
  constructor
  · intro i
    obtain ⟨draws, now, hlink⟩ := hstart i
    rw [hlink]
    exact sound_linkStart i draws now
  · intro i alert halert
    obtain ⟨draws, now, hlink⟩ := hstart i
    rw [hlink] at halert
    cases halert

/-! ### The board of Central -/

theorem typeByte_ne_none (type : FaultType) :
    decide (type.toByte ≠ FaultType.none.toByte) = decide (type ≠ .none) := by
  cases type <;> rfl

theorem agrees_of_shows {r : Reports} {s : LocalState} {alert : FaultMsg} (hfit : Fit i s)
    (hshows : Shows r i alert) (hcarries : Carries alert (faultsOf s).fault) : Agrees r i s where
  active := by
    rw [hshows.active, hcarries.type, hfit.active]
    exact typeByte_ne_none s.faultType
  type := by
    rw [hshows.fault]
    exact hcarries.type
  severity := by
    rw [hshows.fault]
    exact hcarries.severity

theorem lastShown_of_lastAccepted {events : List AlertEvent} {alert : Alert}
    (hclean : ∀ alert ∈ alertsSince events, alert.exchange.keepsOpen = true)
    (h : lastAccepted events = some alert) : lastShown events = some alert := by
  rw [lastAccepted_eq hclean] at h
  obtain ⟨older, holder⟩ := (alertsSince_latest events).filter (·.exchange.taken)
  rw [lastShown, takenAlerts, ← holder, List.head?_append]
  rw [takenAlerts] at h
  rw [h, Option.some_or]

theorem agrees_of_settled (h : Sound i ⟨y, log⟩) {r : Reports}
    (hshown : ∀ alert, lastShown log.alerts = some alert → Shows r i alert.fault)
    (hsettled : Settled y)
    (hrecent : ∀ alert, lastAccepted log.alerts = some alert →
      log.faults.length < alert.faults.length + 65535) : Agrees r i y.core.state := by
  obtain ⟨hup, hlast⟩ := hsettled
  have hnumber : numberOf ((lastAccepted log.alerts).elim [] Alert.faults) = numberOf log.faults :=
    h.acknowledged.symm.trans (hlast.trans h.recorded.number)
  cases haccepted : lastAccepted log.alerts with
  | none =>
      rw [haccepted] at hnumber
      exact absurd hnumber.symm (numberOf_ne_zero h.recorded.ne_nil)
  | some alert =>
      rw [haccepted] at hnumber
      have hmem : alert ∈ alertsSince log.alerts := List.mem_of_find?_eq_some haccepted
      obtain ⟨hsuffix, fault, hhead, hcarries⟩ :=
        h.sent alert (mem_alertsOf.mp ((alertsSince_latest _).subset hmem))
      have hne : alert.faults ≠ [] := by
        intro hnil
        rw [hnil] at hhead
        cases hhead
      have hsame : alert.faults = log.faults :=
        suffix_eq_of_number hne (hsuffix.trans h.polled) hnumber (hrecent alert haccepted)
      have hfault : fault = (faultsOf y.core.state).fault := by
        apply Option.some.inj
        rw [← hhead, hsame]
        exact h.recorded.current
      rw [hfault] at hcarries
      have hshows := hshown alert (lastShown_of_lastAccepted (h.clean hup) haccepted)
      exact agrees_of_shows h.fit hshows hcarries

/-- Over any run of the six Locals and their links, Central takes the alerts of a
Local in the order of its faults, each of them again only on a new connection, with
what one fault was; and while the link is up and the last number acknowledged it
holds the present fault, unless 65535 changes came after the alert it accepted. -/
theorem board_follows {x : Network} (h : Reachable NetworkStarted networkStep x) (i : Fin 6) :
    Follows x i := by
  obtain ⟨hsound, hshown⟩ := soundNetwork_reachable h
  have hlink : Sound i ⟨(x.links i).system, (x.links i).log⟩ := hsound i
  refine ⟨hlink.recorded.current, hlink.ordered, hlink.once, fun alert halert => ?_,
    agrees_of_settled hlink (hshown i)⟩
  obtain ⟨hsuffix, hcarried⟩ := hlink.sent alert halert
  exact ⟨hsuffix.trans hlink.polled, hcarried⟩

/-! ### Runs -/

def noTime : Timestamp := ⟨fun _ => 0, by decide⟩

def startNetwork : Network :=
  ⟨fun i => linkStart (coreStart (UInt8.ofNat i) Draws.zero 5), noReports⟩

theorem started_startNetwork : NetworkStarted startNetwork :=
  fun _ => ⟨Draws.zero, 5, rfl⟩

/-- A step of the first Local. -/
def first (step : SystemStep) : NetworkStep := .node 0 step noTime 6

/-- The first Local connects, and Central accepts what it sends. -/
def connects : List NetworkStep :=
  [first (.poll true true false true 6), first (.exchange .accepted), first (.exchange .accepted),
    first (.exchange .accepted)]

theorem board_follows_connected : Follows (run networkStep startNetwork connects) 0 :=
  board_follows ⟨startNetwork, connects, started_startNetwork, rfl⟩ 0

/-- Fewer than 65535 changes between two polls, and since the last one. -/
def Spaced (log : FaultLog) : Prop :=
  List.IsChain (fun later earlier => later < earlier + 65535)
    (log.faults.length :: log.polls.map List.length)

/-- Central stops the simulation of the first Local. -/
def stopMessage : TestMessage :=
  { header := { type := msgTest, src := controllerCentral, dst := controllerLocal, reserved := 0
                timestamp := fun _ => 0 }
    data := dataOfBytes (ascii ['S', 'I', 'M', '1', ' ', '0', ' ', '1', ' ', 'S', 'T', 'O', 'P']) }

def stops : NetworkStep := first (.core (.frame stopMessage Draws.zero, 7))

/-- The lamps of the first Local conflict, and its next turn finds it. -/
def conflicts : List NetworkStep := [.greens 0, first (.core (.tick false Draws.zero, 8))]

/-- The first Local asks its core, and Central refuses what it sends. -/
def refusals : List NetworkStep :=
  [first (.poll false true false true 9), first (.exchange .refused), first (.exchange .refused),
    first (.exchange .refused)]

/-- A poll that is accepted, `n` changes, a poll that is refused, `m + 1` changes. -/
def refusedRuns (n m : Nat) : List NetworkStep :=
  (connects ++ [stops]) ++ (List.replicate n conflicts).flatten ++ refusals ++
    (List.replicate m conflicts).flatten ++ conflicts

def refusedRun : List NetworkStep := refusedRuns 40000 25534

/-- The sends that are left in the loop. -/
def sendsLeft : ReportPoint → Nat
  | .idle => 0
  | .status _ => 3
  | .fault _ => 2
  | .heartbeat _ => 1

/-- The first Local after an alert about its first fault, with its simulation
stopped. -/
structure Jammed (x : Network) (faults : Nat) (polls : List Nat) (left : Nat) : Prop where
  running : (x.links 0).system.core.state.simRunning = false
  temporary : (x.links 0).system.core.state.tempModeRemaining = 0
  central : (x.links 0).system.central = true
  lastFault : (x.links 0).system.lastFault = 1
  left : sendsLeft (x.links 0).system.point = left
  row : x.reports.faultActive .localPeer 0 = false
  faults : (x.links 0).log.faults.length = faults
  polls : (x.links 0).log.polls.map List.length = polls

theorem jammed_stopped : Jammed (run networkStep startNetwork (connects ++ [stops])) 1 [1] 0 := by
  constructor
  · decide +kernel
  · decide +kernel
  · decide +kernel
  · decide +kernel
  · decide +kernel
  · decide +kernel
  · decide +kernel
  · decide +kernel

theorem coreTick_conflict {s : LocalState} (hrunning : s.simRunning = false)
    (htemporary : s.tempModeRemaining = 0) (hlights : s.nsLight = .green ∧ s.ewLight = .green) :
    coreTick s false Draws.zero = markStatusDirtyLocked (enterFailsafe s) := by
  have htime : updateTimeOfDayLocked s = s := if_pos hrunning
  have hmode : updateTemporaryModeLocked s = s := by
    unfold updateTemporaryModeLocked
    rw [if_pos (by omega)]
  have htraffic : trafficTickLocked s Draws.zero = enterFailsafe s := if_pos hlights
  have hcars : updateVehicleCountsLocked (enterFailsafe s) Draws.zero = enterFailsafe s :=
    if_pos hrunning
  unfold coreTick
  rw [if_neg (by decide)]
  dsimp only
  rw [htime, hmode, htraffic, hcars]

theorem first_link (x : Network) (step : SystemStep) :
    (networkStep x (first step)).links 0 =
      ⟨systemStep (x.links 0).system step,
        observe (x.links 0).system step (systemStep (x.links 0).system step) (x.links 0).log⟩ := by
  simp only [first, networkStep, Function.update_self]

theorem Jammed.conflicts {x : Network} {faults left : Nat} {polls : List Nat}
    (h : Jammed x faults polls left) :
    let x' := run networkStep x conflicts
    Jammed x' (faults + 1) polls left ∧ (x'.links 0).system.core.state.faultActive = true := by
  intro x'
  let y := conflictingLamps (x.links 0).system
  let y' := systemStep y (.core (.tick false Draws.zero, 8))
  have hlink : x'.links 0 =
      ⟨y', observe y (.core (.tick false Draws.zero, 8)) y' (x.links 0).log⟩ := by
    have hgreens : (networkStep x (.greens 0)).links 0 = ⟨y, (x.links 0).log⟩ := by
      simp only [networkStep, Function.update_self]
      rfl
    have hstep := first_link (networkStep x (.greens 0)) (.core (.tick false Draws.zero, 8))
    rw [hgreens] at hstep
    exact hstep
  have hstate : y'.core.state = markStatusDirtyLocked (enterFailsafe y.core.state) := by
    show (coreTurn y.core (.tick false Draws.zero, 8)).state = _
    rw [state_coreTurn]
    exact coreTick_conflict h.running h.temporary ⟨rfl, rfl⟩
  have hnote : noteFault y y' (x.links 0).log.faults =
      (faultsOf y'.core.state).fault :: (x.links 0).log.faults := by
    apply if_neg
    rw [hstate]
    exact iterate_bumpSequence_ne y.core.state.faultSequence (k := 0) (by omega)
  refine ⟨⟨?_, ?_, ?_, ?_, ?_, h.row, ?_, ?_⟩, ?_⟩ <;> rw [hlink]
  · rw [hstate]
    exact h.running
  · rw [hstate]
    exact h.temporary
  · exact h.central
  · exact h.lastFault
  · exact h.left
  · show (noteFault y y' (x.links 0).log.faults).length = faults + 1
    rw [hnote, List.length_cons, h.faults]
  · exact h.polls
  · rw [hstate]
    rfl

theorem Jammed.conflicts_run {x : Network} {faults left : Nat} {polls : List Nat}
    (h : Jammed x faults polls left) (n : Nat) :
    Jammed (run networkStep x (List.replicate n FaultBoard.conflicts).flatten) (faults + n) polls
      left := by
  induction n generalizing x faults with
  | zero => exact h
  | succ n ih =>
      rw [List.replicate_succ, List.flatten_cons, run_append, Nat.add_comm n 1, ← Nat.add_assoc]
      exact ih h.conflicts.1

theorem refused_step {left : Nat} (hcentral : y.central = true)
    (hleft : sendsLeft y.point = left + 1) :
    let y' := systemStep y (.exchange .refused)
    y'.core = y.core ∧ y'.central = true ∧ y'.lastFault = y.lastFault ∧
      sendsLeft y'.point = left := by
  cases hpoint : y.point with
  | idle =>
      rw [hpoint] at hleft
      cases hleft
  | status poll =>
      rw [hpoint] at hleft
      obtain rfl := Nat.succ.inj hleft
      simp only [systemStep, hpoint, statusSend]
      split
      · exact ⟨rfl, rfl, rfl, rfl⟩
      · exact ⟨rfl, hcentral, rfl, rfl⟩
  | fault poll =>
      rw [hpoint] at hleft
      obtain rfl := Nat.succ.inj hleft
      simp only [systemStep, hpoint, StatusDelivery.faultSend]
      split
      · exact ⟨rfl, rfl, rfl, rfl⟩
      · exact ⟨rfl, hcentral, rfl, rfl⟩
  | heartbeat poll =>
      rw [hpoint] at hleft
      obtain rfl := Nat.succ.inj hleft
      simp only [systemStep, hpoint, heartbeatSend]
      split
      · exact ⟨rfl, rfl, rfl, rfl⟩
      · exact ⟨rfl, hcentral, rfl, rfl⟩

theorem delivered_refused (r : Reports) (y : System) (timestamp : Timestamp) (now : Nat) :
    delivered r y timestamp now (.exchange .refused) = r := by
  unfold delivered
  dsimp only
  split <;> rfl

theorem Jammed.refused {x : Network} {faults left : Nat} {polls : List Nat}
    (h : Jammed x faults polls (left + 1)) :
    Jammed (networkStep x (first (.exchange .refused))) faults polls left := by
  have hlink := first_link x (.exchange .refused)
  obtain ⟨hcore, hcentral, hlast, hleft⟩ := refused_step h.central h.left
  refine ⟨?_, ?_, ?_, ?_, ?_, ?_, ?_, ?_⟩
  · rw [hlink]
    dsimp only
    rw [hcore]
    exact h.running
  · rw [hlink]
    dsimp only
    rw [hcore]
    exact h.temporary
  · rw [hlink]
    exact hcentral
  · rw [hlink]
    exact hlast.trans h.lastFault
  · rw [hlink]
    exact hleft
  · show (delivered x.reports _ noTime 6 (.exchange .refused)).faultActive .localPeer 0 = false
    rw [delivered_refused]
    exact h.row
  · rw [hlink]
    show (noteFault _ _ (x.links 0).log.faults).length = faults
    rw [noteFault_same (congrArg Core.state hcore), h.faults]
  · rw [hlink]
    exact h.polls

theorem pollStep_open (y : System) (opens trainUp : Bool) (now : Nat) :
    let y' := pollStep y false opens trainUp true now
    y'.core.state = { y.core.state with centralConnected := y.central, trainConnected := trainUp } ∧
      y'.central = y.central ∧ y'.lastFault = y.lastFault ∧ sendsLeft y'.point = 3 := by
  have hopen : reopen y false opens = y := if_neg fun h => Bool.false_ne_true h.1
  unfold pollStep
  rw [hopen]
  exact ⟨state_coreTurn y.core _, rfl, rfl, rfl⟩

theorem Jammed.poll {x : Network} {faults : Nat} {polls : List Nat} (h : Jammed x faults polls 0) :
    Jammed (networkStep x (first (.poll false true false true 9))) faults (faults :: polls) 3 := by
  have hidle : (x.links 0).system.point = .idle := by
    have hleft := h.left
    cases hpoint : (x.links 0).system.point with
    | idle => rfl
    | status | fault | heartbeat =>
        rw [hpoint] at hleft
        cases hleft
  have hlink := first_link x (.poll false true false true 9)
  have hstep : systemStep (x.links 0).system (.poll false true false true 9) =
      pollStep (x.links 0).system false true false true 9 := by
    rw [systemStep, hidle]
  obtain ⟨hstate, hcentral, hlast, hleft⟩ := pollStep_open (x.links 0).system true false 9
  rw [hstep, observe_idle hidle] at hlink
  have hnote : noteFault (x.links 0).system (pollStep (x.links 0).system false true false true 9)
      (x.links 0).log.faults = (x.links 0).log.faults :=
    if_pos (congrArg LocalState.faultSequence hstate)
  refine ⟨?_, ?_, ?_, ?_, ?_, h.row, ?_, ?_⟩ <;> rw [hlink]
  · rw [hstate]
    exact h.running
  · rw [hstate]
    exact h.temporary
  · exact hcentral.trans h.central
  · exact hlast.trans h.lastFault
  · exact hleft
  · rw [hnote]
    exact h.faults
  · rw [hnote]
    show (x.links 0).log.faults.length :: (x.links 0).log.polls.map List.length = faults :: polls
    rw [h.faults, h.polls]

theorem Jammed.refusals {x : Network} {faults : Nat} {polls : List Nat}
    (h : Jammed x faults polls 0) :
    Jammed (run networkStep x refusals) faults (faults :: polls) 0 :=
  h.poll.refused.refused.refused

theorem jammed_refused (n m : Nat) :
    let x := run networkStep startNetwork (refusedRuns n m)
    Jammed x (n + m + 2) [n + 1, 1] 0 ∧ (x.links 0).system.core.state.faultActive = true := by
  have hfirst := jammed_stopped.conflicts_run n
  have hsecond := hfirst.refusals.conflicts_run m
  have hcount : n + m + 2 = 1 + n + m + 1 := by omega
  rw [refusedRuns, run_append, run_append, run_append, run_append, hcount, Nat.add_comm n 1]
  exact hsecond.conflicts

theorem number_of_length {x : Network} (h : Reachable NetworkStarted networkStep x) (i : Fin 6)
    {n : Nat} (hlength : (x.links i).log.faults.length = n + 1) :
    (x.links i).system.core.state.faultSequence = changeNumber n := by
  have hrecorded := ((soundNetwork_reachable h).sound i).recorded
  obtain ⟨fault, older, hfaults⟩ := List.exists_cons_of_ne_nil hrecorded.ne_nil
  rw [hfaults, List.length_cons] at hlength
  rw [hrecorded.number, hfaults, numberOf, Nat.succ.inj hlength]

theorem Jammed.behind {x : Network} (h : Reachable NetworkStarted networkStep x)
    {faults : Nat} {polls : List Nat} {left : Nat} (hjammed : Jammed x (faults + 1) polls left)
    (hround : faults % 65535 = 0) (hactive : (x.links 0).system.core.state.faultActive = true) :
    Settled (x.links 0).system ∧ ¬ Agrees x.reports 0 (x.links 0).system.core.state := by
  have hnumber : (x.links 0).system.core.state.faultSequence = 1 := by
    apply UInt16.toNat_inj.mp
    rw [number_of_length h 0 hjammed.faults, toNat_changeNumber, hround]
    rfl
  refine ⟨⟨hjammed.central, hjammed.lastFault.trans hnumber.symm⟩, fun hagrees => ?_⟩
  have hrow : x.reports.faultActive .localPeer 0 = (x.links 0).system.core.state.faultActive :=
    hagrees.active
  rw [hjammed.row, hactive] at hrow
  cases hrow

theorem Jammed.spaced {x : Network} {faults first : Nat} {left : Nat}
    (h : Jammed x faults [first, 1] left) (hfirst : first < 1 + 65535)
    (hfaults : faults < first + 65535) : Spaced (x.links 0).log := by
  rw [Spaced, h.faults, h.polls]
  exact .cons_cons hfaults (.cons_cons hfirst (.singleton 1))

/-- Between two polls there were never 65535 changes; the last number is
acknowledged, and the board has another fault. -/
theorem refused_alerts_add_up :
    let x := run networkStep startNetwork refusedRun
    Spaced (x.links 0).log ∧ Settled (x.links 0).system ∧
      ¬ Agrees x.reports 0 (x.links 0).system.core.state := by
  obtain ⟨hjammed, hactive⟩ := jammed_refused 40000 25534
  rw [← refusedRun] at hjammed hactive
  have hspaced := hjammed.spaced (by omega) (by omega)
  have hbehind := hjammed.behind ⟨startNetwork, refusedRun, started_startNetwork, rfl⟩ (by omega)
    hactive
  exact ⟨hspaced, hbehind⟩

end TrafficLight.FaultBoard
