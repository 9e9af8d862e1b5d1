import TrafficLight.SchedulePolicy

namespace TrafficLight.OperatorHold

open TrafficLight.Runs
open TrafficLight.Protocol
open TrafficLight.CentralMonitor
open TrafficLight.CentralFrames
open TrafficLight.RingQueue
open TrafficLight.CommandQueue
open TrafficLight.QueueOperations
open TrafficLight.CentralCommands
open TrafficLight.TrainCommands
open TrafficLight.CommandAdmission
open TrafficLight.QueueOrder
open TrafficLight.CommandCycles
open TrafficLight.AllOrNothing
open TrafficLight.CommandBooks
open TrafficLight.OperatorRequests
open TrafficLight.SchedulePolicy

variable {routes : Routes} {s s' : Central} {i : Fin 6}

/-! ### What the operator has asked -/

/-- The operator's last mode request for a target, and how and when it ended. -/
structure Asked where
  id : UInt16
  request : ModeCmdMsg
  outcome : Option (RequestState × Nat)

/-- The operator's mode requests for a target since the schedule was last resumed
for it. -/
structure Intent where
  persistent : Bool
  latest : Option Asked

/-- The record of an operator's mode request; no other has this priority. -/
def operatorMode (record : CommandRecord) : Bool :=
  record.automatic = false ∧ record.modeRequest.priority = cmdPrioOperator

def Intent.finish (intent : Intent) (id : UInt16) (result : RequestState) (time : Nat) : Intent :=
  { intent with
    latest := intent.latest.map fun asked =>
      if asked.id = id ∧ asked.outcome = none then { asked with outcome := some (result, time) }
      else asked }

def Intent.observe (i : Fin 6) (intent : Intent) : QueueEvent → Intent
  | .queued record =>
      if record.target = i ∧ operatorMode record then
        { persistent := intent.persistent || record.modeRequest.action == cmdSetMode
          latest := some ⟨record.id, record.modeRequest, none⟩ }
      else intent
  | .handed _ _ => intent
  | .finished id result time => intent.finish id result time
  | .resumed target => if covers target i then ⟨false, none⟩ else intent

/-- The intent after a history, which is newest first. -/
def intentOf (i : Fin 6) : List QueueEvent → Intent
  | [] => ⟨false, none⟩
  | event :: older => (intentOf i older).observe i event

theorem observe_queued (intent : Intent) (record : CommandRecord) :
    intent.observe i (.queued record) =
      if record.target = i ∧ operatorMode record then
        { persistent := intent.persistent || record.modeRequest.action == cmdSetMode
          latest := some ⟨record.id, record.modeRequest, none⟩ }
      else intent :=
  rfl

/-- The schedule may ask for a mode: no persistent request, and the last request
was accepted and, if it was temporary, has run out since its receipt. -/
def Yields (intent : Intent) (now : Nat) : Prop :=
  intent.persistent = false ∧ ∀ asked, intent.latest = some asked →
    ∃ time, asked.outcome = some (.accepted, time) ∧
      (asked.request.action = cmdTemporary →
        time + asked.request.durationSec.toNat * centralNsec ≤ now)

/-- Every automatic request was allowed when it was queued. -/
def Respected (trace : List QueueEvent) : Prop :=
  ∀ record older, (.queued record :: older) <:+ trace → record.automatic = true →
    Yields (intentOf record.target older) record.queuedAt

theorem Yields.mono {intent : Intent} {now later : Nat} (h : Yields intent now)
    (hle : now ≤ later) : Yields intent later := by
  refine ⟨h.1, fun asked hasked => ?_⟩
  obtain ⟨time, houtcome, helapsed⟩ := h.2 asked hasked
  exact ⟨time, houtcome, fun htemporary => (helapsed htemporary).trans hle⟩

theorem Yields.finish {intent : Intent} {now : Nat} (h : Yields intent now) (id : UInt16)
    (result : RequestState) (time : Nat) : Yields (intent.finish id result time) now := by
  refine ⟨h.1, fun asked hasked => ?_⟩
  obtain ⟨old, hold, rfl⟩ := Option.map_eq_some_iff.mp hasked
  obtain ⟨accepted, houtcome, helapsed⟩ := h.2 old hold
  have hended : ¬ (old.id = id ∧ old.outcome = none) := by
    rw [houtcome]
    simp
  rw [if_neg hended]
  exact ⟨accepted, houtcome, helapsed⟩

theorem Respected.cons {trace : List QueueEvent} {event : QueueEvent} (h : Respected trace)
    (hevent : ∀ record, event = .queued record → record.automatic = true →
      Yields (intentOf record.target trace) record.queuedAt) : Respected (event :: trace) := by
  intro record older hsuffix hautomatic
  rcases List.suffix_cons_iff.mp hsuffix with heq | hsuffix
  · obtain ⟨hqueued, rfl⟩ := List.cons.inj heq
    exact hevent record hqueued.symm hautomatic
  · exact h record older hsuffix hautomatic

/-- Receipts up to this reading of the clock leave room for any duration. -/
def receiptMax : Nat := uint64Max - 65535 * centralNsec

/-- A mode request that the operator can make. -/
def ValidRequest (request : ModeCmdMsg) : Prop :=
  request.priority = cmdPrioOperator ∧
    (overrideEnd request.action request.newMode request.durationSec.toNat 0).isSome = true

/-- When the override of a valid request ends. -/
def endOf (request : ModeCmdMsg) (now : Nat) : Nat :=
  if request.action = cmdTemporary then now + request.durationSec.toNat * centralNsec else 0

theorem overrideEnd_valid {request : ModeCmdMsg} (h : ValidRequest request) {now : Nat}
    (hnow : request.action = cmdTemporary → now ≤ receiptMax) :
    overrideEnd request.action request.newMode request.durationSec.toNat now =
      some (endOf request now) := by
  obtain ⟨-, hsome⟩ := h
  have hduration : request.durationSec.toNat ≤ 65535 :=
    Nat.le_of_lt_succ request.durationSec.toNat_lt
  unfold overrideEnd at hsome ⊢
  unfold endOf
  by_cases htemporary : request.action = cmdTemporary
  · have hne : ¬ request.action = cmdSetMode := by
      rw [htemporary]
      decide
    have hroom := hnow htemporary
    have hfits : ¬ now > uint64Max - request.durationSec.toNat * centralNsec := by
      unfold receiptMax at hroom
      have hscaled := Nat.mul_le_mul_right centralNsec hduration
      omega
    simp only [htemporary, or_true, if_true, if_neg (show ¬ cmdTemporary = cmdSetMode by decide)]
      at hsome ⊢
    split at hsome
    · cases hsome
    · rename_i hmode
      rw [if_neg hmode]
      split at hsome
      · cases hsome
      · rename_i hrange
        rw [not_or, not_or] at hrange
        rw [if_neg (not_or.mpr ⟨hrange.1, not_or.mpr ⟨hrange.2.1, hfits⟩⟩)]
  · simp only [htemporary, or_false, if_false] at hsome ⊢
    split at hsome
    · rename_i hset
      rw [if_pos hset]
      split at hsome
      · cases hsome
      · rename_i hmode
        rw [if_neg hmode, if_pos hset]
        split at hsome
        · cases hsome
        · rename_i hzero
          rw [if_neg hzero]
    · rename_i hother
      rw [if_neg hother]
      split at hsome
      · cases hsome
      · rename_i hzero
        rw [if_neg hzero]

theorem noteOperator_valid {request : ModeCmdMsg} (h : ValidRequest request) {now : Nat}
    (hnow : request.action = cmdTemporary → now ≤ receiptMax) (policy : OperatorPolicy)
    (target : Option (Fin 6)) (i : Fin 6) :
    let noted := noteOperator policy target request.action request.newMode
      request.durationSec.toNat now
    noted.persistentActive i =
        (policy.persistentActive i || (covers target i && request.action == cmdSetMode)) ∧
      noted.temporaryUntilNs i =
        if covers target i then endOf request now else policy.temporaryUntilNs i := by
  dsimp only
  unfold noteOperator
  rw [overrideEnd_valid h hnow]
  refine ⟨?_, rfl⟩
  dsimp only
  by_cases hset : covers target i = true ∧ request.action = cmdSetMode
  · rw [if_pos hset]
    simp [hset]
  · rw [if_neg hset]
    rw [not_and] at hset
    cases hcovers : covers target i with
    | false => simp
    | true => simp [hset hcovers]

theorem noteOperator_persistent {policy : OperatorPolicy} {target : Option (Fin 6)}
    {action mode : UInt8} {duration now : Nat} (h : policy.persistentActive i = true) :
    (noteOperator policy target action mode duration now).persistentActive i = true := by
  unfold noteOperator
  split
  · exact h
  · dsimp only
    split
    · rfl
    · exact h

/-- Central's variables and records agree with what the operator has asked of a
target. -/
structure Tracked (i : Fin 6) (s : Central) : Prop where
  released : (intentOf i s.trace).latest = none → s.policyCommand i = 0
  command : ∀ asked, (intentOf i s.trace).latest = some asked →
    s.policyCommand i = asked.id ∧ asked.id ≠ 0 ∧ ValidRequest asked.request
  waiting : ∀ asked, (intentOf i s.trace).latest = some asked → asked.outcome = none →
    ∃ slot, (s.commands slot).id = asked.id ∧ (s.commands slot).busy = true ∧
      (s.commands slot).modeRequest = asked.request
  ended : ∀ asked, (intentOf i s.trace).latest = some asked → ∀ result time,
    asked.outcome = some (result, time) → (result = .accepted → time ≤ receiptMax) ∧
      ∀ slot, (s.commands slot).id = asked.id → (s.commands slot).busy = false ∧
        (s.commands slot).state = result ∧ (s.commands slot).finishedAt = time ∧
          (s.commands slot).modeRequest = asked.request
  acknowledged : ∀ asked, (intentOf i s.trace).latest = some asked →
    s.policyAck i = asked.id → ∃ time, asked.outcome = some (.accepted, time) ∧
      (asked.request.action = cmdTemporary →
        time + asked.request.durationSec.toNat * centralNsec ≤
          s.operatorPolicy.temporaryUntilNs i)

/-- The operator's variables are the same. -/
structure SamePolicy (s s' : Central) : Prop where
  command : s'.policyCommand = s.policyCommand
  ack : s'.policyAck = s.policyAck
  policy : s'.operatorPolicy = s.operatorPolicy

theorem SamePolicy.refl (s : Central) : SamePolicy s s := ⟨rfl, rfl, rfl⟩

theorem SamePolicy.trans {s'' : Central} (h : SamePolicy s s') (h' : SamePolicy s' s'') :
    SamePolicy s s'' :=
  ⟨h'.command.trans h.command, h'.ack.trans h.ack, h'.policy.trans h.policy⟩

theorem Tracked.congr (h : Tracked i s) (hcommands : s'.commands = s.commands)
    (htrace : s'.trace = s.trace) (hpolicy : SamePolicy s s') : Tracked i s' := by
  obtain ⟨hcommand, hack, hnotes⟩ := hpolicy
  constructor
  · rw [htrace, hcommand]
    exact h.released
  · rw [htrace, hcommand]
    exact h.command
  · rw [htrace, hcommands]
    exact h.waiting
  · rw [htrace, hcommands]
    exact h.ended
  · rw [htrace, hack, hnotes]
    exact h.acknowledged

/-- No two records have one id. -/
def Distinct (s : Central) : Prop := ∀ slot other, (s.commands slot).id ≠ 0 →
  (s.commands other).id = (s.commands slot).id → other = slot

/-- The record has just been finished in this way. -/
def FinishedWith (record : CommandRecord) (result : RequestState) (now : Nat) : Prop :=
  record.busy = false ∧ record.state = result ∧ record.finishedAt = now

def Ended (result : RequestState) (now : Nat) : Prop :=
  result ≠ .queued ∧ result ≠ .sending ∧ (result = .accepted → now ≤ receiptMax)

theorem busy_of_ended {record : CommandRecord} {result : RequestState} {now : Nat}
    (h : Ended result now) (hstate : record.state = result) : record.busy = false := by
  simp [CommandRecord.busy, hstate, h.1, h.2.1]

theorem Tracked.finish (h : Tracked i s) (hdistinct : Distinct s) {slot : Fin 64}
    {result : RequestState} {now : Nat} (hended : Ended result now)
    (hslot : (s.commands slot).busy = true ∨ FinishedWith (s.commands slot) result now) :
    Tracked i (finishCommand s slot result now) := by
  have hother : ∀ other, other ≠ slot →
      (finishCommand s slot result now).commands other = s.commands other :=
    fun other hne => Function.update_of_ne hne ..
  have hself : (finishCommand s slot result now).commands slot =
      { s.commands slot with state := result, finishedAt := now } :=
    Function.update_self ..
  -- the record of a request of the operator's is the one with its id
  have hlatest : ∀ asked, (intentOf i (finishCommand s slot result now).trace).latest =
      some asked → ∃ old, (intentOf i s.trace).latest = some old ∧
        asked = if old.id = (s.commands slot).id ∧ old.outcome = none then
          { old with outcome := some (result, now) } else old := by
    intro asked hasked
    obtain ⟨old, hold, heq⟩ := Option.map_eq_some_iff.mp hasked
    exact ⟨old, hold, heq.symm⟩
  constructor
  · intro hnone
    exact h.released (Option.map_eq_none_iff.mp hnone)
  · intro asked hasked
    obtain ⟨old, hold, rfl⟩ := hlatest asked hasked
    have hcommand := h.command old hold
    split
    · exact hcommand
    · exact hcommand
  · intro asked hasked hwaiting
    obtain ⟨old, hold, rfl⟩ := hlatest asked hasked
    split at hwaiting
    · cases hwaiting
    · rename_i hopen
      rw [if_neg hopen]
      obtain ⟨found, hid, hbusy, hrequest⟩ := h.waiting old hold hwaiting
      have hne : found ≠ slot := by
        rintro rfl
        exact hopen ⟨hid.symm, hwaiting⟩
      rw [← hother found hne] at hid hbusy hrequest
      exact ⟨found, hid, hbusy, hrequest⟩
  · intro asked hasked result' time houtcome
    obtain ⟨old, hold, rfl⟩ := hlatest asked hasked
    split at houtcome
    · rename_i hopen
      obtain ⟨rfl, rfl⟩ := Prod.mk.inj (Option.some.inj houtcome)
      rw [if_pos hopen]
      refine ⟨hended.2.2, ?_⟩
      intro found hid
      obtain ⟨found', hid', -, hrequest⟩ := h.waiting old hold hopen.2
      have hne := (h.command old hold).2.1
      obtain rfl : slot = found' :=
        hdistinct found' slot (hid' ▸ hne) (hopen.1.symm.trans hid'.symm)
      have hfound : found = slot := by
        by_contra hfound
        rw [hother found hfound] at hid
        exact hfound (hdistinct slot found (hid' ▸ hne) (hid.trans hopen.1))
      rw [hfound, hself]
      exact ⟨busy_of_ended hended rfl, rfl, rfl, hrequest⟩
    · rename_i hopen
      rw [if_neg hopen]
      obtain ⟨hreceipt, hrecord⟩ := h.ended old hold result' time houtcome
      refine ⟨hreceipt, ?_⟩
      intro found hid
      by_cases hfound : found = slot
      · subst hfound
        rw [hself] at hid ⊢
        obtain ⟨hidle, hstate, htime, hrequest⟩ := hrecord found hid
        rcases hslot with hbusy | ⟨-, hstate', htime'⟩
        · rw [hidle] at hbusy
          cases hbusy
        · exact ⟨busy_of_ended hended rfl, hstate'.symm.trans hstate, htime'.symm.trans htime,
            hrequest⟩
      · rw [hother found hfound] at hid ⊢
        exact hrecord found hid
  · intro asked hasked hack
    obtain ⟨old, hold, rfl⟩ := hlatest asked hasked
    have hold' : s.policyAck i = old.id := by
      rw [show (finishCommand s slot result now).policyAck i = s.policyAck i from rfl] at hack
      split at hack
      · exact hack
      · exact hack
    obtain ⟨time, houtcome, helapsed⟩ := h.acknowledged old hold hold'
    rw [if_neg (by rw [houtcome]; simp)]
    exact ⟨time, houtcome, helapsed⟩

/-- The state in which a record is being sent. -/
def sendRecord (s : Central) (slot : Fin 64) (peer : Fin 8) (now : Nat) : Central :=
  { s with
    commands := Function.update s.commands slot
      { s.commands slot with state := .sending, sentAt := now }
    trace := .handed (s.commands slot).id peer :: s.trace }

theorem Tracked.send (h : Tracked i s) {slot : Fin 64} {peer : Fin 8} {now : Nat}
    (hid : (s.commands slot).id ≠ 0) (hqueued : (s.commands slot).state = .queued) :
    Tracked i (sendRecord s slot peer now) := by
  have hother : ∀ other, other ≠ slot →
      (sendRecord s slot peer now).commands other = s.commands other :=
    fun other hne => Function.update_of_ne hne ..
  have hself : (sendRecord s slot peer now).commands slot =
      { s.commands slot with state := .sending, sentAt := now } :=
    Function.update_self ..
  have hbusy : (s.commands slot).busy = true := by
    simp [CommandRecord.busy, hid, hqueued]
  constructor
  · exact h.released
  · exact h.command
  · intro asked hasked hwaiting
    obtain ⟨found, hfound⟩ := h.waiting asked hasked hwaiting
    refine ⟨found, ?_⟩
    by_cases hslot : found = slot
    · subst hslot
      rw [hself]
      exact ⟨hfound.1, by simp [CommandRecord.busy, hid], hfound.2.2⟩
    · rw [hother found hslot]
      exact hfound
  · intro asked hasked result time houtcome
    obtain ⟨hreceipt, hrecord⟩ := h.ended asked hasked result time houtcome
    refine ⟨hreceipt, ?_⟩
    intro found hfound
    by_cases hslot : found = slot
    · subst hslot
      rw [hself] at hfound
      have hidle := (hrecord found hfound).1
      rw [hbusy] at hidle
      cases hidle
    · rw [hother found hslot] at hfound ⊢
      exact hrecord found hfound
  · exact h.acknowledged

/-! ### Requests that go on -/

/-- Records are sent and finished; nothing else happens to a target. -/
inductive Progress : Central → Central → Prop
  | same {s s' : Central} (hcommands : s'.commands = s.commands) (htrace : s'.trace = s.trace)
      (hpolicy : SamePolicy s s') : Progress s s'
  | finish {s : Central} {slot : Fin 64} {result : RequestState} {now : Nat}
      (hended : Ended result now)
      (hslot : (s.commands slot).busy = true ∨ FinishedWith (s.commands slot) result now) :
      Progress s (finishCommand s slot result now)
  | send {s : Central} {slot : Fin 64} {peer : Fin 8} {now : Nat}
      (hid : (s.commands slot).id ≠ 0) (hqueued : (s.commands slot).state = .queued) :
      Progress s (sendRecord s slot peer now)
  | trans {s s' s'' : Central} (hfirst : Progress s s') (hrest : Progress s' s'') :
      Progress s s''

theorem Progress.refl (s : Central) : Progress s s := .same rfl rfl (.refl s)

theorem Progress.samePolicy (h : Progress s s') : SamePolicy s s' := by
  induction h with
  | same _ _ hpolicy => exact hpolicy
  | finish => exact ⟨rfl, rfl, rfl⟩
  | send => exact ⟨rfl, rfl, rfl⟩
  | trans _ _ ih ih' => exact ih.trans ih'

theorem Progress.sameFiles (h : Progress s s') : SameFiles s s' := by
  induction h with
  | same hcommands => exact fun slot => by rw [hcommands]
  | @finish s slot result now =>
      exact sameFiles_finishAll result now s [slot]
  | @send s slot peer now =>
      exact (@changes_update s (sendRecord s slot peer now) slot _ rfl rfl).files
  | trans _ _ ih ih' => exact fun slot => (ih' slot).trans (ih slot)

theorem Progress.distinct (h : Progress s s') (hdistinct : Distinct s) : Distinct s' := by
  intro slot other hid heq
  rw [h.sameFiles.id] at hid
  rw [h.sameFiles.id, h.sameFiles.id] at heq
  exact hdistinct slot other hid heq

theorem Progress.tracked (h : Progress s s') (hdistinct : Distinct s) (htracked : Tracked i s) :
    Tracked i s' := by
  induction h with
  | same hcommands htrace hpolicy => exact htracked.congr hcommands htrace hpolicy
  | finish hended hslot => exact htracked.finish hdistinct hended hslot
  | send hid hqueued => exact htracked.send hid hqueued
  | trans hfirst _ ih ih' => exact ih' (hfirst.distinct hdistinct) (ih hdistinct htracked)

theorem Progress.persistent (h : Progress s s') :
    (intentOf i s'.trace).persistent = (intentOf i s.trace).persistent := by
  induction h with
  | same _ htrace => rw [htrace]
  | finish => rfl
  | send => rfl
  | trans _ _ ih ih' => exact ih'.trans ih

theorem Progress.yields (h : Progress s s') {now : Nat}
    (hyields : Yields (intentOf i s.trace) now) :
    Yields (intentOf i s'.trace) now := by
  induction h with
  | same _ htrace => rwa [htrace]
  | finish => exact hyields.finish ..
  | send => exact hyields
  | trans _ _ ih ih' => exact ih' (ih hyields)

theorem Progress.respected (h : Progress s s') (hrespected : Respected s.trace) :
    Respected s'.trace := by
  induction h with
  | same _ htrace => rwa [htrace]
  | finish => exact hrespected.cons nofun
  | send => exact hrespected.cons nofun
  | trans _ _ ih ih' => exact ih' (ih hrespected)

theorem progress_finishAll {result : RequestState} {now : Nat} {slots : List (Fin 64)}
    (hended : Ended result now) (hslots : ∀ slot ∈ slots, (s.commands slot).busy = true) :
    Progress s (finishAll result now s slots) := by
  induction slots using List.reverseRecOn with
  | nil => exact .refl s
  | append_singleton slots last ih =>
      rw [finishAll_append_singleton]
      refine (ih fun slot hmem => hslots slot (List.mem_append_left _ hmem)).trans ?_
      apply Progress.finish hended
      rw [finishAll_commands]
      split
      · exact Or.inr ⟨busy_of_ended hended rfl, rfl, rfl⟩
      · exact Or.inl (hslots last (by simp))

theorem busy_of_queued {record : CommandRecord} (hid : record.id ≠ 0)
    (hstate : record.state = .queued ∨ record.state = .sending) : record.busy = true := by
  simp [CommandRecord.busy, hid, hstate]

theorem ended_canceled (now : Nat) : Ended .canceled now := ⟨nofun, nofun, nofun⟩

theorem progress_cancelPeer (h : Books s) (target : Option (Fin 6)) (now : Nat) (peer : Fin 8) :
    Progress s (cancelPeer target now s peer) := by
  rw [cancelPeer_eq s target now peer (h.matched.bounded peer)]
  refine (progress_finishAll (ended_canceled now) ?_).trans (.same rfl rfl ⟨rfl, rfl, rfl⟩)
  intro slot hmem
  obtain ⟨work, hwork, hsupersedes⟩ := mem_superseded.mp hmem
  have hfind := findCommand_some (findCommand_of_supersedes hsupersedes)
  have hrecord := h.matched.record hwork hfind.2
  exact busy_of_queued (hfind.2 ▸ hfind.1) (Or.inl hrecord.2.2)

theorem progress_discardQueue (s : Central) (peer : Fin 8) (now : Nat) :
    Progress s (discardQueue s peer now) := by
  rw [discardQueue_eq]
  refine (progress_finishAll (ended_canceled now) ?_).trans (.same rfl rfl ⟨rfl, rfl, rfl⟩)
  intro slot hmem
  obtain ⟨hid, -, hstate⟩ := mem_discarded.mp hmem
  exact busy_of_queued hid (Or.inl hstate)

theorem progress_cancelAutomatic (h : Books s) (target : Option (Fin 6)) (now : Nat) :
    Books (cancelAutomatic routes s target now) ∧
      Progress s (cancelAutomatic routes s target now) := by
  refine List.foldlRecOn (motive := fun s' => Books s' ∧ Progress s s') (peers routes)
    (cancelPeer target now) ⟨h, .refl s⟩ ?_
  rintro s' ⟨hbooks, hprogress⟩ peer -
  exact ⟨(hbooks.cancelPeer target now peer).1,
    hprogress.trans (progress_cancelPeer hbooks target now peer)⟩

/-- What the condition on the clock asks of a step of the peer threads. -/
def InTime : QueueAction → Prop
  | .sent _ _ now => now ≤ receiptMax
  | _ => True

theorem progress_peers (h : Books s) {a : QueueAction} (hpeers : byPeers a = true)
    (htime : InTime a) : Progress s (queueStep routes s a) := by
  cases a with
  | enqueue | cancel | release | operator => cases hpeers
  | observe => exact .same rfl rfl ⟨rfl, rfl, rfl⟩
  | lost peer now =>
      have hlost : Progress s { s with
          endpointConnected := Function.update s.endpointConnected peer false
          endpointProbe := Function.update s.endpointProbe peer 0 } :=
        .same rfl rfl ⟨rfl, rfl, rfl⟩
      exact hlost.trans (progress_discardQueue _ peer now)
  | stop now =>
      have hstop : Progress s { s with running := false } := .same rfl rfl ⟨rfl, rfl, rfl⟩
      refine List.foldlRecOn (motive := fun s' => Progress s s') (peers routes)
        (fun s peer => discardQueue s peer now) hstop ?_
      exact fun s' hprogress peer _ => hprogress.trans (progress_discardQueue s' peer now)
  | sent peer result now =>
      show Progress s (sentStep s peer result now)
      cases hwork : s.inFlight peer with
      | none =>
          unfold sentStep
          rw [hwork]
          exact .refl s
      | some work =>
          obtain ⟨slot, hne, hslot, -, hsending⟩ := h.flying.recorded peer work hwork
          rw [sentStep_of_find hwork (h.matched.findCommand_eq hne hslot)]
          have hended : Ended (resultState result) now := by
            refine ⟨?_, ?_, fun _ => htime⟩ <;> cases result <;> decide
          have hbusy := busy_of_queued (hslot ▸ hne) (Or.inr hsending)
          exact (Progress.finish hended (Or.inl hbusy)).trans
            (.same rfl rfl ⟨rfl, rfl, rfl⟩)
  | take peer now later timestamp =>
      show Progress s (takeStep routes s peer now later timestamp)
      have hcases := @takeCommand_cases routes s peer now later timestamp
      unfold takeStep
      generalize takeCommand routes s peer now later timestamp = taken at hcases ⊢
      split
      · exact .refl s
      · rcases hcases with ⟨-, rfl⟩ | ⟨i, -, hposition, hadmission⟩
        · exact .refl s
        · have hwithout : Progress s (withoutEntry s peer i) := .same rfl rfl ⟨rfl, rfl, rfl⟩
          generalize (s.queue peer).get i = work at hadmission
          cases hadmission with
          | stale => exact hwithout
          | @dropped slot result hfind hstate hresult =>
              have hid := findCommand_some hfind
              have hended : Ended result later := by
                rcases hresult with rfl | rfl <;> exact ⟨nofun, nofun, nofun⟩
              exact hwithout.trans
                (.finish hended (Or.inl (busy_of_queued (hid.2 ▸ hid.1) (Or.inl hstate))))
          | @handed slot hfind hstate =>
              have hid := findCommand_some hfind
              have hsend := @Progress.send (withoutEntry s peer i) slot peer later
                (hid.2 ▸ hid.1) hstate
              refine hwithout.trans (hsend.trans (.same rfl ?_ ⟨rfl, rfl, rfl⟩))
              rw [sendRecord, hid.2]
              rfl

section Prototype

variable {prototype : TestMessage} {delay : Nat} {automatic : Bool} {now : Nat} {f : Fresh}
  {fresh : List Fresh}

/-- No target gets the id that is noted as acknowledged for it. -/
def FreshIds (routes : Routes) (prototype : TestMessage) (delay : Nat) (automatic : Bool)
    (now : Nat) : Central → List (Fin 6) → Prop
  | _, [] => True
  | s, i :: rest => nextIdLocked s ≠ some (s.policyAck i) ∧
      ∀ s', enqueueOne routes prototype delay automatic now s i = some s' →
        FreshIds routes prototype delay automatic now s' rest

theorem files_of_run {targets : List (Fin 6)}
    (hrun : targets.foldlM (enqueueOne routes prototype delay automatic now) s = some s') :
    ∃ fresh, fresh.map Fresh.target = targets ∧
      Files routes prototype delay automatic now s fresh s' ∧
        (FreshIds routes prototype delay automatic now s targets →
          ∀ f ∈ fresh, f.id ≠ s.policyAck f.target) := by
  induction targets generalizing s with
  | nil =>
      rw [List.foldlM_nil] at hrun
      obtain rfl := Option.some.inj hrun
      exact ⟨[], rfl, .done s, fun _ f hf => by cases hf⟩
  | cons i targets ih =>
      rw [List.foldlM_cons] at hrun
      obtain ⟨s₁, hone, hrest⟩ := Option.bind_eq_some_iff.mp hrun
      obtain ⟨fresh, htargets, hfiles, hids⟩ := ih hrest
      have hfiled := hone
      unfold enqueueOne at hfiled
      obtain ⟨id, hid, hfiled⟩ := Option.bind_eq_some_iff.mp hfiled
      obtain ⟨slot, hslot, hfiled⟩ := Option.bind_eq_some_iff.mp hfiled
      obtain rfl := Option.some.inj hfiled
      obtain ⟨hne, hfree⟩ := nextIdFrom_some hid
      refine ⟨⟨i, id, slot⟩ :: fresh, by rw [List.map_cons, htargets],
        .next hne hfree (freeSlotFrom_some hslot) hfiles, ?_⟩
      rintro ⟨hfirst, hfresh⟩
      rw [List.forall_mem_cons]
      refine ⟨?_, hids (hfresh _ hone)⟩
      exact fun heq => hfirst (hid.trans (congrArg some heq))

theorem enqueue_cases (s : Central) (prototype : TestMessage) (target : Option (Fin 6))
    (delay : Nat) (automatic : Bool) (now : Nat) :
    (enqueueRefusal routes s prototype target now ≠ none ∧
        queueStep routes s (.enqueue prototype target delay automatic now) = s) ∨
      (enqueueRefusal routes s prototype target now = none ∧
        ∃ fresh, fresh.map Fresh.target = expand prototype target ∧
          Files routes prototype delay automatic now s fresh
            (queueStep routes s (.enqueue prototype target delay automatic now)) ∧
          (FreshIds routes prototype delay automatic now s (expand prototype target) →
            ∀ f ∈ fresh, f.id ≠ s.policyAck f.target)) := by
  rcases @enqueueCommand_cases routes s prototype target delay automatic now with
    ⟨refusal, hrefusal, hresult⟩ | ⟨s', _, hadmitted, hresult, _, _⟩
  · refine Or.inl ⟨by rw [hrefusal]; exact nofun, ?_⟩
    rw [queueStep, hresult]
  · refine Or.inr ⟨hadmitted, ?_⟩
    rw [queueStep, hresult]
    apply files_of_run
    unfold enqueueCommand at hresult
    rw [hadmitted] at hresult
    obtain ⟨s'', hrun, heq⟩ := Option.map_eq_some_iff.mp hresult
    rw [hrun]
    exact congrArg (fun enqueued : Enqueued => some enqueued.central) heq

theorem operatorMode_freshRecord
    (hrequest : setsPolicy prototype automatic = true →
      ValidRequest (ModeCmdMsg.ofData prototype.data)) :
    operatorMode (freshRecord routes prototype automatic now f) =
      setsPolicy prototype automatic := by
  unfold operatorMode freshRecord newRecord setsPolicy
  by_cases hmode : prototype.header.type = msgModeCommand
  · cases automatic with
    | true => simp
    | false =>
        have hvalid := hrequest (by simp [setsPolicy, hmode])
        simp [hmode, hvalid.1]
  · have hpriority : ¬ zeroMode.priority = cmdPrioOperator := by decide
    simp [hmode, hpriority]

theorem modeRequest_freshRecord (hsets : setsPolicy prototype automatic = true) :
    (freshRecord routes prototype automatic now f).modeRequest =
      ModeCmdMsg.ofData prototype.data :=
  if_pos (of_decide_eq_true hsets).1

theorem Tracked.file (h : Tracked i s) {record : CommandRecord} {entry : QueuedCommand}
    {slot : Fin 64} (hfiled : Filed s s' record entry slot) (hack : s'.policyAck = s.policyAck)
    (hnotes : s'.operatorPolicy = s.operatorPolicy)
    (hpolicy : ((record.target = i ∧ operatorMode record = true) ∧
        s'.policyCommand i = record.id ∧ record.id ≠ s.policyAck i ∧
          ValidRequest record.modeRequest) ∨
      (¬ (record.target = i ∧ operatorMode record = true) ∧
        s'.policyCommand i = s.policyCommand i ∧ s.policyCommand i ≠ record.id)) :
    Tracked i s' := by
  have hobserved : intentOf i s'.trace = (intentOf i s.trace).observe i (.queued record) := by
    rw [hfiled.trace]
    rfl
  rw [observe_queued] at hobserved
  rcases hpolicy with ⟨hours, hcommand, hfresh, hvalid⟩ | ⟨hother, hcommand, hne⟩
  · rw [if_pos hours] at hobserved
    have hlatest : ∀ asked, (intentOf i s'.trace).latest = some asked →
        asked = ⟨record.id, record.modeRequest, none⟩ := by
      intro asked hasked
      rw [hobserved] at hasked
      exact (Option.some.inj hasked).symm
    constructor
    · intro hnone
      rw [hobserved] at hnone
      cases hnone
    · intro asked hasked
      obtain rfl := hlatest asked hasked
      exact ⟨hcommand, hfiled.ids.2.1, hvalid⟩
    · intro asked hasked _
      obtain rfl := hlatest asked hasked
      refine ⟨slot, ?_⟩
      rw [hfiled.filed]
      exact ⟨rfl, busy_of_queued hfiled.ids.2.1 (Or.inl hfiled.queued), rfl⟩
    · intro asked hasked result time houtcome
      obtain rfl := hlatest asked hasked
      cases houtcome
    · intro asked hasked hacknowledged
      obtain rfl := hlatest asked hasked
      rw [hack] at hacknowledged
      exact absurd hacknowledged.symm hfresh
  · rw [if_neg hother] at hobserved
    constructor
    · rw [hobserved, hcommand]
      exact h.released
    · rw [hobserved, hcommand]
      exact h.command
    · intro asked hasked hwaiting
      rw [hobserved] at hasked
      obtain ⟨found, hfound⟩ := h.waiting asked hasked hwaiting
      have hslot : found ≠ slot := by
        rintro rfl
        rw [hfiled.idle] at hfound
        cases hfound.2.1
      exact ⟨found, hfiled.others found hslot ▸ hfound⟩
    · intro asked hasked result time houtcome
      rw [hobserved] at hasked
      obtain ⟨hreceipt, hrecord⟩ := h.ended asked hasked result time houtcome
      refine ⟨hreceipt, ?_⟩
      intro found hfound
      have hslot : found ≠ slot := by
        rintro rfl
        rw [hfiled.filed] at hfound
        exact hne ((h.command asked hasked).1.trans hfound.symm)
      rw [hfiled.others found hslot] at hfound ⊢
      exact hrecord found hfound
    · rw [hobserved, hack, hnotes]
      exact h.acknowledged

theorem tracked_files (hfiles : Files routes prototype delay automatic now s fresh s')
    (hrequest : setsPolicy prototype automatic = true →
      ValidRequest (ModeCmdMsg.ofData prototype.data))
    (hids : setsPolicy prototype automatic = true → ∀ f ∈ fresh, f.id ≠ s.policyAck f.target)
    (h : ∀ i, Tracked i s) (i : Fin 6) : Tracked i s' := by
  induction hfiles with
  | done s => exact h i
  | @next s s' f fresh hid hfree hslot hrest ih =>
      have hfiled := @filed_fileFresh routes s prototype delay automatic now f hid hfree hslot
      apply ih
      · exact fun hsets g hg => hids hsets g (List.mem_cons_of_mem _ hg)
      · intro j
        apply (h j).file hfiled rfl rfl
        rw [operatorMode_freshRecord hrequest]
        by_cases hours : f.target = j ∧ setsPolicy prototype automatic = true
        · obtain ⟨rfl, hsets⟩ := hours
          refine Or.inl ⟨⟨rfl, hsets⟩, ?_, hids hsets f List.mem_cons_self, ?_⟩
          · rw [fileFresh_setsPolicy hsets, Function.update_self]
            rfl
          · rw [modeRequest_freshRecord hsets]
            exact hrequest hsets
        · refine Or.inr ⟨hours, ?_, (unreserved hid hfree).2 j⟩
          apply fileFresh_policyCommand
          rintro hsets rfl
          exact hours ⟨rfl, hsets⟩

theorem persistent_files (hfiles : Files routes prototype delay automatic now s fresh s')
    (hrequest : setsPolicy prototype automatic = true →
      ValidRequest (ModeCmdMsg.ofData prototype.data))
    (h : (intentOf i s'.trace).persistent = true) :
    (intentOf i s.trace).persistent = true ∨ (setsPolicy prototype automatic = true ∧
      (ModeCmdMsg.ofData prototype.data).action = cmdSetMode ∧ i ∈ fresh.map Fresh.target) := by
  induction hfiles with
  | done s => exact Or.inl h
  | @next s s' f fresh hid hfree hslot hrest ih =>
      rcases ih h with hbefore | ⟨hsets, haction, hmem⟩
      · change ((intentOf i s.trace).observe i
          (.queued (freshRecord routes prototype automatic now f))).persistent = true at hbefore
        rw [observe_queued] at hbefore
        split at hbefore
        · rename_i hours
          obtain ⟨htarget, hmode⟩ := hours
          rw [operatorMode_freshRecord hrequest] at hmode
          rw [Bool.or_eq_true, modeRequest_freshRecord hmode, beq_iff_eq] at hbefore
          exact hbefore.imp id fun haction =>
            ⟨hmode, haction, List.mem_cons.mpr (Or.inl htarget.symm)⟩
        · exact Or.inl hbefore
      · exact Or.inr ⟨hsets, haction, List.mem_cons_of_mem _ hmem⟩

theorem notes_files (hfiles : Files routes prototype delay automatic now s fresh s') :
    s'.policyAck = s.policyAck ∧ s'.operatorPolicy = s.operatorPolicy := by
  rw [hfiles.frame]
  exact ⟨rfl, rfl⟩

theorem respected_files (hfiles : Files routes prototype delay false now s fresh s')
    (h : Respected s.trace) : Respected s'.trace := by
  induction hfiles with
  | done s => exact h
  | next hid hfree hslot hrest ih =>
      apply ih
      apply h.cons
      rintro record heq hautomatic
      obtain rfl := QueueEvent.queued.inj heq
      cases hautomatic

end Prototype

/-- A request goes to a Local, and a mode request is valid. -/
def Wellformed (message : TestMessage) : Prop :=
  forTrain message = false ∧
    (message.header.type = msgModeCommand → ValidRequest (ModeCmdMsg.ofData message.data))

theorem ofData_modeMessage (mode action : UInt8) (duration : UInt16) :
    ModeCmdMsg.ofData (modeMessage mode action duration).data =
      ⟨0, mode, action, cmdPrioOperator, duration, 0⟩ :=
  ModeCmdMsg.ofData_overwrite (fun _ => 0) _

theorem wellformed_modeMessage {mode action : UInt8} {duration : UInt16}
    (h : (overrideEnd action mode duration.toNat 0).isSome = true) :
    Wellformed (modeMessage mode action duration) := by
  refine ⟨rfl, fun _ => ?_⟩
  rw [ofData_modeMessage]
  exact ⟨rfl, h⟩

theorem wellformed_other {message : TestMessage} (hdst : message.header.dst = controllerLocal)
    (htype : message.header.type ≠ msgModeCommand) : Wellformed message := by
  refine ⟨?_, fun hmode => absurd hmode htype⟩
  unfold forTrain
  rw [hdst]
  decide

theorem mode_of_parseMode {text : List UInt8} {mode : UInt8} (h : parseMode text = some mode) :
    mode = TrafficLightMode.fixed.toByte ∨ mode = TrafficLightMode.sensor.toByte := by
  unfold parseMode at h
  split at h
  · exact Or.inl (Option.some.inj h).symm
  · split at h
    · exact Or.inr (Option.some.inj h).symm
    · cases h

theorem wellformed_temporary {modeText secondsText : List UInt8} {seconds : Nat} {mode : UInt8}
    (hseconds : parseNumber secondsText 1 65535 = some seconds)
    (hmode : parseMode modeText = some mode) :
    Wellformed (modeMessage mode cmdTemporary (UInt16.ofNat seconds)) := by
  obtain ⟨-, -, -, hmin, hmax⟩ := parseNumber_some hseconds
  have hduration : (UInt16.ofNat seconds).toNat = seconds :=
    UInt16.toNat_ofNat_of_lt' (Nat.lt_succ_of_le hmax)
  apply wellformed_modeMessage
  have hscaled := Nat.mul_le_mul_right centralNsec hmax
  have hroom : 65535 * centralNsec ≤ uint64Max := by decide
  rw [hduration]
  unfold overrideEnd
  rw [if_pos (Or.inr rfl), if_neg, if_neg (by decide), if_neg]
  · rfl
  · omega
  · rintro ⟨hfixed, hsensor⟩
    exact (mode_of_parseMode hmode).elim hfixed hsensor

theorem wellformed_of_commandOf {words : List (List UInt8)} {message : TestMessage}
    {target : Option (Fin 6)} (h : commandOf words = some (message, target)) :
    Wellformed message := by
  have hparsed : ∀ {text : List UInt8} {message' : TestMessage}, Wellformed message' →
      (parseTarget text).map (fun target => (message', target)) = some (message, target) →
        Wellformed message := by
    intro text message' hwell hmap
    obtain ⟨_, _, heq⟩ := Option.map_eq_some_iff.mp hmap
    rwa [← show message' = message from congrArg Prod.fst heq]
  cases words with
  | nil => cases h
  | cons word arguments =>
      unfold commandOf at h
      dsimp only at h
      split at h
      · have hset : ∀ (fixed : Prop) [Decidable fixed], Wellformed (modeMessage
            (if fixed then TrafficLightMode.fixed.toByte else TrafficLightMode.sensor.toByte)
              cmdSetMode 0) := by
          intro fixed _
          split <;> exact wellformed_modeMessage (by decide)
        split at h
        · obtain ⟨rfl, -⟩ := Prod.mk.inj (Option.some.inj h)
          exact hset _
        · exact hparsed (hset _) h
        · cases h
      · split at h
        · split at h
          · obtain ⟨_, _, h⟩ := Option.bind_eq_some_iff.mp h
            obtain ⟨seconds, hseconds, h⟩ := Option.bind_eq_some_iff.mp h
            obtain ⟨mode, hmode, h⟩ := Option.bind_eq_some_iff.mp h
            obtain ⟨rfl, -⟩ := Prod.mk.inj (Option.some.inj h)
            exact wellformed_temporary hseconds hmode
          · cases h
        · split at h
          · split at h
            · exact hparsed (wellformed_modeMessage (by decide)) h
            · cases h
          · split at h
            · split at h
              · obtain ⟨_, _, h⟩ := Option.bind_eq_some_iff.mp h
                obtain ⟨_, _, h⟩ := Option.bind_eq_some_iff.mp h
                obtain ⟨_, _, h⟩ := Option.bind_eq_some_iff.mp h
                obtain ⟨rfl, -⟩ := Prod.mk.inj (Option.some.inj h)
                exact wellformed_other rfl (show msgCoordinationCommand ≠ msgModeCommand by decide)
              · cases h
            · split at h
              · split at h
                · obtain ⟨_, _, heq⟩ := Option.map_eq_some_iff.mp h
                  obtain ⟨rfl, -⟩ := Prod.mk.inj heq
                  exact wellformed_other rfl (show msgTest ≠ msgModeCommand by decide)
                · cases h
              · split at h
                · split at h
                  · obtain ⟨_, _, h⟩ := Option.bind_eq_some_iff.mp h
                    obtain ⟨_, _, h⟩ := Option.bind_eq_some_iff.mp h
                    obtain ⟨rfl, -⟩ := Prod.mk.inj (Option.some.inj h)
                    exact wellformed_other rfl (show msgTest ≠ msgModeCommand by decide)
                  · cases h
                · cases h

theorem wellformed_of_parse {line : List UInt8} {message : TestMessage}
    {target : Option (Fin 6)} (h : centralParseCommand line = some (message, target)) :
    Wellformed message := by
  unfold centralParseCommand at h
  dsimp only at h
  split at h
  · cases h
  · obtain ⟨words, -, hwords⟩ := Option.bind_eq_some_iff.mp h
    exact wellformed_of_commandOf hwords

/-! ### Sections of the operator's console -/

theorem observe_resumed (intent : Intent) (target : Option (Fin 6)) :
    intent.observe i (.resumed target) = if covers target i then ⟨false, none⟩ else intent :=
  rfl

theorem Tracked.note (h : Tracked i s) (hcommands : s'.commands = s.commands)
    (htrace : s'.trace = s.trace) (hcommand : s'.policyCommand = s.policyCommand)
    (hack : s'.policyAck i = s.policyAck i)
    (hnotes : s'.policyAck i = s'.policyCommand i → s'.policyCommand i ≠ 0 →
      s'.operatorPolicy.temporaryUntilNs i = s.operatorPolicy.temporaryUntilNs i) :
    Tracked i s' := by
  constructor
  · rw [htrace, hcommand]
    exact h.released
  · rw [htrace, hcommand]
    exact h.command
  · rw [htrace, hcommands]
    exact h.waiting
  · rw [htrace, hcommands]
    exact h.ended
  · intro asked hasked hacknowledged
    rw [htrace] at hasked
    obtain ⟨hid, hne, -⟩ := h.command asked hasked
    rw [hnotes (by rw [hcommand, hid, hacknowledged]) (by rw [hcommand, hid]; exact hne)]
    exact h.acknowledged asked hasked (hack ▸ hacknowledged)

theorem tracked_noteRequest (h : Tracked i s) {message : TestMessage} {target : Option (Fin 6)}
    {now : Nat} (hopen : covers target i = true → s.policyAck i ≠ s.policyCommand i) :
    Tracked i (noteRequest s message target now) := by
  unfold noteRequest
  split
  · refine h.note ?_ ?_ ?_ ?_ ?_
    · rfl
    · rfl
    · rfl
    · rfl
    intro hack _
    show (noteOperator _ _ _ _ _ _).temporaryUntilNs i = _
    unfold noteOperator
    split
    · rfl
    · dsimp only
      rw [if_neg (fun hcovers => hopen hcovers hack)]
  · exact h

theorem tracked_releaseSchedule (h : Tracked i s) (target : Option (Fin 6)) :
    Tracked i (releaseSchedule routes s target) := by
  have hobserved : intentOf i (releaseSchedule routes s target).trace =
      if covers target i then ⟨false, none⟩ else intentOf i s.trace :=
    observe_resumed ..
  have hcommand : (releaseSchedule routes s target).policyCommand i =
      if covers target i then 0 else s.policyCommand i := rfl
  have hack : (releaseSchedule routes s target).policyAck i =
      if covers target i then 0 else s.policyAck i := rfl
  have huntil : (releaseSchedule routes s target).operatorPolicy.temporaryUntilNs i =
      if covers target i then 0 else s.operatorPolicy.temporaryUntilNs i := rfl
  cases hcovers : covers target i with
  | true =>
      rw [hcovers, if_pos rfl] at hobserved hcommand
      constructor
      · exact fun _ => hcommand
      all_goals
        intro asked hasked
        rw [hobserved] at hasked
        cases hasked
  | false =>
      rw [hcovers, if_neg nofun] at hobserved hcommand hack huntil
      constructor
      · rw [hobserved, hcommand]
        exact h.released
      · rw [hobserved, hcommand]
        exact h.command
      · rw [hobserved]
        exact h.waiting
      · rw [hobserved]
        exact h.ended
      · rw [hobserved, hack, huntil]
        exact h.acknowledged

theorem Tracked.record (h : Tracked i s) (hdistinct : Distinct s) {record : CommandRecord}
    (hrecord : policyRecord s i = some record) :
    ∃ asked, (intentOf i s.trace).latest = some asked ∧ record.id = asked.id ∧
      record.modeRequest = asked.request ∧
        (record.state = .accepted → asked.outcome = some (.accepted, record.finishedAt)) := by
  obtain ⟨slot, hfind, rfl⟩ := Option.map_eq_some_iff.mp hrecord
  obtain ⟨hne, hid⟩ := findCommand_some hfind
  cases hlatest : (intentOf i s.trace).latest with
  | none => exact absurd (h.released hlatest) hne
  | some asked =>
      have hcommand := (h.command asked hlatest).1
      rw [hcommand] at hid
      refine ⟨asked, rfl, hid, ?_⟩
      cases houtcome : asked.outcome with
      | some ended =>
          obtain ⟨result, time⟩ := ended
          obtain ⟨-, hrecords⟩ := h.ended asked hlatest result time houtcome
          obtain ⟨-, hstate, htime, hrequest⟩ := hrecords slot hid
          refine ⟨hrequest, fun haccepted => ?_⟩
          rw [← hstate, ← htime, haccepted]
      | none =>
          obtain ⟨found, hfound, hbusy, hrequest⟩ := h.waiting asked hlatest houtcome
          obtain rfl : slot = found :=
            hdistinct found slot (by rw [hfound, ← hcommand]; exact hne) (hid.trans hfound.symm)
          refine ⟨hrequest, fun haccepted => ?_⟩
          simp [CommandRecord.busy, haccepted] at hbusy

theorem tracked_noteReceipt (h : ∀ i, Tracked i s) (hdistinct : Distinct s) (target i : Fin 6) :
    Tracked i (noteReceipt s target) := by
  unfold noteReceipt
  cases hrecord : policyRecord s target with
  | none => exact h i
  | some record =>
      dsimp only
      split
      · rename_i haccepted
        unfold acknowledge
        split
        · exact h i
        · obtain ⟨asked, hasked, hid, hrequest, houtcome⟩ := (h target).record hdistinct hrecord
          by_cases hi : i = target
          · subst hi
            obtain ⟨hcommand, hne, hvalid⟩ := (h i).command asked hasked
            obtain ⟨hreceipt, -⟩ := (h i).ended asked hasked _ _ (houtcome haccepted)
            constructor
            · exact (h i).released
            · exact (h i).command
            · exact (h i).waiting
            · exact (h i).ended
            · intro other hother _
              obtain rfl := Option.some.inj (hasked.symm.trans hother)
              refine ⟨record.finishedAt, houtcome haccepted, fun htemporary => ?_⟩
              rw [hrequest]
              show _ ≤ (noteOperator _ _ _ _ _ _).temporaryUntilNs i
              rw [(noteOperator_valid hvalid (fun _ => hreceipt rfl) s.operatorPolicy (some i) i).2,
                if_pos (by simp [covers]), endOf, if_pos htemporary]
          · refine (h i).note ?_ ?_ ?_ ?_ ?_
            · rfl
            · rfl
            · rfl
            · exact Function.update_of_ne hi ..
            · intro _ _
              show (noteOperator _ _ _ _ _ _).temporaryUntilNs i = _
              unfold noteOperator
              split
              · rfl
              · dsimp only
                rw [if_neg (by simpa [covers] using Ne.symm hi)]
      · exact h i

theorem noteReceipt_frame (s : Central) (i : Fin 6) :
    (noteReceipt s i).commands = s.commands ∧ (noteReceipt s i).trace = s.trace ∧
      (noteReceipt s i).policyCommand = s.policyCommand ∧
      (noteReceipt s i).queue = s.queue ∧ (noteReceipt s i).inFlight = s.inFlight := by
  unfold noteReceipt
  split
  · split
    · unfold acknowledge
      split
      · exact ⟨rfl, rfl, rfl, rfl, rfl⟩
      · exact ⟨rfl, rfl, rfl, rfl, rfl⟩
    · exact ⟨rfl, rfl, rfl, rfl, rfl⟩
  · exact ⟨rfl, rfl, rfl, rfl, rfl⟩

theorem persistent_noteReceipt {target i : Fin 6}
    (h : s.operatorPolicy.persistentActive i = true) :
    (noteReceipt s target).operatorPolicy.persistentActive i = true := by
  unfold noteReceipt
  split
  · split
    · unfold acknowledge
      split
      · exact h
      · exact noteOperator_persistent h
    · exact h
  · exact h

theorem yields_of_desiredMode (h : ∀ i, Tracked i s) (hdistinct : Distinct s)
    (hpersistent : (intentOf i s.trace).persistent = true →
      s.operatorPolicy.persistentActive i = true)
    {schedule : List ScheduleEntry} {now minute : Nat} {desired : UInt8}
    (hdesired : desiredMode routes schedule s i now minute = some desired) :
    Yields (intentOf i s.trace) now := by
  unfold desiredMode at hdesired
  split at hdesired
  · cases hdesired
  · rename_i hfree
    rw [Bool.or_eq_true, not_or, Bool.not_eq_true, Bool.not_eq_true] at hfree
    obtain ⟨hheld, hactive⟩ := hfree
    rw [operatorActive, Bool.or_eq_false_iff, decide_eq_false_iff_not, Nat.not_lt] at hactive
    refine ⟨?_, ?_⟩
    · by_contra hset
      rw [Bool.not_eq_false] at hset
      rw [persistent_noteReceipt (hpersistent hset)] at hactive
      cases hactive.1
    · intro asked hasked
      have htracked := tracked_noteReceipt h hdistinct i i
      obtain ⟨hcommands, htrace, hcommand, -⟩ := noteReceipt_frame s i
      obtain ⟨hid, hne, -⟩ := (h i).command asked hasked
      have hacknowledged : (noteReceipt s i).policyAck i = asked.id := by
        unfold policyHeld at hheld
        unfold noteReceipt
        cases hrecord : policyRecord s i with
        | none =>
            rw [hrecord] at hheld
            simpa [hid, hne] using hheld
        | some record =>
            rw [hrecord] at hheld
            have haccepted : record.state = .accepted := by simpa using hheld
            obtain ⟨other, hother, hrecord', -⟩ := (h i).record hdistinct hrecord
            obtain rfl := Option.some.inj (hasked.symm.trans hother)
            dsimp only
            rw [if_pos haccepted]
            unfold acknowledge
            split
            · rename_i hack
              exact hack.trans hrecord'
            · exact (Function.update_self ..).trans hrecord'
      rw [← htrace] at hasked
      obtain ⟨time, houtcome, helapsed⟩ := htracked.acknowledged asked hasked hacknowledged
      exact ⟨time, houtcome, fun htemporary => (helapsed htemporary).trans hactive.2⟩

/-! ### Runs -/

/-- A mode is not asked for earlier than the tick that chose it. -/
def Timely (s : System) : PolicyAction → Prop
  | .proceed now =>
      match s.holder with
      | .filing _ _ started _ _ => started ≤ now
      | _ => True
  | _ => True

/-- A mode request of the operator's gets no id that is noted as acknowledged for
its target, and no receipt falls in the last 65535 seconds of the clock. -/
def Regular (routes : Routes) (s : System) : PolicyAction → Prop
  | .peer a => InTime a
  | .proceed now =>
      match s.holder with
      | .enqueueing message target =>
          enqueueRefusal routes s.central message target now = none →
            message.header.type = msgModeCommand →
              FreshIds routes message 0 false now s.central (expand message target)
      | _ => True
  | _ => True

/-- What the holder of `operator_mutex` has in hand. -/
def InHand (s : System) : Prop :=
  match s.holder with
  | .enqueueing message _ => Wellformed message
  | .noting message target => message.header.type = msgModeCommand ∧
      ValidRequest (ModeCmdMsg.ofData message.data) ∧
        ∀ i, covers target i = true → s.central.policyAck i ≠ s.central.policyCommand i
  | .filing i _ started _ _ => Yields (intentOf i s.central.trace) started
  | _ => True

/-- A persistent request is noted, or is about to be. -/
def Noted (s : System) (i : Fin 6) : Prop :=
  (intentOf i s.central.trace).persistent = true →
    s.central.operatorPolicy.persistentActive i = true ∨
      ∃ message target, s.holder = .noting message target ∧ covers target i = true ∧
        (ModeCmdMsg.ofData message.data).action = cmdSetMode

structure Governed (s : System) : Prop where
  books : Books s.central
  tracked : ∀ i, Tracked i s.central
  noted : ∀ i, Noted s i
  inHand : InHand s
  respected : Respected s.central.trace

theorem governed_start (maxAgeSeconds : Nat) : Governed (systemStart maxAgeSeconds) := by
  refine ⟨books_start maxAgeSeconds, fun i => ⟨fun _ => rfl, ?_, ?_, ?_, ?_⟩,
    fun i hset => ?_, trivial, ?_⟩
  · intro asked hasked
    cases hasked
  · intro asked hasked
    cases hasked
  · intro asked hasked
    cases hasked
  · intro asked hasked
    cases hasked
  · cases hset
  · intro record older hsuffix
    cases List.suffix_nil.mp hsuffix

theorem Governed.settled {t : System} (h : Governed t)
    (hholder : ∀ message target, t.holder ≠ .noting message target) (i : Fin 6)
    (hset : (intentOf i t.central.trace).persistent = true) :
    t.central.operatorPolicy.persistentActive i = true := by
  rcases h.noted i hset with hactive | ⟨message, target, hnoting, -⟩
  · exact hactive
  · exact absurd hnoting (hholder message target)

theorem Governed.progress {t : System} (h : Governed t) (hprogress : Progress t.central s')
    (hbooks : Books s') : Governed { t with central := s' } := by
  have hpolicy := hprogress.samePolicy
  constructor
  · exact hbooks
  · exact fun i => hprogress.tracked h.books.matched.distinct (h.tracked i)
  · intro i hset
    show s'.operatorPolicy.persistentActive i = true ∨ _
    change (intentOf i s'.trace).persistent = true at hset
    rw [hprogress.persistent] at hset
    rw [hpolicy.policy]
    exact h.noted i hset
  · have hinHand := h.inHand
    obtain ⟨central, holder⟩ := t
    cases holder with
    | free | canceling | ticking => trivial
    | enqueueing message target => exact hinHand
    | noting message target =>
        refine ⟨hinHand.1, hinHand.2.1, fun i hcovers => ?_⟩
        show s'.policyAck i ≠ s'.policyCommand i
        rw [hpolicy.ack, hpolicy.command]
        exact hinHand.2.2 i hcovers
    | filing i desired started minute rest => exact hprogress.yields hinHand
  · exact hprogress.respected h.respected

theorem Governed.turn {t : System} (h : Governed t)
    (hholder : ∀ message target, t.holder ≠ .noting message target) {holder : Holder}
    (hinHand : InHand { t with holder }) : Governed { t with holder } :=
  ⟨h.books, h.tracked, fun i hset => Or.inl (h.settled hholder i hset), hinHand, h.respected⟩

theorem mem_expand {prototype : TestMessage} (hlocal : forTrain prototype = false)
    (target : Option (Fin 6)) (i : Fin 6) :
    i ∈ expand prototype target ↔ covers target i = true := by
  unfold expand covers
  rw [hlocal]
  cases target with
  | none => simp
  | some j => simp [eq_comm]

/-- What a request of the operator's leaves. -/
structure Requested (routes : Routes) (s s' : Central) (prototype : TestMessage)
    (target : Option (Fin 6)) (now : Nat) : Prop where
  books : Books s'
  tracked : ∀ i, Tracked i s'
  respected : Respected s'.trace
  policy : s'.operatorPolicy = s.operatorPolicy
  persistent : ∀ i, (intentOf i s'.trace).persistent = true →
    (intentOf i s.trace).persistent = true ∨
      (enqueueRefusal routes s prototype target now = none ∧
        setsPolicy prototype false = true ∧
          (ModeCmdMsg.ofData prototype.data).action = cmdSetMode ∧
            i ∈ expand prototype target)
  opened : enqueueRefusal routes s prototype target now = none →
    setsPolicy prototype false = true → ∀ i ∈ expand prototype target,
      s'.policyAck i ≠ s'.policyCommand i

theorem requested {t : System} (h : Governed t) {prototype : TestMessage}
    {target : Option (Fin 6)} {delay now : Nat}
    (hrequest : setsPolicy prototype false = true →
      ValidRequest (ModeCmdMsg.ofData prototype.data))
    (hids : enqueueRefusal routes t.central prototype target now = none →
      setsPolicy prototype false = true →
        FreshIds routes prototype delay false now t.central (expand prototype target)) :
    Requested routes t.central
      (queueStep routes t.central (.enqueue prototype target delay false now)) prototype target
      now := by
  have hbooks := (@books_queueStep routes _ h.books
    (.enqueue prototype target delay false now)).1
  rcases @enqueue_cases routes t.central prototype target delay false now with
    ⟨hrefused, hsame⟩ | ⟨hadmitted, fresh, htargets, hfiles, hfresh⟩
  · rw [hsame] at hbooks ⊢
    exact ⟨hbooks, h.tracked, h.respected, rfl, fun i hset => Or.inl hset,
      fun hadmitted => absurd hadmitted hrefused⟩
  · obtain ⟨hack, hnotes⟩ := notes_files hfiles
    generalize queueStep routes t.central (.enqueue prototype target delay false now) = s' at *
    have hnew : setsPolicy prototype false = true →
        ∀ f ∈ fresh, f.id ≠ t.central.policyAck f.target :=
      fun hsets => hfresh (hids hadmitted hsets)
    constructor
    · exact hbooks
    · exact tracked_files hfiles hrequest hnew h.tracked
    · exact respected_files hfiles h.respected
    · exact hnotes
    · intro i hset
      rcases persistent_files hfiles hrequest hset with hbefore | ⟨hsets, haction, hmem⟩
      · exact Or.inl hbefore
      · exact Or.inr ⟨hadmitted, hsets, haction, htargets ▸ hmem⟩
    · intro _ hsets i hi
      have hnodup : (fresh.map Fresh.target).Nodup := htargets ▸ nodup_expand prototype target
      rcases hfiles.policyCommand hnodup i with ⟨f, hf, rfl, -, hcommand⟩ | ⟨habsent, -⟩
      · rw [hack, hcommand]
        exact (hnew hsets f hf).symm
      · exact absurd (htargets ▸ hi) (habsent hsets)

theorem Governed.request {t : System} (h : Governed t)
    (hholder : ∀ message target, t.holder ≠ .noting message target) {message : TestMessage}
    (hwell : Wellformed message) {target : Option (Fin 6)} {now : Nat}
    (hids : enqueueRefusal routes t.central message target now = none →
      message.header.type = msgModeCommand →
        FreshIds routes message 0 false now t.central (expand message target)) :
    Governed
      { central := queueStep routes t.central (.enqueue message target 0 false now)
        holder :=
          if enqueueRefusal routes t.central message target now = none ∧
              message.header.type = msgModeCommand then .noting message target
          else .free } := by
  have hmode : setsPolicy message false = true → message.header.type = msgModeCommand :=
    fun hsets => (of_decide_eq_true hsets).1
  have hrequested := @requested routes t h message target 0 now (fun hsets => hwell.2 (hmode hsets))
    (fun hadmitted hsets => hids hadmitted (hmode hsets))
  refine ⟨hrequested.books, hrequested.tracked, ?_, ?_, hrequested.respected⟩
  · intro i hset
    rcases hrequested.persistent i hset with hbefore | ⟨hadmitted, hsets, haction, hmem⟩
    · refine Or.inl ?_
      show (queueStep routes t.central _).operatorPolicy.persistentActive i = true
      rw [hrequested.policy]
      exact h.settled hholder i hbefore
    · exact Or.inr ⟨message, target, if_pos ⟨hadmitted, hmode hsets⟩,
        (mem_expand hwell.1 target i).mp hmem, haction⟩
  · unfold InHand
    dsimp only
    by_cases hnoting : enqueueRefusal routes t.central message target now = none ∧
        message.header.type = msgModeCommand
    · rw [if_pos hnoting]
      refine ⟨hnoting.2, hwell.2 hnoting.2, fun i hcovers => ?_⟩
      apply hrequested.opened hnoting.1 (decide_eq_true ⟨hnoting.2, rfl⟩)
      exact (mem_expand hwell.1 target i).mpr hcovers
    · rw [if_neg hnoting]
      trivial

theorem Governed.note {t : System} (h : Governed t) {message : TestMessage}
    {target : Option (Fin 6)} (hholder : t.holder = .noting message target) (now : Nat) :
    Governed ⟨noteRequest t.central message target now, .free⟩ := by
  have hinHand := h.inHand
  unfold InHand at hinHand
  rw [hholder] at hinHand
  obtain ⟨hmode, hvalid, hopen⟩ := hinHand
  have hnote : noteRequest t.central message target now = { t.central with
      operatorPolicy := noteOperator t.central.operatorPolicy target
        (ModeCmdMsg.ofData message.data).action (ModeCmdMsg.ofData message.data).newMode
        (ModeCmdMsg.ofData message.data).durationSec.toNat now
      scheduledMode := fun i => if covers target i then none else t.central.scheduledMode i } :=
    if_pos hmode
  have htracked := fun i => @tracked_noteRequest _ i (h.tracked i) message target now (hopen i)
  rw [hnote] at htracked ⊢
  refine ⟨h.books.congr rfl rfl rfl (List.nil_append _).symm nofun, htracked, ?_, trivial,
    h.respected⟩
  intro i hset
  refine Or.inl ?_
  rcases h.noted i hset with hactive | ⟨message', target', hnoting, hcovers, haction⟩
  · exact noteOperator_persistent hactive
  · rw [hholder] at hnoting
    obtain ⟨rfl, rfl⟩ := Holder.noting.inj hnoting
    have htemporary :
        (ModeCmdMsg.ofData message.data).action = cmdTemporary → now ≤ receiptMax := by
      rw [haction]
      exact fun hne => absurd hne (by decide)
    show (noteOperator _ _ _ _ _ _).persistentActive i = true
    rw [(noteOperator_valid hvalid htemporary t.central.operatorPolicy target i).1]
    simp [hcovers, haction]

theorem Governed.release {t : System} (h : Governed t)
    (hholder : ∀ message target, t.holder ≠ .noting message target) (target : Option (Fin 6)) :
    Governed ⟨releaseSchedule routes t.central target, .canceling target⟩ := by
  have hbooks := (@books_queueStep routes _ h.books (.release target)).1
  refine ⟨hbooks.congr rfl rfl rfl (List.nil_append _).symm nofun,
    fun i => tracked_releaseSchedule (h.tracked i) target, ?_, trivial, h.respected.cons nofun⟩
  intro i hset
  refine Or.inl ?_
  change ((intentOf i t.central.trace).observe i (.resumed target)).persistent = true at hset
  rw [observe_resumed] at hset
  show (if covers target i = true then false
    else t.central.operatorPolicy.persistentActive i) = true
  split at hset
  · cases hset
  · rename_i hcovers
    rw [if_neg hcovers]
    exact h.settled hholder i hset

theorem Governed.consider {t : System} (h : Governed t)
    (hholder : ∀ message target, t.holder ≠ .noting message target)
    (schedule : List ScheduleEntry) (i : Fin 6) (started minute : Nat) (rest : List (Fin 6)) :
    Governed
      { central := noteReceipt t.central i
        holder :=
          match desiredMode routes schedule t.central i started minute with
          | some desired => .filing i desired started minute rest
          | none => .ticking started minute rest } := by
  obtain ⟨hcommands, htrace, -, hqueue, hflight⟩ := noteReceipt_frame t.central i
  have hdistinct := h.books.matched.distinct
  constructor
  · exact h.books.congr hqueue hcommands hflight (htrace.trans (List.nil_append _).symm) nofun
  · exact fun j => tracked_noteReceipt h.tracked hdistinct i j
  · intro j hset
    change (intentOf j (noteReceipt t.central i).trace).persistent = true at hset
    rw [htrace] at hset
    exact Or.inl (persistent_noteReceipt (h.settled hholder j hset))
  · unfold InHand
    dsimp only
    split
    · rename_i heq
      split at heq <;> cases heq
    · rename_i heq
      split at heq <;> cases heq
    · rename_i heq
      split at heq
      · rename_i desired hdesired
        obtain ⟨rfl, -, rfl, -, -⟩ := Holder.filing.inj heq
        rw [htrace]
        exact yields_of_desiredMode h.tracked hdistinct (h.settled hholder i) hdesired
      · cases heq
    · trivial
  · show Respected (noteReceipt t.central i).trace
    rw [htrace]
    exact h.respected

theorem Governed.file {t : System} (h : Governed t)
    (hholder : ∀ message target, t.holder ≠ .noting message target) {i : Fin 6}
    {desired : UInt8} {started now : Nat} (hyields : Yields (intentOf i t.central.trace) started)
    (htime : started ≤ now) {holder : Holder} (hinHand : ∀ s, InHand ⟨s, holder⟩) :
    Governed ⟨queueStep routes t.central
      (.enqueue (scheduleMessage i desired) (some i) 0 true now), holder⟩ := by
  have hbooks := (@books_queueStep routes _ h.books
    (.enqueue (scheduleMessage i desired) (some i) 0 true now)).1
  have hautomatic : setsPolicy (scheduleMessage i desired) true = false := by
    simp [setsPolicy]
  have hnever : ∀ {p : Prop}, setsPolicy (scheduleMessage i desired) true = true → p := by
    intro p hsets
    rw [hautomatic] at hsets
    cases hsets
  rcases @enqueue_cases routes t.central (scheduleMessage i desired) (some i) 0 true now with
    ⟨-, hsame⟩ | ⟨-, fresh, htargets, hfiles, -⟩
  · rw [hsame]
    exact ⟨h.books, h.tracked, fun j hset => Or.inl (h.settled hholder j hset),
      hinHand _, h.respected⟩
  · have htrace := hfiles.trace
    have hpolicy := (notes_files hfiles).2
    generalize queueStep routes t.central
      (.enqueue (scheduleMessage i desired) (some i) 0 true now) = s' at *
    have hone : expand (scheduleMessage i desired) (some i) = [i] := rfl
    rw [hone] at htargets
    obtain ⟨f, rfl, rfl⟩ := List.map_eq_singleton_iff.mp htargets
    refine ⟨hbooks, tracked_files hfiles hnever hnever h.tracked, ?_, hinHand _, ?_⟩
    · intro j hset
      rcases persistent_files hfiles hnever hset with hbefore | ⟨hsets, -⟩
      · refine Or.inl ?_
        show s'.operatorPolicy.persistentActive j = true
        rw [hpolicy]
        exact h.settled hholder j hbefore
      · exact hnever hsets
    · show Respected s'.trace
      rw [htrace]
      apply h.respected.cons
      rintro record heq -
      obtain rfl := QueueEvent.queued.inj heq
      exact hyields.mono htime

theorem governed_proceed {t : System} (h : Governed t) (schedule : List ScheduleEntry) {now : Nat}
    (htimely : Timely t (.proceed now)) (hregular : Regular routes t (.proceed now)) :
    Governed (proceed routes schedule t now) := by
  have hinHand := h.inHand
  obtain ⟨central, holder⟩ := t
  cases holder with
  | free => exact h
  | enqueueing message target => exact h.request nofun hinHand hregular
  | noting message target => exact h.note rfl now
  | canceling target =>
      obtain ⟨hbooks, hprogress⟩ := @progress_cancelAutomatic routes _ h.books target now
      exact (h.progress hprogress hbooks).turn nofun trivial
  | ticking started minute targets =>
      cases targets with
      | nil => exact h.turn nofun trivial
      | cons i rest => exact h.consider nofun schedule i started minute rest
  | filing i desired started minute rest =>
      have hfiled := @Governed.file routes _ h nofun i desired started now hinHand htimely
        (.ticking started minute rest) fun _ => trivial
      unfold proceed
      dsimp only
      split
      · exact hfiled.progress (.same rfl rfl ⟨rfl, rfl, rfl⟩)
          (hfiled.books.congr rfl rfl rfl (List.nil_append _).symm nofun)
      · exact hfiled

theorem governed_step {t : System} (h : Governed t) (schedule : List ScheduleEntry)
    {a : PolicyAction} (htimely : Timely t a) (hregular : Regular routes t a) :
    Governed (policyStep routes schedule t a) := by
  have hproceed := @governed_proceed routes t h schedule
  obtain ⟨central, holder⟩ := t
  cases a with
  | peer a =>
      unfold policyStep
      dsimp only
      split
      · rename_i hpeers
        exact h.progress (progress_peers h.books hpeers hregular) (books_queueStep h.books a).1
      · exact h
  | line text now =>
      unfold policyStep
      dsimp only
      split
      · rename_i message target hparse
        have hwell := wellformed_of_parse hparse
        split
        · obtain ⟨hbooks, hprogress⟩ := @progress_cancelAutomatic routes _ h.books target now
          exact (h.progress hprogress hbooks).turn nofun hwell
        · exact h.turn nofun hwell
      · exact h
  | other prototype target delay now =>
      cases holder with
      | free =>
          unfold policyStep
          dsimp only
          split
          · exact h
          · rename_i hmode
            have hnever : ∀ {p : Prop}, setsPolicy prototype false = true → p :=
              fun hsets => absurd (of_decide_eq_true hsets).1 hmode
            have hrequested := @requested routes _ h prototype target delay now hnever
              fun _ hsets => hnever hsets
            refine ⟨hrequested.books, hrequested.tracked, ?_, trivial, hrequested.respected⟩
            intro i hset
            rcases hrequested.persistent i hset with hbefore | ⟨-, hsets, -⟩
            · refine Or.inl ?_
              show (queueStep routes central _).operatorPolicy.persistentActive i = true
              rw [hrequested.policy]
              exact h.settled nofun i hbefore
            · exact hnever hsets
      | enqueueing | noting | canceling | ticking | filing => exact h
  | resume target =>
      cases holder with
      | free => exact h.release nofun target
      | enqueueing | noting | canceling | ticking | filing => exact h
  | tick now minute =>
      cases holder with
      | free => exact h.turn nofun trivial
      | enqueueing | noting | canceling | ticking | filing => exact h
  | proceed now => exact hproceed htimely hregular

section Exchange

variable {schedule : List ScheduleEntry}

/-- A mode request for the first intersection, sent and answered. -/
def modeExchange (line : List UInt8) (message : TestMessage) (result : SendResult) :
    List PolicyAction :=
  [.line line 0, .proceed 0, .peer (.take (peerFor defaultRoutes message 0) 0 0 blankTimestamp),
    .peer (.sent (peerFor defaultRoutes message 0) result 0), .proceed 0]

theorem cancelAutomatic_calm (h : Calm s) (target : Option (Fin 6)) (now : Nat) :
    cancelAutomatic defaultRoutes s target now = s := by
  apply cancelAutomatic_eq_self
  · intro peer
    rw [h.empty peer]
    exact Nat.zero_le _
  · intro peer _ work hwork
    have hnone := length_entries s peer
    rw [h.empty peer] at hnone
    rw [List.length_eq_zero_iff.mp hnone] at hwork
    cases hwork

theorem step_line (h : Calm s) {line : List UInt8} {message : TestMessage}
    (hparse : centralParseCommand line = some (message, some 0)) :
    policyStep defaultRoutes schedule ⟨s, .free⟩ (.line line 0) =
      ⟨s, .enqueueing message (some 0)⟩ := by
  unfold policyStep
  dsimp only
  rw [hparse]
  dsimp only
  rw [cancelAutomatic_calm h, ite_self]

theorem step_enqueue (h : Calm s) {message : TestMessage}
    (hmode : message.header.type = msgModeCommand) :
    policyStep defaultRoutes schedule ⟨s, .enqueueing message (some 0)⟩ (.proceed 0) =
      ⟨queueStep defaultRoutes s (.enqueue message (some 0) 0 false 0),
        .noting message (some 0)⟩ := by
  unfold policyStep proceed
  dsimp only
  rw [if_pos ⟨admitted_calm h message (some 0), hmode⟩]

theorem expand_one {message : TestMessage} (hlocal : forTrain message = false) (i : Fin 6) :
    expand message (some i) = [i] := by
  unfold expand
  rw [hlocal]
  rfl

theorem run_modeExchange (h : Calm s) {line : List UInt8} {message : TestMessage}
    (hparse : centralParseCommand line = some (message, some 0))
    (hmode : message.header.type = msgModeCommand) (hlocal : forTrain message = false)
    {id : UInt16} (hid : nextIdLocked s = some id) (result : SendResult) :
    ∃ s', Exchanged s s' message 0 result id ∧
      run (policyStep defaultRoutes schedule) ⟨s, .free⟩ (modeExchange line message result) =
        ⟨noteRequest s' message (some 0) 0, .free⟩ := by
  refine ⟨_, exchanged h (expand_one hlocal 0) hid result, ?_⟩
  unfold modeExchange
  rw [run_cons, step_line h hparse, run_cons, step_enqueue h hmode]
  rfl

theorem permitted_modeExchange (h : Calm s) {line : List UInt8} {message : TestMessage}
    (hparse : centralParseCommand line = some (message, some 0))
    (hmode : message.header.type = msgModeCommand) (hlocal : forTrain message = false)
    (hid : nextIdLocked s ≠ some (s.policyAck 0)) (result : SendResult) :
    Along (policyStep defaultRoutes schedule)
      (fun t a => Timely t a ∧ Regular defaultRoutes t a) ⟨s, .free⟩
      (modeExchange line message result) := by
  have hfresh : FreshIds defaultRoutes message 0 false 0 s (expand message (some 0)) := by
    rw [expand_one hlocal 0]
    exact ⟨hid, fun _ _ => trivial⟩
  unfold modeExchange
  rw [along_cons, step_line h hparse, along_cons, step_enqueue h hmode]
  exact ⟨⟨trivial, trivial⟩, ⟨trivial, fun _ _ => hfresh⟩, ⟨trivial, trivial⟩,
    ⟨trivial, Nat.zero_le _⟩, ⟨trivial, trivial⟩, trivial⟩

end Exchange

/-- The line `mode-temp I1 fixed 9` -/
def temporaryLine : List UInt8 :=
  Decimal.ascii ['m', 'o', 'd', 'e', '-', 't', 'e', 'm', 'p', ' ', 'I', '1', ' ', 'f', 'i', 'x',
    'e', 'd', ' ', '9']

def temporaryMessage : TestMessage := modeMessage 0 cmdTemporary 9

theorem temporaryLine_parsed :
    centralParseCommand temporaryLine = some (temporaryMessage, some 0) := by
  have hwords : commandWords 4 (temporaryLine.takeWhile (· ≠ 0)) =
      some [Decimal.ascii ['m', 'o', 'd', 'e', '-', 't', 'e', 'm', 'p'], Decimal.ascii ['I', '1'],
        Decimal.ascii ['f', 'i', 'x', 'e', 'd'], Decimal.ascii ['9']] := by
    decide
  have htarget : parseTarget (Decimal.ascii ['I', '1']) = some (some 0) := by decide
  have hmode : parseMode (Decimal.ascii ['f', 'i', 'x', 'e', 'd']) = some 0 := by decide
  have hseconds : parseNumber (Decimal.ascii ['9']) 1 65535 = some 9 := by decide
  unfold centralParseCommand
  dsimp only
  rw [if_neg (by decide), hwords, Option.bind_some]
  unfold commandOf
  dsimp only
  rw [if_neg (by decide), if_pos (by decide), htarget, hmode, hseconds]
  rfl

theorem permitted_consider (routes : Routes) (schedule : List ScheduleEntry) (s : Central)
    (i : Fin 6) (now : Nat) {started minute later : Nat} {rest : List (Fin 6)}
    (h : started ≤ later) :
    let t := proceed routes schedule ⟨s, .ticking started minute (i :: rest)⟩ now
    Timely t (.proceed later) ∧ Regular routes t (.proceed later) := by
  unfold proceed
  dsimp only
  split
  · exact ⟨h, trivial⟩
  · exact ⟨trivial, trivial⟩

/-- In every regular run the schedule yields to the operator. -/
theorem schedule_yields (routes : Routes) (schedule : List ScheduleEntry) (maxAgeSeconds : Nat)
    {actions : List PolicyAction}
    (h : Along (policyStep routes schedule) (fun s a => Timely s a ∧ Regular routes s a)
      (systemStart maxAgeSeconds) actions) :
    Throughout (policyStep routes schedule) (fun s => Respected s.central.trace)
      (systemStart maxAgeSeconds) actions :=
  h.throughout (J := Governed) (fun _ _ hs hstep => governed_step hs schedule hstep.1 hstep.2)
    (fun _ hs => hs.respected) (governed_start maxAgeSeconds)

/-- Sensor mode for the first intersection, from midnight on. -/
def sensorSchedule : List ScheduleEntry := [⟨0, 0, TrafficLightMode.sensor.toByte⟩]

/-- A temporary request is sent and accepted, and a tick notes its receipt. -/
theorem schedule_yields_tick :
    Throughout (policyStep defaultRoutes sensorSchedule) (fun s => Respected s.central.trace)
      (systemStart 5) (.peer allUp :: (modeExchange temporaryLine temporaryMessage .ok ++
        [.tick 0 0, .proceed 0, .proceed 0])) := by
  apply schedule_yields defaultRoutes sensorSchedule 5
  obtain ⟨s', -, hrun⟩ := @run_modeExchange _ sensorSchedule calm_start temporaryLine
    temporaryMessage temporaryLine_parsed rfl rfl _ (nextIdLocked_succ rfl) .ok
  have hpeer : policyStep defaultRoutes sensorSchedule (systemStart 5) (.peer allUp) =
      ⟨queueStep defaultRoutes (centralStart 5) allUp, .free⟩ := rfl
  -- after the exchange the mutex is free again, whatever Central holds by then
  rw [along_cons, hpeer, along_append, hrun]
  refine ⟨⟨trivial, trivial⟩, ?_, ⟨trivial, trivial⟩, ⟨trivial, trivial⟩,
    permitted_consider defaultRoutes sensorSchedule _ 0 0 (Nat.le_refl 0), trivial⟩
  exact permitted_modeExchange calm_start temporaryLine_parsed rfl rfl (by decide) .ok

/-! ### An id that is still noted as acknowledged -/

section Recycled

variable {schedule : List ScheduleEntry} {t : System}

/-- The console's version of a queue step. -/
def lifted : QueueAction → PolicyAction
  | .enqueue prototype target delay _ now => .other prototype target delay now
  | a => .peer a

def Liftable : QueueAction → Prop
  | .enqueue prototype _ _ automatic _ =>
      prototype.header.type ≠ msgModeCommand ∧ automatic = false
  | a => byPeers a = true

theorem policyStep_lifted {a : QueueAction} (h : Liftable a) :
    policyStep routes schedule ⟨s, .free⟩ (lifted a) = ⟨queueStep routes s a, .free⟩ := by
  cases a with
  | enqueue prototype target delay automatic now =>
      obtain ⟨htype, rfl⟩ := h
      exact if_neg htype
  | take | sent | lost | stop | observe => rfl
  | cancel | release | operator => cases h

theorem run_lifted {as : List QueueAction} (h : ∀ a ∈ as, Liftable a) :
    run (policyStep routes schedule) ⟨s, .free⟩ (as.map lifted) =
      ⟨run (queueStep routes) s as, .free⟩ := by
  induction as generalizing s with
  | nil => rfl
  | cons a as ih =>
      obtain ⟨ha, hrest⟩ := List.forall_mem_cons.mp h
      rw [List.map_cons, run_cons, policyStep_lifted ha, ih hrest, run_cons]

theorem liftable_trainExchanges (k : Nat) : ∀ a ∈ trainExchanges k, Liftable a := by
  intro a ha
  obtain ⟨actions, hactions, hmem⟩ := List.mem_flatten.mp ha
  obtain rfl := List.eq_of_mem_replicate hactions
  simp only [exchange, List.mem_cons, List.not_mem_nil, or_false] at hmem
  rcases hmem with rfl | rfl | rfl
  · exact ⟨by decide, rfl⟩
  · rfl
  · rfl

theorem run_idleTargets {targets : List (Fin 6)}
    (h : ∀ i ∈ targets, noteReceipt s i = s ∧ desiredMode routes schedule s i 0 0 = none) :
    run (policyStep routes schedule) ⟨s, .ticking 0 0 targets⟩
      (List.replicate (targets.length + 1) (.proceed 0)) = ⟨s, .free⟩ := by
  induction targets with
  | nil => rfl
  | cons i targets ih =>
      obtain ⟨⟨hnote, hnone⟩, hrest⟩ := List.forall_mem_cons.mp h
      have hstep : policyStep routes schedule ⟨s, .ticking 0 0 (i :: targets)⟩ (.proceed 0) =
          ⟨s, .ticking 0 0 targets⟩ := by
        unfold policyStep proceed
        dsimp only
        rw [hnote, hnone]
      rw [List.length_cons, List.replicate_succ, run_cons, hstep]
      exact ih hrest

theorem idle_target (hcommand : s.policyCommand i = 0) (hi : i ≠ 0) :
    noteReceipt s i = s ∧ desiredMode routes sensorSchedule s i 0 0 = none := by
  have hnone : policyRecord s i = none := by
    unfold policyRecord findCommand
    rw [hcommand]
    simp
  have hschedule : ∀ i : Fin 6, i ≠ 0 → centralScheduleMode sensorSchedule i 0 = none := by
    decide
  constructor
  · unfold noteReceipt
    rw [hnone]
  · unfold desiredMode
    rw [hschedule i hi]
    simp

theorem intent_trainEvents {newer older : List QueueEvent} {asked : Asked}
    (hnewer : ∀ event ∈ newer, TrainEvent event) (hasked : (intentOf i older).latest = some asked)
    (houtcome : asked.outcome ≠ none) : intentOf i (newer ++ older) = intentOf i older := by
  induction newer with
  | nil => rfl
  | cons event newer ih =>
      obtain ⟨hevent, hrest⟩ := List.forall_mem_cons.mp hnewer
      show (intentOf i (newer ++ older)).observe i event = _
      rw [ih hrest]
      cases event with
      | queued record =>
          rw [observe_queued, if_neg]
          rintro ⟨-, hmode⟩
          have hpriority := (of_decide_eq_true hmode).2
          rw [show record.modeRequest = zeroMode from hevent] at hpriority
          exact absurd hpriority (by decide)
      | handed id peer => rfl
      | finished id result time =>
          show (intentOf i older).finish id result time = _
          unfold Intent.finish
          rw [hasked, Option.map_some, if_neg (fun hopen => houtcome hopen.2), ← hasked]
      | resumed target => cases hevent

/-- The line `mode-revert I1` -/
def revertLine : List UInt8 :=
  Decimal.ascii ['m', 'o', 'd', 'e', '-', 'r', 'e', 'v', 'e', 'r', 't', ' ', 'I', '1']

def revertMessage : TestMessage := modeMessage 0 cmdRevert 0

theorem revertLine_parsed :
    centralParseCommand revertLine = some (revertMessage, some 0) := by
  have hwords : commandWords 4 (revertLine.takeWhile (· ≠ 0)) =
      some [Decimal.ascii ['m', 'o', 'd', 'e', '-', 'r', 'e', 'v', 'e', 'r', 't'],
        Decimal.ascii ['I', '1']] := by
    decide
  have htarget : parseTarget (Decimal.ascii ['I', '1']) = some (some 0) := by decide
  unfold centralParseCommand
  dsimp only
  rw [if_neg (by decide), hwords, Option.bind_some]
  unfold commandOf
  dsimp only
  rw [if_neg (by decide), if_neg (by decide), if_pos (by decide), htarget]
  rfl

/-- A temporary request is accepted, and a tick notes its receipt. -/
def acceptedRun : List PolicyAction :=
  .peer allUp :: (modeExchange temporaryLine temporaryMessage .ok ++
    .tick 0 0 :: .proceed 0 :: List.replicate 6 (.proceed 0))

/-- The counter of ids comes round, and a request that has the first one's id is
rejected and forgotten. -/
def recycledRun : List PolicyAction :=
  acceptedRun ++ (modeExchange revertLine revertMessage .rejected ++
    ((trainExchanges 65469).map lifted ++ ((trainExchanges 64).map lifted ++
      (modeExchange revertLine revertMessage .rejected ++ (trainExchanges 64).map lifted))))

/-- The next tick asks for the scheduled mode all the same. -/
def overrideRun : List PolicyAction :=
  recycledRun ++ [.tick 0 0, .proceed 0, .proceed 0]

/-- A calm state with one acknowledged id for the first intersection. -/
structure Parked (s : Central) (counter : Nat) (command : UInt16) : Prop where
  calm : Calm s
  nextId : s.nextId.toNat = counter
  command : s.policyCommand = Function.update (fun _ => 0) 0 command
  ack : s.policyAck 0 = 1
  persistent : s.operatorPolicy.persistentActive 0 = false
  scheduled : s.scheduledMode 0 = none

theorem calm_noteRequest (h : Calm s) (message : TestMessage) (target : Option (Fin 6))
    (now : Nat) : Calm (noteRequest s message target now) := by
  unfold noteRequest
  split
  · exact ⟨h.running, h.monitor, h.connected, h.probe, h.empty, h.idle, h.finished⟩
  · exact h

theorem Parked.trains {counter : Nat} {command : UInt16} (h : Parked s counter command) {k : Nat}
    (hrecords : ∀ slot, Clear s k (s.commands slot).id) (hcommand : Clear s k command)
    (hk : counter + k ≤ 65535) :
    Advanced s (run (queueStep defaultRoutes) s (trainExchanges k)) k ∧
      Parked (run (queueStep defaultRoutes) s (trainExchanges k)) (counter + k) command := by
  have hpolicy : ∀ i, Clear s k (s.policyCommand i) := by
    intro i
    rw [h.command]
    by_cases hi : i = 0
    · rw [hi, Function.update_self]
      exact hcommand
    · rw [Function.update_of_ne hi]
      exact Or.inl (Nat.zero_le _)
  have hadvanced := advanced h.calm hrecords hpolicy (by rw [h.nextId]; exact hk)
  refine ⟨hadvanced, hadvanced.calm, ?_, ?_, ?_, ?_, ?_⟩
  · rw [hadvanced.nextId, h.nextId]
  · rw [hadvanced.policyCommand, h.command]
  · rw [hadvanced.policyAck, h.ack]
  · rw [hadvanced.operatorPolicy, h.persistent]
  · rw [hadvanced.scheduledMode, h.scheduled]

theorem run_parkedTrains (s : Central) (k : Nat) :
    run (policyStep routes schedule) ⟨s, .free⟩ ((trainExchanges k).map lifted) =
      ⟨run (queueStep routes) s (trainExchanges k), .free⟩ :=
  run_lifted (liftable_trainExchanges k)

theorem valid_revert : ValidRequest (ModeCmdMsg.ofData revertMessage.data) := by
  rw [revertMessage, ofData_modeMessage]
  exact ⟨rfl, by decide⟩

/-- A rejected request of the first intersection's to revert. -/
structure Reverted (s s' : Central) (id : UInt16) : Prop where
  parked : Parked s' id.toNat id
  commands : ∃ slot record, record.id = id ∧
    s'.commands = Function.update s.commands slot record
  until_zero : s'.operatorPolicy.temporaryUntilNs 0 = 0
  asked : (intentOf 0 s'.trace).latest =
    some ⟨id, ModeCmdMsg.ofData revertMessage.data, some (.rejected, 0)⟩

theorem Parked.revert {counter : Nat} {command : UInt16} (h : Parked s counter command)
    (hfree : reserved s (bumpId s.nextId) = false) :
    ∃ s', Reverted s s' (bumpId s.nextId) ∧
      run (policyStep defaultRoutes schedule) ⟨s, .free⟩
        (modeExchange revertLine revertMessage .rejected) = ⟨s', .free⟩ := by
  have hmode : revertMessage.header.type = msgModeCommand := rfl
  obtain ⟨s', hexchanged, hrun⟩ := @run_modeExchange s schedule h.calm revertLine revertMessage
    revertLine_parsed hmode rfl _ (nextIdLocked_succ hfree) .rejected
  refine ⟨_, ?_, hrun⟩
  have hnote : noteRequest s' revertMessage (some 0) 0 = { s' with
      operatorPolicy := noteOperator s'.operatorPolicy (some 0)
        (ModeCmdMsg.ofData revertMessage.data).action
        (ModeCmdMsg.ofData revertMessage.data).newMode
        (ModeCmdMsg.ofData revertMessage.data).durationSec.toNat 0
      scheduledMode := fun i => if covers (some 0) i then none else s'.scheduledMode i } :=
    if_pos hmode
  have hnoted := @noteOperator_valid _ valid_revert 0
    (fun htemporary => absurd htemporary (by rw [revertMessage, ofData_modeMessage]; decide))
    s'.operatorPolicy (some 0) 0
  have hrevert : (ModeCmdMsg.ofData revertMessage.data).action = cmdRevert := by
    rw [revertMessage, ofData_modeMessage]
  constructor
  · constructor
    · exact calm_noteRequest hexchanged.calm ..
    · rw [hnote]
      exact congrArg UInt16.toNat hexchanged.nextId
    · rw [hnote]
      show s'.policyCommand = _
      rw [hexchanged.policyCommand, if_pos hmode, h.command, Function.update_idem]
    · rw [hnote]
      show s'.policyAck 0 = 1
      rw [hexchanged.policyAck, h.ack]
    · rw [hnote]
      refine hnoted.1.trans ?_
      rw [hexchanged.operatorPolicy, h.persistent, hrevert]
      decide
    · rw [hnote]
      rfl
  · refine ⟨s.commandNext, answered revertMessage 0 .rejected (bumpId s.nextId), rfl, ?_⟩
    rw [hnote]
    exact hexchanged.commands
  · rw [hnote]
    refine hnoted.2.trans ?_
    rw [endOf, hrevert, if_pos (by decide), if_neg (by decide)]
  · rw [hnote]
    show (intentOf 0 s'.trace).latest = _
    rw [hexchanged.trace]
    show ((((intentOf 0 s.trace).observe 0 (.queued
      (newRecord defaultRoutes revertMessage 0 false 0 (bumpId s.nextId)))).observe 0
        (.handed _ _)).finish (bumpId s.nextId) .rejected 0).latest = _
    have hours : operatorMode
        (newRecord defaultRoutes revertMessage 0 false 0 (bumpId s.nextId)) = true := by
      apply decide_eq_true
      refine ⟨rfl, ?_⟩
      show (if revertMessage.header.type = msgModeCommand then
        ModeCmdMsg.ofData revertMessage.data else zeroMode).priority = _
      rw [if_pos hmode, revertMessage, ofData_modeMessage]
    rw [observe_queued, if_pos ⟨rfl, hours⟩]
    unfold Intent.observe Intent.finish
    dsimp only
    rw [Option.map_some, if_pos ⟨rfl, rfl⟩]
    show some (Asked.mk (bumpId s.nextId) (if revertMessage.header.type = msgModeCommand then
        ModeCmdMsg.ofData revertMessage.data else zeroMode) _) = _
    rw [if_pos hmode]

theorem valid_temporary : ValidRequest (ModeCmdMsg.ofData temporaryMessage.data) := by
  rw [temporaryMessage, ofData_modeMessage]
  exact ⟨rfl, by decide⟩

/-- A temporary request for the first intersection has been accepted. -/
structure Accepted (s : Central) (record : CommandRecord) : Prop where
  calm : Calm s
  nextId : s.nextId.toNat = 1
  ids : ∀ slot, (s.commands slot).id.toNat ≤ 1
  command : s.policyCommand = Function.update (fun _ => 0) 0 1
  ack : s.policyAck 0 = 0
  persistent : s.operatorPolicy.persistentActive 0 = false
  scheduled : s.scheduledMode 0 = none
  found : policyRecord s 0 = some record
  record : record.id = 1 ∧ record.state = .accepted ∧
    record.modeRequest = ModeCmdMsg.ofData temporaryMessage.data ∧
      record.finishedAt ≤ receiptMax

theorem noted_temporary (policy : OperatorPolicy) (now : Nat) (hnow : now ≤ receiptMax) :
    let noted := noteOperator policy (some 0) (ModeCmdMsg.ofData temporaryMessage.data).action
      (ModeCmdMsg.ofData temporaryMessage.data).newMode
      (ModeCmdMsg.ofData temporaryMessage.data).durationSec.toNat now
    noted.persistentActive 0 = policy.persistentActive 0 ∧
      0 < noted.temporaryUntilNs 0 := by
  obtain ⟨hpersistent, huntil⟩ := @noteOperator_valid _ valid_temporary now (fun _ => hnow)
    policy (some 0) 0
  dsimp only at hpersistent huntil ⊢
  rw [hpersistent, huntil, temporaryMessage, ofData_modeMessage]
  constructor
  · simp [show ¬ cmdTemporary = cmdSetMode by decide]
  · rw [if_pos (by decide)]
    show 0 < now + 9 * centralNsec
    have hscale : 0 < centralNsec := by decide
    omega

/-- A calm state that has filed no request. -/
structure Fresh (s : Central) : Prop where
  calm : Calm s
  nextId : s.nextId = 0
  next : s.commandNext = 0
  ids : ∀ slot, (s.commands slot).id = 0
  command : s.policyCommand = fun _ => 0
  ack : s.policyAck 0 = 0
  persistent : s.operatorPolicy.persistentActive 0 = false

theorem fresh_start : Fresh (queueStep defaultRoutes (centralStart 5) allUp) :=
  ⟨calm_start, rfl, rfl, fun _ => rfl, rfl, rfl, rfl⟩

theorem Fresh.accepted (h : Fresh s) :
    ∃ s' record, Accepted s' record ∧
      run (policyStep defaultRoutes schedule) ⟨s, .free⟩
        (modeExchange temporaryLine temporaryMessage .ok) = ⟨s', .free⟩ := by
  have hbump : bumpId s.nextId = 1 := by
    rw [h.nextId]
    decide
  have hfree : reserved s (bumpId s.nextId) = false := by
    rw [hbump]
    apply unreserved_of_above
    · intro slot
      rw [h.ids slot]
      decide
    · rw [h.command]
      decide
  have hfirst : nextIdLocked s = some 1 := hbump ▸ nextIdLocked_succ hfree
  have hmode : temporaryMessage.header.type = msgModeCommand := rfl
  obtain ⟨s', hexchanged, hrun⟩ := @run_modeExchange s schedule h.calm temporaryLine
    temporaryMessage temporaryLine_parsed hmode rfl _ hfirst .ok
  refine ⟨_, answered temporaryMessage 0 .ok 1, ?_, hrun⟩
  have hnoted : noteRequest s' temporaryMessage (some 0) 0 = { s' with
      operatorPolicy := noteOperator s'.operatorPolicy (some 0)
        (ModeCmdMsg.ofData temporaryMessage.data).action
        (ModeCmdMsg.ofData temporaryMessage.data).newMode
        (ModeCmdMsg.ofData temporaryMessage.data).durationSec.toNat 0
      scheduledMode := fun i => if covers (some 0) i then none else s'.scheduledMode i } :=
    if_pos hmode
  have hcalm : Calm (noteRequest s' temporaryMessage (some 0) 0) :=
    calm_noteRequest hexchanged.calm ..
  rw [hnoted] at hcalm ⊢
  have hother : ∀ slot, slot ≠ 0 → (s'.commands slot).id = 0 := by
    intro slot hslot
    rw [hexchanged.commands, h.next, Function.update_of_ne hslot]
    exact h.ids slot
  have hrecord : s'.commands 0 = answered temporaryMessage 0 .ok 1 := by
    rw [hexchanged.commands, h.next, Function.update_self]
  have hcommand : s'.policyCommand = Function.update (fun _ => 0) 0 1 := by
    rw [hexchanged.policyCommand, if_pos hmode, h.command]
  constructor
  · exact hcalm
  · exact congrArg UInt16.toNat hexchanged.nextId
  · intro slot
    show (s'.commands slot).id.toNat ≤ 1
    by_cases hslot : slot = 0
    · rw [hslot, hrecord]
      exact Nat.le_refl 1
    · rw [hother slot hslot]
      exact Nat.zero_le 1
  · exact hcommand
  · show s'.policyAck 0 = 0
    rw [hexchanged.policyAck, h.ack]
  · refine (noted_temporary s'.operatorPolicy 0 (Nat.zero_le _)).1.trans ?_
    rw [hexchanged.operatorPolicy, h.persistent]
  · rfl
  · have hfind : findCommand s' 1 = some 0 := by
      apply findCommand_of_unique (by decide)
      · rw [hrecord]
        rfl
      · intro other hne
        rw [hother other hne]
        decide
    show ((findCommand s' (s'.policyCommand 0)).map s'.commands) = _
    rw [hcommand, Function.update_self, hfind, Option.map_some, hrecord]
  · exact ⟨rfl, rfl, rfl, Nat.zero_le _⟩

theorem accepted_first :
    ∃ s record, Accepted s record ∧
      run (policyStep defaultRoutes sensorSchedule) (systemStart 5)
        (.peer allUp :: modeExchange temporaryLine temporaryMessage .ok) = ⟨s, .free⟩ := by
  obtain ⟨s, record, haccepted, hrun⟩ := @Fresh.accepted _ sensorSchedule fresh_start
  refine ⟨s, record, haccepted, ?_⟩
  have hpeer : policyStep defaultRoutes sensorSchedule (systemStart 5) (.peer allUp) =
      ⟨queueStep defaultRoutes (centralStart 5) allUp, .free⟩ := rfl
  rw [run_cons, hpeer, hrun]

theorem Accepted.receipt {record : CommandRecord} (h : Accepted s record) :
    noteReceipt s 0 = { s with
      operatorPolicy := noteOperator s.operatorPolicy (some 0)
        (ModeCmdMsg.ofData temporaryMessage.data).action
        (ModeCmdMsg.ofData temporaryMessage.data).newMode
        (ModeCmdMsg.ofData temporaryMessage.data).durationSec.toNat record.finishedAt
      policyAck := Function.update s.policyAck 0 1 } := by
  obtain ⟨hid, hstate, hrequest, -⟩ := h.record
  unfold noteReceipt
  rw [h.found]
  dsimp only
  rw [if_pos hstate]
  unfold acknowledge
  rw [h.ack, hid, if_neg (by decide), hrequest]

theorem start_tick : policyStep routes schedule ⟨s, .free⟩ (.tick 0 0) =
    ⟨s, .ticking 0 0 [0, 1, 2, 3, 4, 5]⟩ := by
  have htargets : List.finRange 6 = [0, 1, 2, 3, 4, 5] := by decide
  rw [← htargets]
  rfl

theorem Accepted.tick {record : CommandRecord} (h : Accepted s record) :
    run (policyStep defaultRoutes sensorSchedule) ⟨s, .free⟩
        (.tick 0 0 :: .proceed 0 :: List.replicate 6 (.proceed 0)) =
      ⟨noteReceipt s 0, .free⟩ := by
  have hidle : desiredMode defaultRoutes sensorSchedule s 0 0 0 = none := by
    have hactive : operatorActive (noteReceipt s 0).operatorPolicy 0 0 = true := by
      rw [h.receipt, operatorActive, Bool.or_eq_true]
      exact Or.inr (decide_eq_true (noted_temporary s.operatorPolicy _ h.record.2.2.2).2)
    unfold desiredMode
    rw [hactive, Bool.or_true, if_pos rfl]
  have hrest : ∀ i ∈ [1, 2, 3, 4, 5], noteReceipt (noteReceipt s 0) i = noteReceipt s 0 ∧
      desiredMode defaultRoutes sensorSchedule (noteReceipt s 0) i 0 0 = none := by
    intro i hi
    have hne : i ≠ 0 := by
      rintro rfl
      exact absurd hi (by decide)
    apply idle_target _ hne
    rw [(noteReceipt_frame s 0).2.2.1, h.command, Function.update_of_ne hne]
  have hstep : policyStep defaultRoutes sensorSchedule
      ⟨s, .ticking 0 0 [0, 1, 2, 3, 4, 5]⟩ (.proceed 0) =
        ⟨noteReceipt s 0, .ticking 0 0 [1, 2, 3, 4, 5]⟩ := by
    unfold policyStep proceed
    dsimp only
    rw [hidle]
  rw [run_cons, start_tick, run_cons, hstep]
  exact run_idleTargets hrest

theorem Accepted.parked {record : CommandRecord} (h : Accepted s record) :
    Parked (noteReceipt s 0) 1 1 := by
  have hcalm := h.calm
  rw [h.receipt]
  constructor
  · exact ⟨hcalm.running, hcalm.monitor, hcalm.connected, hcalm.probe, hcalm.empty, hcalm.idle,
      hcalm.finished⟩
  · exact h.nextId
  · exact h.command
  · show Function.update s.policyAck 0 1 0 = 1
    exact Function.update_self ..
  · exact (noted_temporary s.operatorPolicy _ h.record.2.2.2).1.trans h.persistent
  · exact h.scheduled

/-- The id one is noted as acknowledged and stands for a rejected request that is
no longer on file. -/
theorem recycled_state :
    ∃ s, run (policyStep defaultRoutes sensorSchedule) (systemStart 5) recycledRun = ⟨s, .free⟩ ∧
      Parked s 65 1 ∧ (∀ slot, (s.commands slot).id ≠ 1) ∧
      s.operatorPolicy.temporaryUntilNs 0 = 0 ∧
      (intentOf 0 s.trace).latest =
        some ⟨1, ModeCmdMsg.ofData revertMessage.data, some (.rejected, 0)⟩ := by
  obtain ⟨s₀, record, haccepted, hrun₀⟩ := accepted_first
  have hrun₁ : run (policyStep defaultRoutes sensorSchedule) (systemStart 5) acceptedRun =
      ⟨noteReceipt s₀ 0, .free⟩ := by
    rw [acceptedRun, ← List.cons_append, run_append, hrun₀, haccepted.tick]
  have hparked₁ := haccepted.parked
  have hids₁ : ∀ slot, ((noteReceipt s₀ 0).commands slot).id.toNat ≤ 1 := by
    rw [(noteReceipt_frame s₀ 0).1]
    exact haccepted.ids
  generalize noteReceipt s₀ 0 = s₁ at hrun₁ hparked₁ hids₁
  have hbump₁ : bumpId s₁.nextId = 2 := by
    apply UInt16.toNat_inj.mp
    rw [toNat_bumpId, hparked₁.nextId]
    rfl
  have hfree₁ : reserved s₁ (bumpId s₁.nextId) = false := by
    rw [hbump₁]
    apply unreserved_of_above
    · exact fun slot => ne_of_toNat_lt (Nat.lt_of_le_of_lt (hids₁ slot) (by decide))
    · rw [hparked₁.command]
      decide
  obtain ⟨s₂, hreverted₂, hrun₂⟩ := @Parked.revert _ sensorSchedule _ _ hparked₁ hfree₁
  rw [hbump₁] at hreverted₂
  have hids₂ : ∀ slot, (s₂.commands slot).id.toNat ≤ 2 := by
    obtain ⟨changed, record, hrecord, hcommands⟩ := hreverted₂.commands
    intro slot
    rw [hcommands]
    by_cases hslot : slot = changed
    · rw [hslot, Function.update_self, hrecord]
      decide
    · rw [Function.update_of_ne hslot]
      exact (hids₁ slot).trans (by decide)
  have hnext₂ : s₂.nextId.toNat = 2 := hreverted₂.parked.nextId
  obtain ⟨hadvanced₃, hparked₃⟩ := @Parked.trains _ _ _ hreverted₂.parked 65469
    (fun slot => Or.inl (hnext₂ ▸ hids₂ slot)) (Or.inl hnext₂.ge) (by decide)
  have hrun₃ := @run_parkedTrains defaultRoutes sensorSchedule s₂ 65469
  generalize run (queueStep defaultRoutes) s₂ (trainExchanges 65469) = s₃ at *
  have hnext₃ : s₃.nextId.toNat = 65471 := hparked₃.nextId
  obtain ⟨hadvanced₄, hparked₄⟩ := @Parked.trains _ _ _ hparked₃ 64
    (fun slot => Or.inl (by
      rcases hadvanced₃.kept slot with hold | hnew
      · rw [hold]
        have hsmall := hids₂ slot
        omega
      · omega)) (Or.inl (by rw [hnext₃]; decide)) (by decide)
  have hrun₄ := @run_parkedTrains defaultRoutes sensorSchedule s₃ 64
  generalize run (queueStep defaultRoutes) s₃ (trainExchanges 64) = s₄ at *
  have hids₄ : ∀ slot, 65471 < (s₄.commands slot).id.toNat := by
    intro slot
    have hnewer := newer_of_replaced hadvanced₄.replaced (Nat.le_refl 64) slot
    omega
  have hbump₄ : bumpId s₄.nextId = 1 := by
    apply UInt16.toNat_inj.mp
    rw [toNat_bumpId, hparked₄.nextId]
    rfl
  have hfree₄ : reserved s₄ (bumpId s₄.nextId) = false := by
    rw [hbump₄]
    apply unreserved_of_above
    · exact fun slot => (@ne_of_toNat_lt 1 _ (Nat.lt_trans (by decide) (hids₄ slot))).symm
    · rw [hparked₄.command]
      decide
  obtain ⟨s₅, hreverted₅, hrun₅⟩ := @Parked.revert _ sensorSchedule _ _ hparked₄ hfree₄
  rw [hbump₄] at hreverted₅
  have hnext₅ : s₅.nextId.toNat = 1 := hreverted₅.parked.nextId
  have hclear₅ : ∀ slot, Clear s₅ 64 (s₅.commands slot).id := by
    obtain ⟨changed, record, hrecord, hcommands⟩ := hreverted₅.commands
    intro slot
    unfold Clear
    rw [hcommands, hnext₅]
    by_cases hslot : slot = changed
    · rw [hslot, Function.update_self, hrecord]
      exact Or.inl (Nat.le_refl 1)
    · rw [Function.update_of_ne hslot]
      exact Or.inr (Nat.lt_trans (by decide) (hids₄ slot))
  obtain ⟨hadvanced₆, hparked₆⟩ := @Parked.trains _ _ _ hreverted₅.parked 64 hclear₅
    (Or.inl hnext₅.ge) (by decide)
  have hrun₆ := @run_parkedTrains defaultRoutes sensorSchedule s₅ 64
  generalize run (queueStep defaultRoutes) s₅ (trainExchanges 64) = s₆ at *
  refine ⟨s₆, ?_, hparked₆, ?_, ?_, ?_⟩
  · rw [recycledRun, run_append, hrun₁, run_append, hrun₂, run_append, hrun₃, run_append, hrun₄,
      run_append, hrun₅, hrun₆]
  · intro slot
    have hnewer := newer_of_replaced hadvanced₆.replaced (Nat.le_refl 64) slot
    rw [hnext₅] at hnewer
    exact (@ne_of_toNat_lt 1 _ hnewer).symm
  · rw [hadvanced₆.operatorPolicy, hreverted₅.until_zero]
  · obtain ⟨newer, htrace, hnewer⟩ := hadvanced₆.trace
    rw [htrace, intent_trainEvents hnewer hreverted₅.asked nofun, hreverted₅.asked]

/-- Every tick is at time zero. -/
def AtZero : PolicyAction → Prop
  | .tick now _ => now = 0
  | _ => True

/-- The tick under way, if any, is at time zero. -/
def TickingAtZero (t : System) : Prop :=
  match t.holder with
  | .ticking started _ _ => started = 0
  | .filing _ _ started _ _ => started = 0
  | _ => True

theorem tickingAtZero_step {a : PolicyAction} (h : TickingAtZero t) (ha : AtZero a) :
    TickingAtZero (policyStep routes schedule t a) := by
  obtain ⟨s, holder⟩ := t
  cases a with
  | peer a =>
      unfold policyStep
      dsimp only
      split
      · exact h
      · exact h
  | line text now =>
      unfold policyStep
      dsimp only
      split
      · trivial
      · exact h
  | other prototype target delay now =>
      unfold policyStep
      dsimp only
      split
      · split
        · exact h
        · exact h
      · exact h
  | resume target =>
      unfold policyStep
      dsimp only
      split
      · trivial
      · exact h
  | tick now minute =>
      unfold policyStep
      dsimp only
      split
      · exact ha
      · exact h
  | proceed now =>
      unfold policyStep proceed
      dsimp only
      cases holder with
      | free | noting | canceling => trivial
      | enqueueing message target =>
          show TickingAtZero ⟨_, if _ then _ else _⟩
          split
          · trivial
          · trivial
      | ticking started minute rest =>
          cases rest with
          | nil => trivial
          | cons i rest =>
              dsimp only
              cases desiredMode routes schedule s i started minute with
              | some desired => exact h
              | none => exact h
      | filing i desired started minute rest => exact h

theorem timely_atZero {actions : List PolicyAction} (h : ∀ a ∈ actions, AtZero a) :
    Along (policyStep routes schedule) Timely (systemStart 5) actions := by
  apply Along.of_invariant (I := TickingAtZero) (P := fun _ a => AtZero a)
  · exact fun t a ht ha => tickingAtZero_step ht ha
  · rintro ⟨s, holder⟩ a ht -
    cases a with
    | proceed now =>
        cases holder with
        | filing i desired started minute rest =>
            obtain rfl : started = 0 := ht
            exact Nat.zero_le now
        | free | enqueueing | noting | canceling | ticking => trivial
    | peer | line | other | resume | tick => trivial
  · trivial
  · exact (along_forall ..).mpr h

theorem atZero_lifted (as : List QueueAction) : ∀ a ∈ as.map lifted, AtZero a := by
  intro a ha
  obtain ⟨b, -, rfl⟩ := List.mem_map.mp ha
  cases b <;> trivial

theorem atZero_overrideRun : ∀ a ∈ overrideRun, AtZero a := by
  have hmode : ∀ line message result, ∀ a ∈ modeExchange line message result, AtZero a := by
    intro line message result
    simp [modeExchange, AtZero]
  have hlast : ∀ a ∈ [.tick 0 0, .proceed 0, .proceed 0], AtZero a := by
    simp [AtZero]
  have haccepted : ∀ a ∈ acceptedRun, AtZero a := by
    rw [acceptedRun, List.forall_mem_cons, List.forall_mem_append]
    refine ⟨trivial, hmode _ _ _, ?_⟩
    simp [AtZero]
  rw [overrideRun, recycledRun]
  simp only [List.forall_mem_append]
  exact ⟨⟨haccepted, hmode _ _ _, atZero_lifted _, atZero_lifted _, hmode _ _ _, atZero_lifted _⟩,
    hlast⟩

/-- The operator's last request was rejected, and the schedule asks for its mode. -/
theorem schedule_overrides :
    Along (policyStep defaultRoutes sensorSchedule) Timely (systemStart 5) overrideRun ∧
      ¬ Respected
        (run (policyStep defaultRoutes sensorSchedule) (systemStart 5)
          overrideRun).central.trace := by
  refine ⟨timely_atZero atZero_overrideRun, ?_⟩
  obtain ⟨s, hrun, hparked, hids, huntil, hasked⟩ := recycled_state
  have hcommand : s.policyCommand 0 = 1 := by
    rw [hparked.command, Function.update_self]
  have hnone : policyRecord s 0 = none := by
    unfold policyRecord
    rw [hcommand, Option.map_eq_none_iff, Option.eq_none_iff_forall_ne_some]
    exact fun slot hslot => hids slot (findCommand_some hslot).2
  have hheld : policyHeld s 0 = false := by
    unfold policyHeld
    rw [hnone]
    dsimp only
    rw [hparked.ack, hcommand]
    decide
  have hreceipt : noteReceipt s 0 = s := by
    unfold noteReceipt
    rw [hnone]
  have hactive : operatorActive s.operatorPolicy 0 0 = false := by
    unfold operatorActive
    rw [hparked.persistent, huntil]
    decide
  have hdesired : desiredMode defaultRoutes sensorSchedule s 0 0 0 =
      some TrafficLightMode.sensor.toByte := by
    have hmode : centralScheduleMode sensorSchedule 0 0 =
        some TrafficLightMode.sensor.toByte := by
      decide
    unfold desiredMode
    rw [hheld, hreceipt, hactive, hmode, hparked.scheduled, localReady_calm hparked.calm]
    decide
  have hconsider : policyStep defaultRoutes sensorSchedule
      ⟨s, .ticking 0 0 [0, 1, 2, 3, 4, 5]⟩ (.proceed 0) =
        ⟨s, .filing 0 TrafficLightMode.sensor.toByte 0 0 [1, 2, 3, 4, 5]⟩ := by
    unfold policyStep proceed
    dsimp only
    rw [hreceipt, hdesired]
  have hadmitted := admitted_calm hparked.calm (scheduleMessage 0 TrafficLightMode.sensor.toByte)
    (some 0)
  obtain ⟨hrefused, -⟩ | ⟨-, fresh, htargets, hfiles, -⟩ := @enqueue_cases defaultRoutes s
    (scheduleMessage 0 TrafficLightMode.sensor.toByte) (some 0) 0 true 0
  · exact absurd hadmitted hrefused
  obtain ⟨f, rfl, htarget⟩ : ∃ f, fresh = [f] ∧ f.target = 0 :=
    List.map_eq_singleton_iff.mp htargets
  intro hrespected
  rw [overrideRun, run_append, hrun, run_cons, start_tick, run_cons, hconsider, run_cons, run_nil]
    at hrespected
  unfold policyStep proceed at hrespected
  dsimp only at hrespected
  rw [if_pos hadmitted] at hrespected
  dsimp only at hrespected
  rw [hfiles.trace] at hrespected
  obtain ⟨-, hyields⟩ := hrespected _ _ (List.suffix_refl _) rfl
  obtain ⟨time, houtcome, -⟩ := hyields _ (htarget ▸ hasked)
  cases houtcome

end Recycled

end TrafficLight.OperatorHold
