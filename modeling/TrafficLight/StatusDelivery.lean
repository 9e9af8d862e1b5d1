import TrafficLight.StatusHistory

/-!
The delivery of status records to Central, from `report_thread` of
`local_comm.c`. The thread asks the core for the record after the one it
delivered last, sends it, and moves on when Central accepts it. Core turns may
come between any two parts of its loop.
-/

namespace TrafficLight.StatusDelivery

open TrafficLight.Runs
open TrafficLight.Protocol
open TrafficLight.Telemetry
open TrafficLight.LocalData
open TrafficLight.LocalCore
open TrafficLight.LocalReports
open TrafficLight.HistoryRing
open TrafficLight.StatusHistory

/-- The parts of `core_reply_t` that the thread reads. -/
structure CoreReply where
  event : StatusEvent
  status : StatusMsg
  fault : FaultMsg
  faultSequence : UInt16

/-- `fill_core_reply` and `next_status_event` -/
def coreReply (c : Core) (delivered : Nat) : CoreReply :=
  { event := nextStatusEvent c delivered
    status := fillStatusLocked c.state
    fault := prepareFaultMessageLocked c.state
    faultSequence := c.state.faultSequence }

/-- How a send to Central ends. A send that fails closes the connection; Central
may have taken the report all the same. -/
inductive Exchange
  | accepted
  | refused
  | failed (taken : Bool)
  deriving DecidableEq

def Exchange.keepsOpen : Exchange → Bool
  | .failed _ => false
  | _ => true

def Exchange.taken : Exchange → Bool
  | .accepted => true
  | .refused => false
  | .failed taken => taken

/-- A reply of the core in hand, with the request's delivered number and the
core that answered. -/
structure Poll where
  reply : CoreReply
  delivered : Nat
  core : Core
  heartbeatDue : Bool

/-- The next send in the loop. -/
inductive ReportPoint
  | idle
  | status (poll : Poll)
  | fault (poll : Poll)
  | heartbeat (poll : Poll)

/-- A status report that was sent. -/
structure Report where
  event : StatusEvent
  delivered : Nat
  core : Core
  exchange : Exchange

inductive ReportEvent
  | reopened (isOpen : Bool)
  | sent (report : Report)

/-- A core and its report thread. `trace` lists what the thread did, the latest
first. -/
structure System where
  core : Core
  central : Bool
  delivered : Nat
  lastFault : UInt16
  sequence : UInt16
  point : ReportPoint
  trace : List ReportEvent

/-- `poll` is the loop up to the reply of the core; a call that gets no answer
starts the loop again. -/
inductive SystemStep
  | core (turn : CoreStep × Nat)
  | poll (heartbeatDue opens trainUp answered : Bool) (now : Nat)
  | exchange (result : Exchange)

/-- A heartbeat that is due opens a closed connection again. -/
def reopen (y : System) (heartbeatDue opens : Bool) : System :=
  if heartbeatDue ∧ y.central = false then
    { y with
      central := opens
      delivered := 0
      lastFault := 0
      trace := .reopened opens :: y.trace }
  else y

def pollStep (y : System) (heartbeatDue opens trainUp answered : Bool) (now : Nat) : System :=
  let y := reopen y heartbeatDue opens
  if answered then
    let core := coreTurn y.core (.links y.central trainUp, now)
    { y with
      core := core
      point := .status ⟨coreReply core y.delivered, y.delivered, core, heartbeatDue⟩ }
  else y

def statusSend (y : System) (poll : Poll) (result : Exchange) : System :=
  if y.central ∧ (y.delivered ≠ poll.reply.event.id ∨ poll.heartbeatDue) then
    { y with
      central := result.keepsOpen
      delivered := if result = .accepted then poll.reply.event.id else y.delivered
      point := .fault poll
      trace := .sent ⟨poll.reply.event, poll.delivered, poll.core, result⟩ :: y.trace }
  else { y with point := .fault poll }

def faultSend (y : System) (poll : Poll) (result : Exchange) : System :=
  if y.central ∧ y.lastFault ≠ poll.reply.faultSequence then
    { y with
      central := result.keepsOpen
      lastFault := if result = .accepted then poll.reply.faultSequence else y.lastFault
      point := .heartbeat poll }
  else { y with point := .heartbeat poll }

def heartbeatSend (y : System) (poll : Poll) (result : Exchange) : System :=
  if y.central ∧ poll.heartbeatDue then
    { y with
      central := result.keepsOpen
      sequence := (heartbeatOf poll.reply.status y.sequence).sequence
      point := .idle }
  else { y with point := .idle }

def systemStep (y : System) : SystemStep → System
  | .core turn => { y with core := coreTurn y.core turn }
  | .poll heartbeatDue opens trainUp answered now =>
      match y.point with
      | .idle => pollStep y heartbeatDue opens trainUp answered now
      | _ => y
  | .exchange result =>
      match y.point with
      | .idle => y
      | .status poll => statusSend y poll result
      | .fault poll => faultSend y poll result
      | .heartbeat poll => heartbeatSend y poll result

def systemStart (core : Core) : System := ⟨core, false, 0, 0, 0, .idle, []⟩

def SystemStarted (y : System) : Prop := ∃ core, CoreStarted core ∧ y = systemStart core

/-- The reports since the connection was last opened, the latest first. -/
def sinceReopened : List ReportEvent → List Report
  | .sent report :: older => report :: sinceReopened older
  | _ => []

def acceptedIds (reports : List Report) : List Nat :=
  (reports.filter (·.exchange = .accepted)).map (·.event.id)

/-- The number of the last report accepted since then, or zero. -/
def lastAccepted (trace : List ReportEvent) : Nat := (acceptedIds (sinceReopened trace)).headD 0

/-- The last status that Central took. -/
def lastTaken : List ReportEvent → Option StatusEvent
  | [] => none
  | .reopened _ :: older => lastTaken older
  | .sent report :: older => if report.exchange.taken then some report.event else lastTaken older

/-- The record a core answers with. With nothing delivered, or nothing new, it is
the newest; else it has the least number above the delivered one that the
history holds, and it is the very next record if at most 64 were made since. -/
structure Chosen (c : Core) (delivered : Nat) (event : StatusEvent) : Prop where
  first : delivered = 0 → event = c.history.newest
  same : delivered = c.history.newest.id → event = c.history.newest
  held : ∃ i, c.history.slots i = event
  above : delivered ≠ 0 → delivered < c.history.newest.id → delivered < event.id
  least : delivered ≠ 0 → ∀ i, delivered < (c.history.slots i).id →
    event.id ≤ (c.history.slots i).id
  next : delivered ≠ 0 → ∀ k (hk : k + 1 < c.recorded.length),
    c.recorded[k].id = delivered → c.recorded.length ≤ k + 1 + 64 → event = c.recorded[k + 1]

/-- In order, with no gap that the history can fill, and up to date. -/
structure Drained (y : System) : Prop where
  ascending : (acceptedIds (sinceReopened y.trace)).Pairwise (· ≥ ·)
  unique : y.core.recorded.Pairwise (·.id < ·.id)
  recorded : ∀ report, .sent report ∈ y.trace → report.event ∈ y.core.recorded
  chosen : ∀ report older, (.sent report :: older) <:+ y.trace →
    report.delivered = lastAccepted older ∧ Chosen report.core report.delivered report.event
  converged : y.delivered = y.core.history.newest.id →
    (lastTaken y.trace).map StatusEvent.status = some (fillStatusLocked y.core.state)

/-- The records are numbered one after the other, and the history holds the last
of them. -/
structure Numbered (c : Core) : Prop where
  keeps : c.history.Keeps noEvent c.recorded
  newest : ∃ older, c.recorded = older ++ [c.history.newest]
  ids : ∃ base, ∀ k (hk : k < c.recorded.length), c.recorded[k].id = base + k + 1
  eventId : c.eventId = c.history.newest.id

variable {c : Core}

theorem Numbered.newest_id (h : Numbered c) {base : Nat}
    (hids : ∀ k (hk : k < c.recorded.length), c.recorded[k].id = base + k + 1) :
    c.history.newest.id = base + c.recorded.length := by
  obtain ⟨older, holder⟩ := h.newest
  have hlength : c.recorded.length = older.length + 1 := by
    rw [holder, List.length_append, List.length_singleton]
  have hlt : older.length < c.recorded.length := by omega
  have hlast := hids older.length hlt
  have hentry : c.recorded[older.length] = c.history.newest := by
    simp only [holder, List.getElem_concat_length]
  rw [hentry] at hlast
  omega

theorem Numbered.newest_mem (h : Numbered c) : c.history.newest ∈ c.recorded := by
  obtain ⟨older, holder⟩ := h.newest
  rw [holder]
  exact List.mem_append_right _ (List.mem_singleton_self _)

theorem Numbered.newest_pos (h : Numbered c) : 0 < c.history.newest.id := by
  obtain ⟨base, hids⟩ := h.ids
  have hlength := List.length_pos_of_mem h.newest_mem
  rw [h.newest_id hids]
  omega

theorem Numbered.recordStatus (h : Numbered c) (now : Nat) : Numbered (recordStatus c now) := by
  have hpos := h.newest_pos
  unfold StatusHistory.recordStatus
  dsimp only
  split
  · exact h
  · rw [if_neg (by rw [h.eventId]; omega)]
    obtain ⟨base, hids⟩ := h.ids
    have hnewest := h.newest_id hids
    constructor
    · exact h.keeps.record _
    · exact ⟨c.recorded, by rw [History.newest_record]⟩
    · refine ⟨base, fun k hk => ?_⟩
      dsimp only at hk ⊢
      rw [List.length_append, List.length_singleton] at hk
      by_cases hlast : k = c.recorded.length
      · subst hlast
        rw [List.getElem_concat_length rfl, h.eventId, hnewest]
      · rw [List.getElem_append_left (by omega)]
        exact hids k (by omega)
    · dsimp only
      rw [History.newest_record]

theorem Numbered.coreTurn (h : Numbered c) (turn : CoreStep × Nat) :
    Numbered (coreTurn c turn) := by
  apply Numbered.recordStatus
  exact ⟨h.keeps, h.newest, h.ids, h.eventId⟩

theorem numbered_coreStart (intersectionId : UInt8) (draws : Draws) (now : Nat) :
    Numbered (coreStart intersectionId draws now) := by
  have hnewest := History.newest_record (History.blank noEvent : History 64 StatusEvent)
    ⟨now + 1, fillStatusLocked (localStateInit intersectionId draws)⟩
  refine ⟨(History.keeps_blank noEvent).record _, ⟨[], ?_⟩, ⟨now, fun k hk => ?_⟩, ?_⟩
  · exact congrArg (fun event => [event]) hnewest.symm
  · obtain rfl : k = 0 := Nat.lt_one_iff.mp hk
    rfl
  · exact congrArg StatusEvent.id hnewest.symm

theorem recorded_coreTurn (c : Core) (turn : CoreStep × Nat) :
    c.recorded <+: (coreTurn c turn).recorded := by
  unfold StatusHistory.coreTurn StatusHistory.recordStatus
  dsimp only
  split
  · exact List.prefix_rfl
  · exact List.prefix_append _ _

theorem Numbered.ascending (h : Numbered c) : c.recorded.Pairwise (·.id < ·.id) := by
  obtain ⟨base, hids⟩ := h.ids
  rw [List.pairwise_iff_getElem]
  intro j k hj hk hlt
  rw [hids j hj, hids k hk]
  omega

theorem Numbered.id_le_newest (h : Numbered c) {event : StatusEvent}
    (hmem : event ∈ c.recorded) : 0 < event.id ∧ event.id ≤ c.history.newest.id := by
  obtain ⟨base, hids⟩ := h.ids
  obtain ⟨k, hk, rfl⟩ := List.getElem_of_mem hmem
  rw [h.newest_id hids, hids k hk]
  omega

theorem Numbered.eq_newest (h : Numbered c) {event : StatusEvent} (hmem : event ∈ c.recorded)
    (hid : event.id = c.history.newest.id) : event = c.history.newest := by
  obtain ⟨older, holder⟩ := h.newest
  have hascending := h.ascending
  rw [holder] at hmem hascending
  rcases List.mem_append.mp hmem with hold | hlast
  · have hlt := (List.pairwise_append.mp hascending).2.2 event hold _
      (List.mem_singleton_self _)
    omega
  · exact List.mem_singleton.mp hlast

theorem newest_slot (c : Core) : ∃ i, c.history.slots i = c.history.newest := ⟨_, rfl⟩

theorem Numbered.slot_recorded (h : Numbered c) {i : Fin 64} (hpos : 0 < (c.history.slots i).id) :
    c.history.slots i ∈ c.recorded := by
  rcases h.keeps.slots_eq i with hblank | ⟨k, hk, -, hslot⟩
  · rw [hblank] at hpos
    exact absurd hpos (by decide)
  · rw [hslot]
    exact List.getElem_mem hk

theorem Numbered.chosen (h : Numbered c) (delivered : Nat) :
    Chosen c delivered (nextStatusEvent c delivered) := by
  have hpos := h.newest_pos
  by_cases hzero : delivered = 0
  · have hnewest : nextStatusEvent c delivered = c.history.newest := if_neg (not_not_intro hzero)
    rw [hnewest]
    exact ⟨fun _ => rfl, fun _ => rfl, newest_slot c, fun h => absurd hzero h,
      fun h => absurd hzero h, fun h => absurd hzero h⟩
  · obtain ⟨candidates, hcandidates⟩ : ∃ candidates,
      candidates = (List.finRange 64).map c.history.slots := ⟨_, rfl⟩
    have hmem : ∀ i, c.history.slots i ∈ candidates := by
      intro i
      rw [hcandidates]
      exact List.mem_map_of_mem (List.mem_finRange i)
    have hchoice : nextStatusEvent c delivered =
        leastAbove StatusEvent.id delivered c.history.newest candidates := by
      rw [hcandidates]
      exact if_pos hzero
    have hcases := @leastAbove_cases _ StatusEvent.id delivered c.history.newest candidates
    have hfirst := @leastAbove_le_first _ StatusEvent.id delivered c.history.newest candidates
    have hleast : ∀ i, delivered < (c.history.slots i).id →
        (nextStatusEvent c delivered).id ≤ (c.history.slots i).id := by
      intro i hi
      rw [hchoice]
      exact leastAbove_le (hmem i) hi
    rw [← hchoice] at hcases hfirst
    have habove : delivered < c.history.newest.id →
        delivered < (nextStatusEvent c delivered).id := by
      intro hlt
      rcases hcases with heq | ⟨-, hmark⟩
      · rw [heq]
        exact hlt
      · exact hmark
    have hheld : ∃ i, c.history.slots i = nextStatusEvent c delivered := by
      rcases hcases with heq | ⟨hcandidate, -⟩
      · rw [heq]
        exact newest_slot c
      · rw [hcandidates] at hcandidate
        obtain ⟨i, -, hi⟩ := List.mem_map.mp hcandidate
        exact ⟨i, hi⟩
    refine ⟨fun h => absurd h hzero, ?_, hheld, fun _ => habove, fun _ => hleast, ?_⟩
    · intro hsame
      rcases hcases with heq | ⟨-, hmark⟩
      · exact heq
      · omega
    · intro _ k hk hid hrecent
      obtain ⟨base, hids⟩ := h.ids
      have hnewest := h.newest_id hids
      have hbefore := hids k (by omega)
      have hafter := hids (k + 1) hk
      have hslot := h.keeps.held (k + 1) hk (by omega)
      have hle := hleast (Fin.ofNat 64 (k + 1)) (by rw [hslot]; omega)
      rw [hslot] at hle
      have hlt := habove (by omega)
      -- the number leaves only one record
      obtain ⟨i, hi⟩ := hheld
      have hmade : nextStatusEvent c delivered ∈ c.recorded := by
        rw [← hi]
        apply h.slot_recorded
        rw [hi]
        omega
      obtain ⟨j, hj, hevent⟩ := List.getElem_of_mem hmade
      have hnumber := hids j hj
      rw [hevent] at hnumber
      obtain rfl : j = k + 1 := by omega
      exact hevent.symm

theorem Chosen.recorded {delivered : Nat} {event : StatusEvent} (h : Numbered c)
    (hchosen : Chosen c delivered event) (hle : delivered ≤ c.history.newest.id) :
    event ∈ c.recorded ∧ delivered ≤ event.id := by
  by_cases hzero : delivered = 0
  · rw [hchosen.first hzero]
    exact ⟨h.newest_mem, by omega⟩
  · rcases hle.eq_or_lt with hsame | hlt
    · rw [hchosen.same hsame]
      exact ⟨h.newest_mem, hle⟩
    · have habove := hchosen.above hzero hlt
      obtain ⟨i, hi⟩ := hchosen.held
      refine ⟨?_, habove.le⟩
      rw [← hi]
      apply h.slot_recorded
      rw [hi]
      omega

theorem acceptedIds_cons (report : Report) (reports : List Report) :
    acceptedIds (report :: reports) = (if report.exchange = .accepted then [report.event.id]
      else []) ++ acceptedIds reports := by
  unfold acceptedIds
  rw [List.filter_cons]
  by_cases h : report.exchange = .accepted
  · simp [h]
  · simp [h]

/-- The reply in hand was chosen for the delivered number that still holds. -/
structure InHand (y : System) (poll : Poll) : Prop where
  delivered : poll.delivered = y.delivered
  chosen : Chosen poll.core poll.delivered poll.reply.event
  recorded : poll.reply.event ∈ y.core.recorded
  le : y.delivered ≤ poll.reply.event.id

/-- What holds between any two steps. -/
structure Sound (y : System) : Prop where
  current : Current y.core
  numbered : Numbered y.core
  recorded : ∀ report, .sent report ∈ y.trace → report.event ∈ y.core.recorded
  delivered : y.delivered = lastAccepted y.trace
  ascending : (acceptedIds (sinceReopened y.trace)).Pairwise (· ≥ ·)
  chosen : ∀ report older, (.sent report :: older) <:+ y.trace →
    report.delivered = lastAccepted older ∧ Chosen report.core report.delivered report.event
  taken : y.delivered ≠ 0 → ∃ event, lastTaken y.trace = some event ∧
    event ∈ y.core.recorded ∧ y.delivered ≤ event.id
  inHand : ∀ poll, y.point = .status poll → InHand y poll

theorem Sound.coreTurn {y : System} (h : Sound y) (turn : CoreStep × Nat) :
    Sound { y with core := StatusHistory.coreTurn y.core turn } := by
  have hgrow : ∀ event ∈ y.core.recorded,
      event ∈ (StatusHistory.coreTurn y.core turn).recorded :=
    fun event hmem => (recorded_coreTurn y.core turn).subset hmem
  refine ⟨h.current.coreTurn turn, h.numbered.coreTurn turn, ?_, h.delivered, h.ascending,
    h.chosen, ?_, ?_⟩
  · exact fun report hmem => hgrow _ (h.recorded report hmem)
  · intro hne
    obtain ⟨event, htaken, hmem, hle⟩ := h.taken hne
    exact ⟨event, htaken, hgrow event hmem, hle⟩
  · intro poll hpoint
    have hhand := h.inHand poll hpoint
    exact ⟨hhand.delivered, hhand.chosen, hgrow _ hhand.recorded, hhand.le⟩

theorem Sound.delivered_le {y : System} (h : Sound y) :
    y.delivered ≤ y.core.history.newest.id := by
  by_cases hzero : y.delivered = 0
  · omega
  · obtain ⟨event, -, hmem, hle⟩ := h.taken hzero
    exact hle.trans (h.numbered.id_le_newest hmem).2

theorem Sound.reopen {y : System} (h : Sound y) (hidle : y.point = .idle)
    (heartbeatDue opens : Bool) : Sound (reopen y heartbeatDue opens) := by
  unfold StatusDelivery.reopen
  split
  · refine ⟨h.current, h.numbered, ?_, rfl, List.Pairwise.nil, ?_, fun hne => absurd rfl hne, ?_⟩
    · intro report hmem
      exact h.recorded report ((List.mem_cons.mp hmem).resolve_left ReportEvent.noConfusion)
    · intro report older hsuffix
      rcases List.suffix_cons_iff.mp hsuffix with heq | hsuffix
      · cases heq
      · exact h.chosen report older hsuffix
    · intro poll hpoint
      rw [show y.point = .status poll from hpoint] at hidle
      cases hidle
  · exact h

theorem Sound.poll {y : System} (h : Sound y) (hidle : y.point = .idle)
    (heartbeatDue opens trainUp answered : Bool) (now : Nat) :
    Sound (pollStep y heartbeatDue opens trainUp answered now) := by
  have hopen := h.reopen hidle heartbeatDue opens
  unfold pollStep
  extract_lets y' core
  split
  · have hturn : Sound { y' with core := core } := hopen.coreTurn _
    refine ⟨hturn.current, hturn.numbered, hturn.recorded, hturn.delivered, hturn.ascending,
      hturn.chosen, hturn.taken, ?_⟩
    intro poll hpoint
    obtain rfl := ReportPoint.status.inj hpoint
    have hchosen := hturn.numbered.chosen y'.delivered
    obtain ⟨hmem, hle⟩ := hchosen.recorded hturn.numbered hturn.delivered_le
    exact ⟨rfl, hchosen, hmem, hle⟩
  · exact hopen

theorem Sound.moveOn {y y' : System} (h : Sound y) (hcore : y'.core = y.core)
    (hdelivered : y'.delivered = y.delivered) (htrace : y'.trace = y.trace)
    (hpoint : ∀ poll, y'.point ≠ .status poll) : Sound y' := by
  refine ⟨hcore ▸ h.current, hcore ▸ h.numbered, ?_, ?_, ?_, ?_, ?_, ?_⟩
  · rw [hcore, htrace]
    exact h.recorded
  · rw [hdelivered, htrace]
    exact h.delivered
  · rw [htrace]
    exact h.ascending
  · rw [htrace]
    exact h.chosen
  · rw [hcore, hdelivered, htrace]
    exact h.taken
  · exact fun poll heq => absurd heq (hpoint poll)

theorem Sound.statusSend {y : System} (h : Sound y) {poll : Poll}
    (hpoint : y.point = .status poll) (result : Exchange) :
    Sound (statusSend y poll result) := by
  obtain ⟨hpolled, hchosen, hmem, hle⟩ := h.inHand poll hpoint
  have hpos := (h.numbered.id_le_newest hmem).1
  unfold StatusDelivery.statusSend
  split
  · have hids : acceptedIds (sinceReopened (.sent ⟨poll.reply.event, poll.delivered, poll.core,
        result⟩ :: y.trace)) = (if result = .accepted then [poll.reply.event.id] else []) ++
          acceptedIds (sinceReopened y.trace) := acceptedIds_cons _ _
    refine ⟨h.current, h.numbered, ?_, ?_, ?_, ?_, ?_, fun poll heq => ?_⟩
    · intro report hreport
      rcases List.mem_cons.mp hreport with heq | hold
      · obtain rfl := ReportEvent.sent.inj heq
        exact hmem
      · exact h.recorded report hold
    · show (if result = .accepted then poll.reply.event.id else y.delivered) =
        (acceptedIds (sinceReopened _)).headD 0
      rw [hids]
      split
      · rfl
      · exact h.delivered
    · rw [hids]
      split
      · -- the last accepted number heads the descending list
        refine List.pairwise_cons.mpr ⟨fun id hid => ?_, h.ascending⟩
        have hlast := h.delivered
        have hascending := h.ascending
        unfold lastAccepted at hlast
        cases hreports : acceptedIds (sinceReopened y.trace) with
        | nil =>
            rw [hreports] at hid
            cases hid
        | cons last ids =>
            rw [hreports] at hid hlast hascending
            have hhead : y.delivered = last := hlast
            rcases List.mem_cons.mp hid with rfl | hid
            · exact hhead ▸ hle
            · have hbelow := (List.pairwise_cons.mp hascending).1 id hid
              omega
      · exact h.ascending
    · intro report older hsuffix
      rcases List.suffix_cons_iff.mp hsuffix with heq | hsuffix
      · obtain ⟨hreport, rfl⟩ := List.cons.inj heq
        obtain rfl := ReportEvent.sent.inj hreport
        exact ⟨hpolled.trans h.delivered, hchosen⟩
      · exact h.chosen report older hsuffix
    · intro hne
      show ∃ event, (if result.taken = true then some poll.reply.event else lastTaken y.trace) =
        some event ∧ event ∈ y.core.recorded ∧
          (if result = .accepted then poll.reply.event.id else y.delivered) ≤ event.id
      by_cases htaken : result.taken = true
      · rw [if_pos htaken]
        refine ⟨_, rfl, hmem, ?_⟩
        split
        · exact le_rfl
        · exact hle
      · have hother : result ≠ .accepted := fun heq => htaken (heq ▸ rfl)
        rw [if_neg htaken, if_neg hother]
        apply h.taken
        change (if result = .accepted then poll.reply.event.id else y.delivered) ≠ 0 at hne
        rwa [if_neg hother] at hne
    · cases heq
  · exact h.moveOn rfl rfl rfl fun poll => ReportPoint.noConfusion

theorem Sound.step {y : System} (h : Sound y) (step : SystemStep) : Sound (systemStep y step) := by
  cases step with
  | core turn => exact h.coreTurn turn
  | poll heartbeatDue opens trainUp answered now =>
      dsimp only [systemStep]
      split
      · rename_i hidle
        exact h.poll hidle ..
      · exact h
  | exchange result =>
      dsimp only [systemStep]
      split
      · exact h
      · rename_i poll hpoint
        exact h.statusSend hpoint result
      · unfold faultSend
        split <;> exact h.moveOn rfl rfl rfl fun poll => ReportPoint.noConfusion
      · unfold heartbeatSend
        split <;> exact h.moveOn rfl rfl rfl fun poll => ReportPoint.noConfusion

theorem sound_of_reachable {y : System} (h : Reachable SystemStarted systemStep y) : Sound y := by
  refine h.invariant ?_ fun y step hy => hy.step step
  rintro y ⟨core, ⟨intersectionId, draws, now, rfl⟩, rfl⟩
  refine ⟨current_coreStart .., numbered_coreStart .., fun _ hmem => absurd hmem List.not_mem_nil,
    rfl, List.Pairwise.nil, fun _ _ hsuffix => ?_, fun hne => absurd rfl hne,
    fun _ hpoint => ReportPoint.noConfusion hpoint⟩
  exact absurd (List.suffix_nil.mp hsuffix) (List.cons_ne_nil _ _)

/-- The reports that Central accepts between two connections come in the order of
the records, none is left out while the history holds it, and when the newest is
delivered Central has the status of the state. -/
theorem drained_of_reachable {y : System} (h : Reachable SystemStarted systemStep y) :
    Drained y := by
  have hsound := sound_of_reachable h
  refine ⟨hsound.ascending, hsound.numbered.ascending, hsound.recorded, hsound.chosen, ?_⟩
  intro hnewest
  have hpos := hsound.numbered.newest_pos
  obtain ⟨event, htaken, hmem, hle⟩ := hsound.taken (by omega)
  have hid := hsound.numbered.id_le_newest hmem
  rw [htaken, hsound.numbered.eq_newest hmem (by omega)]
  exact congrArg some hsound.current.2

/-- A status is refused, then a newer one accepted. -/
def drainedRun : List SystemStep :=
  [.poll true true false true 0, .exchange .refused, .exchange .refused, .exchange .refused,
    .core (.tick false Draws.zero, 6), .poll false true false true 0, .exchange .accepted]

theorem drained_refused_accepted :
    Drained (run systemStep (systemStart (coreStart 0 Draws.zero 5)) drainedRun) :=
  drained_of_reachable ⟨_, drainedRun, ⟨_, ⟨0, Draws.zero, 5, rfl⟩, rfl⟩, rfl⟩

end TrafficLight.StatusDelivery
