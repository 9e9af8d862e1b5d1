import TrafficLight.CentralLink

namespace TrafficLight.LinkRequests

open TrafficLight.Runs
open TrafficLight.Protocol
open TrafficLight.CentralFrames
open TrafficLight.CentralLink

/-- The job the worker is away with. -/
def away : Worker → Option Picked
  | .picked p | .calling p _ | .discarding p _ => some p
  | .head | .closing | .exited => none

/-- The callers whose request went to `MsgSend`. -/
def Sent (record : Record) (caller : Nat) : Prop :=
  caller ∈ record.sent.map Prod.fst

/-- An answer of the peer to a caller: the worker validated the reply to the
caller's own request while the link was current. -/
def Answer (record : Record) (caller : Nat) (result : Int) (reply : ReplyMsg) : Prop :=
  ∀ m, record.calls[caller]? = some (.send m) → result = code .ok ∨ result = code .rejected →
    ∃ check ∈ record.checks, check.caller = caller ∧ check.request = m ∧
      code (validateReply m check.kernel.reply check.kernel.status) = result ∧
      check.submitted = check.finished ∧ reply = check.kernel.reply

/-- The four phases of a link. -/
inductive Phase (s : Link) : Prop
  | idle (hbusy : s.busy = false) (hdone : s.done = false) (habandoned : s.abandoned = false)
      (hjob : s.job = none) (hwaiting : s.waiting = []) (haway : away s.worker = none)
  | queued (r : Request) (hcall : s.record.calls[s.owner]? = some r) (hbusy : s.busy = true)
      (hdone : s.done = false) (habandoned : s.abandoned = false) (hjob : s.job = some r.job)
      (hrequest : s.request = r.message) (hwaiting : s.waiting = [s.owner])
      (haway : away s.worker = none) (hunsent : ¬ Sent s.record s.owner)
      (hkept : s.owner ∉ s.record.dropped)
  | working (p : Picked) (r : Request) (hcall : s.record.calls[s.owner]? = some r)
      (haway : away s.worker = some p) (hcaller : p.caller = s.owner) (hpjob : p.job = r.job)
      (hrequest : p.request = r.message) (hbusy : s.busy = true) (hdone : s.done = false)
      (hjob : s.job = none) (hwaiting : s.waiting = if s.abandoned then [] else [s.owner])
      (hunsent : s.worker = .picked p → ¬ Sent s.record s.owner)
      (hkept : s.owner ∉ s.record.dropped)
      (hdiscard : ∀ reply, s.worker = .discarding p reply → r.job = .connect)
  | answered (hbusy : s.busy = true) (hdone : s.done = true) (habandoned : s.abandoned = false)
      (hjob : s.job = none) (hwaiting : s.waiting = [s.owner]) (haway : away s.worker = none)
      (howner : s.owner < s.record.calls.length) (hanswered : s.answered = s.owner)
      (hanswer : Answer s.record s.owner s.result s.reply)

/-- The record of the callers is in order. -/
structure Ledger (record : Record) (waiting : List Nat) : Prop where
  sent_once : (record.sent.map Prod.fst).Nodup
  sent_call : ∀ entry ∈ record.sent, record.calls[entry.1]? = some (.send entry.2)
  dropped_call : ∀ caller ∈ record.dropped, caller < record.calls.length
  dropped_unsent : ∀ caller ∈ record.dropped, ¬ Sent record caller
  returned_once : (record.returns.map Return.caller).Nodup
  returned_call : ∀ ret ∈ record.returns, ret.caller < record.calls.length
  returned_own : ∀ ret ∈ record.returns, ∀ caller ∈ ret.writtenFor, caller = ret.caller
  returned_answer : ∀ ret ∈ record.returns, ∀ m,
    record.calls[ret.caller]? = some (.send m) →
      ret.result = code .ok ∨ ret.result = code .rejected →
        ∃ reply, ret.reply = some reply ∧ Answer record ret.caller ret.result reply
  waiting_call : ∀ caller ∈ waiting, caller < record.calls.length ∧
    caller ∉ record.returns.map Return.caller

structure LinkInv (s : Link) : Prop where
  phase : Phase s
  ledger : Ledger s.record s.waiting

theorem linkInv_init : LinkInv linkInit where
  phase := .idle rfl rfl rfl rfl rfl rfl
  ledger := by constructor <;> simp [linkInit, Sent]

section Record

variable {record : Record} {waiting : List Nat}

theorem failure_no_answer (job : Job) (h : job = .send) :
    ¬ (failure job = code .ok ∨ failure job = code .rejected) := by
  subst h
  decide

theorem Answer.call {caller : Nat} {result : Int} {reply : ReplyMsg} {r : Request}
    (hcaller : caller < record.calls.length) (h : Answer record caller result reply) :
    Answer { record with calls := record.calls ++ [r] } caller result reply := by
  intro m hm
  rw [List.getElem?_append_left hcaller] at hm
  exact h m hm

theorem Ledger.call (h : Ledger record waiting) (r : Request) :
    Ledger { record with calls := record.calls ++ [r] } waiting where
  sent_once := h.sent_once
  sent_call := fun entry hentry => by
    have hcall := h.sent_call entry hentry
    obtain ⟨hlt, -⟩ := List.getElem?_eq_some_iff.mp hcall
    rw [List.getElem?_append_left hlt]
    exact hcall
  dropped_call := fun caller hcaller => by
    have hlt := h.dropped_call caller hcaller
    simp only [List.length_append]
    omega
  dropped_unsent := h.dropped_unsent
  returned_once := h.returned_once
  returned_call := fun ret hret => by
    have hlt := h.returned_call ret hret
    simp only [List.length_append]
    omega
  returned_own := h.returned_own
  returned_answer := fun ret hret m hm hresult => by
    have hlt := h.returned_call ret hret
    rw [List.getElem?_append_left hlt] at hm
    obtain ⟨reply, hreply, hanswer⟩ := h.returned_answer ret hret m hm hresult
    exact ⟨reply, hreply, hanswer.call hlt⟩
  waiting_call := fun caller hcaller => by
    obtain ⟨hlt, hnew⟩ := h.waiting_call caller hcaller
    refine ⟨?_, hnew⟩
    simp only [List.length_append]
    omega

theorem Ledger.returning {waiting' : List Nat} (h : Ledger record waiting) (ret : Return)
    (hlt : ret.caller < record.calls.length)
    (hnew : ret.caller ∉ record.returns.map Return.caller)
    (hown : ∀ caller ∈ ret.writtenFor, caller = ret.caller)
    (hanswer : ∀ m, record.calls[ret.caller]? = some (.send m) →
      ret.result = code .ok ∨ ret.result = code .rejected →
        ∃ reply, ret.reply = some reply ∧ Answer record ret.caller ret.result reply)
    (hwaiting : ∀ caller ∈ waiting', caller ∈ waiting ∧ caller ≠ ret.caller) :
    Ledger { record with returns := record.returns ++ [ret] } waiting' where
  sent_once := h.sent_once
  sent_call := h.sent_call
  dropped_call := h.dropped_call
  dropped_unsent := h.dropped_unsent
  returned_once := by
    rw [List.map_append, List.nodup_append]
    refine ⟨h.returned_once, List.nodup_singleton _, ?_⟩
    intro a ha b hb
    rw [List.map_singleton, List.mem_singleton] at hb
    rintro rfl
    exact hnew (hb ▸ ha)
  returned_call := fun other hother => by
    rcases List.mem_append.mp hother with hold | hlast
    · exact h.returned_call other hold
    · rw [List.mem_singleton.mp hlast]
      exact hlt
  returned_own := fun other hother => by
    rcases List.mem_append.mp hother with hold | hlast
    · exact h.returned_own other hold
    · rw [List.mem_singleton.mp hlast]
      exact hown
  returned_answer := fun other hother => by
    rcases List.mem_append.mp hother with hold | hlast
    · exact h.returned_answer other hold
    · rw [List.mem_singleton.mp hlast]
      exact hanswer
  waiting_call := fun caller hcaller => by
    obtain ⟨hold, hne⟩ := hwaiting caller hcaller
    obtain ⟨hcall, hnot⟩ := h.waiting_call caller hold
    refine ⟨hcall, ?_⟩
    simp only [List.map_append, List.map_singleton, List.mem_append, List.mem_singleton, not_or]
    exact ⟨hnot, hne⟩

theorem Ledger.drop (h : Ledger record waiting) (caller : Nat)
    (hlt : caller < record.calls.length) (hunsent : ¬ Sent record caller) :
    Ledger { record with dropped := record.dropped ++ [caller] } waiting where
  sent_once := h.sent_once
  sent_call := h.sent_call
  dropped_call := fun other hother => by
    rcases List.mem_append.mp hother with hold | hlast
    · exact h.dropped_call other hold
    · rw [List.mem_singleton.mp hlast]
      exact hlt
  dropped_unsent := fun other hother => by
    rcases List.mem_append.mp hother with hold | hlast
    · exact h.dropped_unsent other hold
    · rw [List.mem_singleton.mp hlast]
      exact hunsent
  returned_once := h.returned_once
  returned_call := h.returned_call
  returned_own := h.returned_own
  returned_answer := h.returned_answer
  waiting_call := h.waiting_call

theorem Ledger.send (h : Ledger record waiting) (caller : Nat) (m : TestMessage)
    (hcall : record.calls[caller]? = some (.send m)) (hunsent : ¬ Sent record caller)
    (hkept : caller ∉ record.dropped) :
    Ledger { record with sent := record.sent ++ [(caller, m)] } waiting where
  sent_once := by
    rw [List.map_append, List.nodup_append]
    refine ⟨h.sent_once, List.nodup_singleton _, ?_⟩
    intro a ha b hb
    rw [List.map_singleton, List.mem_singleton] at hb
    rintro rfl
    rw [hb] at ha
    exact hunsent ha
  sent_call := fun entry hentry => by
    rcases List.mem_append.mp hentry with hold | hlast
    · exact h.sent_call entry hold
    · rw [List.mem_singleton.mp hlast]
      exact hcall
  dropped_call := h.dropped_call
  dropped_unsent := fun other hother hsent => by
    simp only [Sent, List.map_append, List.map_singleton, List.mem_append,
      List.mem_singleton] at hsent
    rcases hsent with hsent | rfl
    · exact h.dropped_unsent other hother hsent
    · exact hkept hother
  returned_once := h.returned_once
  returned_call := h.returned_call
  returned_own := h.returned_own
  returned_answer := h.returned_answer
  waiting_call := h.waiting_call

theorem Answer.check {caller : Nat} {result : Int} {reply : ReplyMsg} (check : Check)
    (h : Answer record caller result reply) :
    Answer { record with checks := record.checks ++ [check] } caller result reply := by
  intro m hm hresult
  obtain ⟨found, hfound, hrest⟩ := h m hm hresult
  exact ⟨found, List.mem_append_left _ hfound, hrest⟩

theorem Ledger.check (h : Ledger record waiting) (check : Check) :
    Ledger { record with checks := record.checks ++ [check] } waiting where
  sent_once := h.sent_once
  sent_call := h.sent_call
  dropped_call := h.dropped_call
  dropped_unsent := h.dropped_unsent
  returned_once := h.returned_once
  returned_call := h.returned_call
  returned_own := h.returned_own
  returned_answer := fun ret hret m hm hresult => by
    obtain ⟨reply, hreply, hanswer⟩ := h.returned_answer ret hret m hm hresult
    exact ⟨reply, hreply, hanswer.check check⟩
  waiting_call := h.waiting_call

end Record

section Steps

variable {s : Link}

theorem refuses_of_busy (hbusy : s.busy = true) (job : Job) : s.refuses job = true := by
  simp [Link.refuses, hbusy]

theorem Phase.idle_of_free (h : Phase s) (hfree : s.busy = false) :
    s.done = false ∧ s.abandoned = false ∧ s.job = none ∧ s.waiting = [] ∧
      away s.worker = none := by
  cases h with
  | idle _ hdone habandoned hjob hwaiting haway =>
      exact ⟨hdone, habandoned, hjob, hwaiting, haway⟩
  | queued _ _ hbusy | working _ _ _ _ _ _ _ hbusy | answered hbusy =>
      exact absurd (hbusy.symm.trans hfree) (by decide)

theorem Phase.call (h : Phase s) (r : Request) :
    Phase { s with record := { s.record with calls := s.record.calls ++ [r] } } := by
  have hcalls : ∀ {caller : Nat} {own : Request}, s.record.calls[caller]? = some own →
      (s.record.calls ++ [r])[caller]? = some own := by
    intro caller own hcall
    obtain ⟨hlt, -⟩ := List.getElem?_eq_some_iff.mp hcall
    rw [List.getElem?_append_left hlt]
    exact hcall
  cases h with
  | idle hbusy hdone habandoned hjob hwaiting haway =>
      exact .idle hbusy hdone habandoned hjob hwaiting haway
  | queued own hcall hbusy hdone habandoned hjob hrequest hwaiting haway hunsent hkept =>
      exact .queued own (hcalls hcall) hbusy hdone habandoned hjob hrequest hwaiting haway
        hunsent hkept
  | working p own hcall haway hcaller hpjob hrequest hbusy hdone hjob hwaiting hunsent hkept
      hdiscard =>
      exact .working p own (hcalls hcall) haway hcaller hpjob hrequest hbusy hdone hjob hwaiting
        hunsent hkept hdiscard
  | answered hbusy hdone habandoned hjob hwaiting haway howner hanswered hanswer =>
      refine .answered hbusy hdone habandoned hjob hwaiting haway ?_ hanswered
        (hanswer.call howner)
      simp only [List.length_append]
      omega

/-- What of a link its phase is about. -/
def phaseView (s : Link) :=
  ((s.busy, s.done, s.abandoned, s.job, s.request, s.waiting), (s.owner, s.answered, s.result,
    s.reply, s.worker), (s.record.calls, s.record.sent, s.record.dropped, s.record.checks))

theorem Phase.congr (h : Phase s) {s' : Link} (hsame : phaseView s' = phaseView s) :
    Phase s' := by
  simp only [phaseView, Prod.mk.injEq] at hsame
  obtain ⟨⟨hb, hd, ha, hj, hreq, hw⟩, ⟨ho, han, hr, hrep, hworker⟩, hcalls, hsent, hdropped,
    hchecks⟩ := hsame
  cases h with
  | idle hbusy hdone habandoned hjob hwaiting haway =>
      exact .idle (hb.trans hbusy) (hd.trans hdone) (ha.trans habandoned) (hj.trans hjob)
        (hw.trans hwaiting) (by rw [hworker, haway])
  | queued r hcall hbusy hdone habandoned hjob hrequest hwaiting haway hunsent hkept =>
      refine .queued r (by rw [hcalls, ho, hcall]) (hb.trans hbusy) (hd.trans hdone)
        (ha.trans habandoned) (hj.trans hjob) (hreq.trans hrequest) (by rw [hw, hwaiting, ho])
        (by rw [hworker, haway]) ?_ (by rwa [hdropped, ho])
      rwa [Sent, hsent, ho]
  | working p r hcall haway hcaller hpjob hrequest hbusy hdone hjob hwaiting hunsent hkept
      hdiscard =>
      refine .working p r (by rw [hcalls, ho, hcall]) (by rw [hworker, haway])
        (hcaller.trans ho.symm) hpjob hrequest (hb.trans hbusy) (hd.trans hdone) (hj.trans hjob)
        (by rw [hw, hwaiting, ha, ho]) ?_ (by rwa [hdropped, ho]) (by rwa [hworker])
      rwa [hworker, Sent, hsent, ho]
  | answered hbusy hdone habandoned hjob hwaiting haway howner hanswered hanswer =>
      refine .answered (hb.trans hbusy) (hd.trans hdone) (ha.trans habandoned) (hj.trans hjob)
        (by rw [hw, hwaiting, ho]) (by rw [hworker, haway]) (by rwa [hcalls, ho])
        (by rw [han, hanswered, ho]) ?_
      rwa [Answer, hcalls, hchecks, ho, hr, hrep]

theorem no_answer {record : Record} {caller : Nat} {r : Request}
    (hcall : record.calls[caller]? = some r) (m : TestMessage)
    (hm : record.calls[caller]? = some (.send m)) :
    ¬ (failure r.job = code .ok ∨ failure r.job = code .rejected) := by
  obtain rfl : r = .send m := Option.some.inj (hcall.symm.trans hm)
  exact failure_no_answer _ rfl

theorem LinkInv.submit (h : LinkInv s) (r : Request) : LinkInv (submit s r) := by
  have hnew : (s.record.calls ++ [r])[s.record.calls.length]? = some r := by simp
  have hledger := h.ledger.call r
  unfold CentralLink.submit
  dsimp only
  split
  · refine ⟨(h.phase.call r).congr rfl, hledger.returning _ ?_ ?_ ?_ ?_ ?_⟩
    · simp
    · intro hmem
      obtain ⟨ret, hret, heq⟩ := List.mem_map.mp hmem
      have hlt := h.ledger.returned_call ret hret
      simp only at heq
      omega
    · intro caller hcaller
      cases hcaller
    · intro m hm hresult
      exact absurd hresult (no_answer hnew m hm)
    · intro caller hcaller
      have hlt := (h.ledger.waiting_call caller hcaller).1
      exact ⟨hcaller, by simp only; omega⟩
  · rename_i hrefused
    have hfree : s.busy = false := by
      by_contra hbusy
      exact hrefused (refuses_of_busy (by simpa using hbusy) _)
    obtain ⟨hdone, habandoned, hjob, hwaiting, haway⟩ := h.phase.idle_of_free hfree
    constructor
    · refine .queued r hnew rfl rfl rfl rfl rfl (by simp [hwaiting]) haway ?_ ?_
      · intro hsent
        obtain ⟨entry, hentry, heq⟩ := List.mem_map.mp hsent
        have hcall := h.ledger.sent_call entry hentry
        obtain ⟨hlt, -⟩ := List.getElem?_eq_some_iff.mp hcall
        simp only at heq
        omega
      · intro hdropped
        exact absurd (h.ledger.dropped_call _ hdropped) (lt_irrefl _)
    · refine { hledger with waiting_call := ?_ }
      intro caller hcaller
      simp only [hwaiting, List.nil_append, List.mem_singleton] at hcaller
      subst hcaller
      refine ⟨by simp, ?_⟩
      intro hmem
      obtain ⟨ret, hret, heq⟩ := List.mem_map.mp hmem
      have hlt := h.ledger.returned_call ret hret
      omega

theorem jobOf_eq {caller : Nat} {r : Request} (hcall : s.record.calls[caller]? = some r) :
    s.jobOf caller = r.job := by
  rw [Link.jobOf, List.getD_eq_getElem?_getD, hcall, Option.getD_some]

theorem LinkInv.collect (h : LinkInv s) (caller : Nat) : LinkInv (collect s caller) := by
  unfold CentralLink.collect
  split
  · rename_i hready
    obtain ⟨hmem, hdone'⟩ := hready
    cases h.phase with
    | idle _ hdone | queued _ _ _ hdone | working _ _ _ _ _ _ _ _ hdone =>
        exact absurd (hdone.symm.trans hdone') (by decide)
    | answered hbusy hdone habandoned hjob hwaiting haway howner hanswered hanswer =>
        rw [hwaiting, List.mem_singleton] at hmem
        subst hmem
        obtain ⟨hlt, hnew⟩ := h.ledger.waiting_call s.owner (by simp [hwaiting])
        have hleft : s.waiting.erase s.owner = [] := by simp [hwaiting]
        refine ⟨?_, h.ledger.returning _ hlt hnew ?_ ?_ ?_⟩
        · apply Phase.congr _ rfl
          exact .idle rfl rfl habandoned hjob hleft haway
        · intro caller hcaller
          exact (Option.mem_some.mp hcaller).symm.trans hanswered
        · intro m hm hresult
          have hsend : s.jobOf s.owner = .send := by rw [jobOf_eq hm]; rfl
          exact ⟨s.reply, if_pos ⟨hsend, hresult⟩, hanswer⟩
        · intro caller hcaller
          rw [hleft] at hcaller
          cases hcaller
  · exact h

theorem LinkInv.timeOut (h : LinkInv s) (caller : Nat) : LinkInv (timeOut s caller) := by
  unfold CentralLink.timeOut
  split
  · rename_i hready
    obtain ⟨hmem, hdone'⟩ := hready
    obtain ⟨hlt, hnew⟩ := h.ledger.waiting_call caller hmem
    cases h.phase with
    | idle _ _ _ _ hwaiting =>
        rw [hwaiting] at hmem
        cases hmem
    | answered _ hdone => exact absurd (hdone.symm.trans hdone') (by decide)
    | queued r hcall hbusy hdone habandoned hjob hrequest hwaiting haway hunsent hkept =>
        -- the worker has not taken the request, so the caller takes it back
        rw [hwaiting, List.mem_singleton] at hmem
        subst hmem
        have hpending : s.job ≠ none := by simp [hjob]
        have hleft : s.waiting.erase s.owner = [] := by simp [hwaiting]
        dsimp only
        rw [if_pos hpending]
        refine ⟨?_, (h.ledger.drop s.owner hlt hunsent).returning _ hlt hnew ?_ ?_ ?_⟩
        · apply Phase.congr _ rfl
          exact .idle rfl hdone habandoned rfl hleft haway
        · intro caller hcaller
          cases hcaller
        · intro m hm hresult
          rw [jobOf_eq hcall] at hresult
          exact absurd hresult (no_answer hcall m hm)
        · intro caller hcaller
          rw [hleft] at hcaller
          cases hcaller
    | working p r hcall haway hcaller hpjob hrequest hbusy hdone hjob hwaiting hunsent hkept
        hdiscard =>
        -- the worker is in the kernel; the request stays with it and its answer is dropped
        have hstays : s.abandoned = false := by
          by_contra habandoned
          rw [hwaiting, if_pos (by simpa using habandoned)] at hmem
          cases hmem
        rw [if_neg (by simp [hstays])] at hwaiting
        rw [hwaiting, List.mem_singleton] at hmem
        subst hmem
        have hpending : ¬ s.job ≠ none := by simp [hjob]
        have hleft : s.waiting.erase s.owner = [] := by simp [hwaiting]
        dsimp only
        rw [if_neg hpending]
        refine ⟨?_, h.ledger.returning _ hlt hnew ?_ ?_ ?_⟩
        · apply Phase.congr _ rfl
          exact .working p r hcall haway hcaller hpjob hrequest hbusy hdone hjob hleft hunsent hkept
            hdiscard
        · intro caller hcaller
          cases hcaller
        · intro m hm hresult
          rw [jobOf_eq hcall] at hresult
          exact absurd hresult (no_answer hcall m hm)
        · intro caller hcaller
          rw [hleft] at hcaller
          cases hcaller
  · exact h

theorem Phase.at_home (h : Phase s) (haway : away s.worker = none) {s' : Link}
    (hworker : away s'.worker = none)
    (hsame : s'.busy = s.busy ∧ s'.done = s.done ∧ s'.abandoned = s.abandoned ∧
      s'.job = s.job ∧ s'.request = s.request ∧ s'.waiting = s.waiting ∧ s'.owner = s.owner ∧
      s'.answered = s.answered ∧ s'.result = s.result ∧ s'.reply = s.reply ∧
      s'.record = s.record) : Phase s' := by
  obtain ⟨hb, hd, ha, hj, hreq, hw, ho, han, hr, hrep, hrec⟩ := hsame
  cases h with
  | idle hbusy hdone habandoned hjob hwaiting _ =>
      exact .idle (hb.trans hbusy) (hd.trans hdone) (ha.trans habandoned) (hj.trans hjob)
        (hw.trans hwaiting) hworker
  | queued r hcall hbusy hdone habandoned hjob hrequest hwaiting _ hunsent hkept =>
      rw [← ho, ← hrec] at hcall hunsent hkept
      exact .queued r hcall (hb.trans hbusy) (hd.trans hdone) (ha.trans habandoned)
        (hj.trans hjob) (hreq.trans hrequest) (by rw [hw, hwaiting, ho]) hworker hunsent hkept
  | working p r hcall hpaway => exact absurd (haway.symm.trans hpaway) (by simp)
  | answered hbusy hdone habandoned hjob hwaiting _ howner hanswered hanswer =>
      rw [← ho, ← hrec] at howner hanswer
      exact .answered (hb.trans hbusy) (hd.trans hdone) (ha.trans habandoned) (hj.trans hjob)
        (by rw [hw, hwaiting, ho]) hworker howner (by rw [han, hanswered, ho])
        (by rw [hr, hrep]; exact hanswer)

theorem LinkInv.pickUp (h : LinkInv s) (haway : away s.worker = none) : LinkInv (pickUp s) := by
  unfold CentralLink.pickUp
  split
  · exact ⟨h.phase.at_home haway rfl (by simp), h.ledger⟩
  · split
    · exact ⟨h.phase.at_home haway rfl (by simp), h.ledger⟩
    · rename_i job hpicked
      refine ⟨?_, h.ledger⟩
      cases h.phase with
      | idle _ _ _ hjob | answered _ _ _ hjob => exact absurd (hjob.symm.trans hpicked) (by simp)
      | working p r hcall hpaway => exact absurd (haway.symm.trans hpaway) (by simp)
      | queued r hcall hbusy hdone habandoned hjob hrequest hwaiting _ hunsent hkept =>
          have hsame : job = r.job := Option.some.inj (hpicked.symm.trans hjob)
          exact .working _ r hcall rfl rfl hsame hrequest hbusy hdone rfl
            (by simp [habandoned, hwaiting]) (fun _ => hunsent) hkept
            (fun _ heq => by cases heq)

theorem LinkInv.wake (h : LinkInv s) : LinkInv (wake s) := by
  unfold CentralLink.wake
  split
  · rename_i hhead
    have haway : away s.worker = none := by rw [hhead]; rfl
    split
    · dsimp only
      split
      · exact ⟨h.phase.at_home haway rfl (by simp), h.ledger⟩
      · exact LinkInv.pickUp ⟨h.phase.at_home haway haway (by simp), h.ledger⟩ haway
    · exact h.pickUp haway
  · exact h

theorem LinkInv.closed (h : LinkInv s) : LinkInv (closed s) := by
  unfold CentralLink.closed
  split
  · rename_i hclosing
    exact h.pickUp (by rw [hclosing]; rfl)
  · exact h

theorem LinkInv.invoke (h : LinkInv s) (armed : Bool) : LinkInv (invoke s armed) := by
  unfold CentralLink.invoke
  split
  · rename_i p hpicked
    have haway : away s.worker = some p := by rw [hpicked]; rfl
    cases h.phase with
    | idle _ _ _ _ _ hnone | queued _ _ _ _ _ _ _ _ hnone | answered _ _ _ _ _ hnone =>
        exact absurd (haway.symm.trans hnone) (by simp)
    | working p' r hcall hpaway hcaller hpjob hrequest hbusy hdone hjob hwaiting hunsent hkept =>
        obtain rfl : p = p' := Option.some.inj (haway.symm.trans hpaway)
        dsimp only
        split
        · rename_i hsend
          rw [hcaller]
          have hunsent := hunsent hpicked
          have hmessage : s.record.calls[s.owner]? = some (.send p.request) := by
            cases r with
            | connect => exact absurd (hpjob.symm.trans hsend.2) (by decide)
            | send m => rw [hcall, hrequest]; rfl
          refine ⟨?_, h.ledger.send _ _ hmessage hunsent hkept⟩
          exact .working p r hcall rfl hcaller hpjob hrequest hbusy hdone hjob hwaiting
            (fun heq => by cases heq) hkept (fun _ heq => by cases heq)
        · refine ⟨?_, h.ledger⟩
          exact .working p r hcall rfl hcaller hpjob hrequest hbusy hdone hjob hwaiting
            (fun heq => by cases heq) hkept (fun _ heq => by cases heq)
  · exact h

theorem LinkInv.finishSection (h : LinkInv s) {p : Picked} (haway : away s.worker = some p)
    {result : Int} {reply : ReplyMsg} (hanswer : Answer s.record p.caller result reply) :
    LinkInv (finishSection s p result reply) := by
  refine ⟨?_, ?_⟩
  · cases h.phase with
    | idle _ _ _ _ _ hnone | queued _ _ _ _ _ _ _ _ hnone | answered _ _ _ _ _ hnone =>
        exact absurd (haway.symm.trans hnone) (by simp)
    | working p' r hcall hpaway hcaller hpjob hrequest hbusy hdone hjob hwaiting hunsent hkept =>
        obtain rfl : p = p' := Option.some.inj (haway.symm.trans hpaway)
        obtain ⟨hlt, -⟩ := List.getElem?_eq_some_iff.mp hcall
        unfold CentralLink.finishSection
        dsimp only
        split
        · rename_i hgone
          exact .idle rfl hdone rfl hjob (by rw [hwaiting, if_pos hgone]) rfl
        · rename_i hstays
          rw [hcaller] at hanswer
          refine .answered hbusy rfl (by simpa using hstays) hjob ?_ rfl hlt hcaller hanswer
          rw [hwaiting, if_neg hstays]
  · unfold CentralLink.finishSection
    dsimp only
    split <;> exact h.ledger

theorem Answer.of_connect {record : Record} {caller : Nat} {r : Request}
    (hcall : record.calls[caller]? = some r) (hjob : r.job = .connect) (result : Int)
    (reply : ReplyMsg) : Answer record caller result reply := by
  intro m hm
  obtain rfl : r = .send m := Option.some.inj (hcall.symm.trans hm)
  cases hjob

theorem Answer.of_transport (record : Record) (caller : Nat) (reply : ReplyMsg) :
    Answer record caller (code .transport) reply := by
  intro m _ hresult
  exact absurd hresult (by decide)

theorem LinkInv.working (h : LinkInv s) {p : Picked} (haway : away s.worker = some p) :
    ∃ r, s.record.calls[p.caller]? = some r ∧ p.job = r.job ∧ p.request = r.message := by
  cases h.phase with
  | idle _ _ _ _ _ hnone | queued _ _ _ _ _ _ _ _ hnone | answered _ _ _ _ _ hnone =>
      exact absurd (haway.symm.trans hnone) (by simp)
  | working p' r hcall hpaway hcaller hpjob hrequest =>
      obtain rfl : p = p' := Option.some.inj (haway.symm.trans hpaway)
      exact ⟨r, by rw [hcaller]; exact hcall, hpjob, hrequest⟩

theorem LinkInv.keeps_job (h : LinkInv s) {p : Picked} (haway : away s.worker = some p)
    {s' : Link} (hworker : away s'.worker = some p) (hcalling : s'.worker ≠ .picked p)
    (hsame : s'.busy = s.busy ∧ s'.done = s.done ∧ s'.abandoned = s.abandoned ∧
      s'.job = s.job ∧ s'.waiting = s.waiting ∧ s'.owner = s.owner ∧
      s'.record.calls = s.record.calls ∧ s'.record.dropped = s.record.dropped)
    (hdiscard : ∀ reply, s'.worker = .discarding p reply → p.job = .connect)
    (hledger : Ledger s'.record s'.waiting) : LinkInv s' := by
  obtain ⟨hb, hd, ha, hj, hw, ho, hc, hdr⟩ := hsame
  refine ⟨?_, hledger⟩
  cases h.phase with
  | idle _ _ _ _ _ hnone | queued _ _ _ _ _ _ _ _ hnone | answered _ _ _ _ _ hnone =>
      exact absurd (haway.symm.trans hnone) (by simp)
  | working p' r hcall hpaway hcaller hpjob hrequest hbusy hdone hjob hwaiting hunsent hkept =>
      obtain rfl : p = p' := Option.some.inj (haway.symm.trans hpaway)
      rw [← ho, ← hc] at hcall
      rw [← ho, ← hdr] at hkept
      exact .working p r hcall hworker (hcaller.trans ho.symm) hpjob hrequest (hb.trans hbusy)
        (hd.trans hdone) (hj.trans hjob) (by rw [hw, hwaiting, ha, ho])
        (fun heq => absurd heq hcalling) hkept
        (fun reply heq => hpjob.symm.trans (hdiscard reply heq))

theorem LinkInv.finishConnect (h : LinkInv s) {p : Picked} {armed : Bool}
    (hworker : s.worker = .calling p armed) (hjob : p.job = .connect) (found : Option Nat) :
    LinkInv (finishConnect s p found) := by
  have haway : away s.worker = some p := by rw [hworker]; rfl
  obtain ⟨r, hcall, hpjob, -⟩ := h.working haway
  have hconnect : r.job = .connect := hpjob.symm.trans hjob
  cases found with
  | none => exact h.finishSection haway (.of_connect hcall hconnect _ _)
  | some coid =>
      unfold CentralLink.finishConnect
      dsimp only
      split
      · have hconnected : LinkInv { s with coid := some coid, connected := true } :=
          h.keeps_job haway haway (by simp [hworker]) (by simp) (by simp [hworker]) h.ledger
        exact hconnected.finishSection haway (.of_connect hcall hconnect _ _)
      · exact h.keeps_job haway rfl (by simp) (by simp) (fun _ _ => hjob) h.ledger

theorem LinkInv.finishSend (h : LinkInv s) {p : Picked} {armed : Bool}
    (hworker : s.worker = .calling p armed) (kernel : KernelResult) :
    LinkInv (finishSend s p armed kernel) := by
  have haway : away s.worker = some p := by rw [hworker]; rfl
  obtain ⟨r, hcall, hpjob, hrequest⟩ := h.working haway
  unfold CentralLink.finishSend
  split
  · exact h.finishSection haway (.of_transport _ _ _)
  · split
    · exact h.finishSection haway (.of_transport _ _ _)
    · dsimp only
      have hchecked : LinkInv { s with record := { s.record with checks := s.record.checks ++
          [⟨p.caller, p.request, kernel, p.generation, s.generation⟩] } } :=
        h.keeps_job haway haway (by simp [hworker]) (by simp) (by simp [hworker])
          (h.ledger.check _)
      refine hchecked.finishSection haway ?_
      intro m hm hresult
      split at hresult
      · rename_i hcurrent
        obtain rfl : r = .send m := Option.some.inj (hcall.symm.trans hm)
        have hgeneration : p.generation = s.generation := by
          simp only [Link.current, Bool.and_eq_true, beq_iff_eq] at hcurrent
          exact hcurrent.2
        refine ⟨_, List.mem_append_right _ (List.mem_singleton_self _), rfl, hrequest, ?_,
          hgeneration, rfl⟩
        rw [if_pos hcurrent, hrequest]
        rfl
      · exact absurd hresult (by decide)

theorem LinkInv.finish (h : LinkInv s) (kernel : KernelResult) : LinkInv (finish s kernel) := by
  unfold CentralLink.finish
  split
  · rename_i p armed hworker
    split
    · rename_i hjob
      exact h.finishConnect hworker hjob _
    · exact h.finishSend hworker kernel
  · exact h

theorem LinkInv.discarded (h : LinkInv s) : LinkInv (discarded s) := by
  unfold CentralLink.discarded
  split
  · rename_i p reply hworker
    have haway : away s.worker = some p := by rw [hworker]; rfl
    apply h.finishSection haway
    cases h.phase with
    | idle _ _ _ _ _ hnone | queued _ _ _ _ _ _ _ _ hnone | answered _ _ _ _ _ hnone =>
        exact absurd (haway.symm.trans hnone) (by simp)
    | working p' r hcall hpaway hcaller _ _ _ _ _ _ _ _ hdiscard =>
        obtain rfl : p = p' := Option.some.inj (haway.symm.trans hpaway)
        rw [hcaller]
        exact .of_connect hcall (hdiscard reply hworker) _ _
  · exact h

theorem LinkInv.close (h : LinkInv s) : LinkInv (close s) := by
  unfold CentralLink.close
  dsimp only
  split
  · exact ⟨h.phase.congr rfl, h.ledger⟩
  · rename_i job hpending
    cases h.phase with
    | idle _ _ _ hjob | answered _ _ _ hjob => exact absurd (hjob.symm.trans hpending) (by simp)
    | working _ _ _ _ _ _ _ _ _ hjob => exact absurd (hjob.symm.trans hpending) (by simp)
    | queued r hcall hbusy hdone habandoned hjob hrequest hwaiting haway hunsent hkept =>
        obtain ⟨hlt, -⟩ := List.getElem?_eq_some_iff.mp hcall
        obtain rfl : job = r.job := Option.some.inj (hpending.symm.trans hjob)
        refine ⟨?_, h.ledger.drop s.owner hlt hunsent⟩
        refine .answered hbusy rfl habandoned rfl hwaiting haway hlt rfl ?_
        intro m hm hresult
        exact absurd hresult (no_answer hcall m hm)

theorem LinkInv.destroy (h : LinkInv s) : LinkInv (destroy s) :=
  ⟨h.phase.congr rfl, h.ledger⟩

theorem LinkInv.detach (h : LinkInv s) : LinkInv (detach s) := by
  unfold CentralLink.detach
  split
  · exact h
  · exact ⟨h.phase.congr rfl, h.ledger⟩

end Steps

theorem LinkInv.step {s : Link} (h : LinkInv s) (a : LinkAction) : LinkInv (linkStep s a) := by
  cases a with
  | submit r => exact h.submit r
  | collect caller => exact h.collect caller
  | timeOut caller => exact h.timeOut caller
  | wake => exact h.wake
  | closed => exact h.closed
  | invoke armed => exact h.invoke armed
  | finish kernel => exact h.finish kernel
  | discarded => exact h.discarded
  | close => exact h.close
  | destroy => exact h.destroy
  | detach => exact h.detach

theorem linkInv_run (actions : List LinkAction) : LinkInv (run linkStep linkInit actions) :=
  run_invariant (fun _ a h => h.step a) linkInv_init actions

theorem LinkInv.released {s : Link} (h : LinkInv s) (haway : away s.worker = none)
    (hwaiting : s.waiting = []) : s.busy = false := by
  cases h.phase with
  | idle hbusy => exact hbusy
  | queued _ _ _ _ _ _ _ hwait | answered _ _ _ _ hwait =>
      exact absurd (hwait.symm.trans hwaiting) (by simp)
  | working p r _ hpaway => exact absurd (haway.symm.trans hpaway) (by simp)

/-- In every interleaving a request goes to `MsgSend` at most once, and never
after it was taken back; a caller is told OK or REJECTED only by a reply to its
own request that was validated while the generation of the link stood; every
result goes to the caller it was written for, which returns once; and a link is
not left busy when its caller is gone and the worker is back. -/
theorem requests_answered_once (actions : List LinkAction) :
    let s := run linkStep linkInit actions
    ((s.record.sent.map Prod.fst).Nodup ∧
      ∀ entry ∈ s.record.sent, s.record.calls[entry.1]? = some (.send entry.2)) ∧
    (∀ caller ∈ s.record.dropped, caller ∉ s.record.sent.map Prod.fst) ∧
    (∀ ret ∈ s.record.returns, ∀ m, s.record.calls[ret.caller]? = some (.send m) →
      ret.result = code .ok ∨ ret.result = code .rejected →
        ∃ check ∈ s.record.checks, check.caller = ret.caller ∧ check.request = m ∧
          code (validateReply m check.kernel.reply check.kernel.status) = ret.result ∧
          check.submitted = check.finished ∧ ret.reply = some check.kernel.reply) ∧
    ((s.record.returns.map Return.caller).Nodup ∧
      ∀ ret ∈ s.record.returns, ∀ caller ∈ ret.writtenFor, caller = ret.caller) ∧
    (away s.worker = none ∧ s.waiting = [] → s.busy = false) := by
  intro s
  have hinv : LinkInv s := linkInv_run actions
  have hledger := hinv.ledger
  refine ⟨⟨hledger.sent_once, hledger.sent_call⟩, hledger.dropped_unsent, ?_,
    ⟨hledger.returned_once, hledger.returned_own⟩, fun h => hinv.released h.1 h.2⟩
  intro ret hret m hm hresult
  obtain ⟨reply, hreply, hanswer⟩ := hledger.returned_answer ret hret m hm hresult
  obtain ⟨check, hcheck, hcaller, hrequest, hcode, hgeneration, hsame⟩ := hanswer m hm hresult
  exact ⟨check, hcheck, hcaller, hrequest, hcode, hgeneration, by rw [hreply, hsame]⟩

end TrafficLight.LinkRequests
