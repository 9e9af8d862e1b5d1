import TrafficLight.AllOrNothing

namespace TrafficLight.CommandBooks

open TrafficLight.Runs
open TrafficLight.Protocol
open TrafficLight.CentralFrames
open TrafficLight.RingQueue
open TrafficLight.CommandQueue
open TrafficLight.QueueOperations
open TrafficLight.CommandAdmission
open TrafficLight.QueueOrder
open TrafficLight.CommandCycles
open TrafficLight.AllOrNothing

/-- Entries and queued records. -/
structure Matched (s : Central) : Prop where
  bounded : Bounded s
  distinct : ∀ slot other, (s.commands slot).id ≠ 0 →
    (s.commands other).id = (s.commands slot).id → other = slot
  recorded : ∀ peer, ∀ work ∈ entries s peer, ∃ slot, work.id ≠ 0 ∧
    (s.commands slot).id = work.id ∧ (s.commands slot).peer = peer ∧
      (s.commands slot).state = .queued
  listed : ∀ slot, (s.commands slot).id ≠ 0 → (s.commands slot).state = .queued →
    ∃ work ∈ entries s (s.commands slot).peer, work.id = (s.commands slot).id
  nodup : ∀ peer, ((entries s peer).map QueuedCommand.id).Nodup

/-- Requests under way and records that are being sent. -/
structure Flying (s : Central) : Prop where
  recorded : ∀ peer work, s.inFlight peer = some work → ∃ slot, work.id ≠ 0 ∧
    (s.commands slot).id = work.id ∧ (s.commands slot).peer = peer ∧
      (s.commands slot).state = .sending
  taken : ∀ slot, (s.commands slot).id ≠ 0 → (s.commands slot).state = .sending →
    ∃ work, s.inFlight (s.commands slot).peer = some work ∧ work.id = (s.commands slot).id

/-- Since the id was given to a request it has not been handed over. -/
def Awaiting (id : UInt16) : List QueueEvent → Prop
  | [] => False
  | .queued record :: older => record.id = id ∨ Awaiting id older
  | .handed other _ :: older => other ≠ id ∧ Awaiting id older
  | _ :: older => Awaiting id older

/-- Every id that is handed over was given to a request since it was last. -/
def HandedOnce (trace : List QueueEvent) : Prop :=
  ∀ id peer older, (.handed id peer :: older) <:+ trace → Awaiting id older

structure Traced (s : Central) : Prop where
  awaiting : ∀ slot, (s.commands slot).id ≠ 0 → (s.commands slot).state = .queued →
    Awaiting (s.commands slot).id s.trace
  once : HandedOnce s.trace

structure Books (s : Central) : Prop where
  matched : Matched s
  flying : Flying s
  traced : Traced s

/-- The states that a request may go to. -/
def nextStates : RequestState → List RequestState
  | .queued => [.sending, .canceled, .expired]
  | .sending => [.accepted, .rejected, .unconfirmed]
  | _ => []

/-- A request goes one state further, or a record of none under way is replaced. -/
def Moves (record record' : CommandRecord) : Prop :=
  (CommandRecord.file record' = CommandRecord.file record ∧
      (record'.state = record.state ∨ record'.state ∈ nextStates record.state)) ∨
    (record.busy = false ∧ record'.id ≠ 0 ∧ record'.state = .queued)

theorem Moves.refl (record : CommandRecord) : Moves record record := Or.inl ⟨rfl, Or.inl rfl⟩

variable {routes : Routes} {s s' : Central}

theorem Matched.findCommand_eq (h : Matched s) {id : UInt16} {slot : Fin 64} (hid : id ≠ 0)
    (hslot : (s.commands slot).id = id) : findCommand s id = some slot := by
  apply findCommand_of_unique hid hslot
  intro other hne hother
  exact hne (h.distinct slot other (hslot ▸ hid) (hother.trans hslot.symm))

/-- An event that is not a hand-over. -/
def Plain : QueueEvent → Prop
  | .handed _ _ => False
  | _ => True

theorem awaiting_append {id : UInt16} {events trace : List QueueEvent}
    (hplain : ∀ event ∈ events, Plain event) (h : Awaiting id trace) :
    Awaiting id (events ++ trace) := by
  induction events with
  | nil => exact h
  | cons event events ih =>
      obtain ⟨hevent, hrest⟩ := List.forall_mem_cons.mp hplain
      cases event with
      | queued record => exact Or.inr (ih hrest)
      | handed other peer => exact hevent.elim
      | finished | resumed => exact ih hrest

theorem HandedOnce.append {events trace : List QueueEvent} (h : HandedOnce trace)
    (hplain : ∀ event ∈ events, Plain event) : HandedOnce (events ++ trace) := by
  intro id peer older hsuffix
  induction events with
  | nil => exact h id peer older hsuffix
  | cons event events ih =>
      obtain ⟨hevent, hrest⟩ := List.forall_mem_cons.mp hplain
      rcases List.suffix_cons_iff.mp hsuffix with heq | hsuffix
      · obtain ⟨rfl, -⟩ := List.cons.inj heq
        exact hevent.elim
      · exact ih hrest hsuffix

theorem Traced.leave (h : Traced s) (hfiles : SameFiles s s')
    (hqueued : ∀ slot, (s'.commands slot).state = .queued → (s.commands slot).state = .queued)
    {events : List QueueEvent} (htrace : s'.trace = events ++ s.trace)
    (hplain : ∀ event ∈ events, Plain event) : Traced s' := by
  constructor
  · intro slot hid hstate
    rw [hfiles.id] at hid ⊢
    rw [htrace]
    exact awaiting_append hplain (h.awaiting slot hid (hqueued slot hstate))
  · rw [htrace]
    exact h.once.append hplain

theorem Flying.congr (h : Flying s) (hfiles : SameFiles s s')
    (hsending : ∀ slot, (s'.commands slot).state = .sending ↔ (s.commands slot).state = .sending)
    (hflight : s'.inFlight = s.inFlight) : Flying s' := by
  constructor
  · intro peer work hwork
    rw [hflight] at hwork
    obtain ⟨slot, hid, hrecord, hpeer, hstate⟩ := h.recorded peer work hwork
    exact ⟨slot, hid, (hfiles.id slot).trans hrecord, (hfiles.peer slot).trans hpeer,
      (hsending slot).mpr hstate⟩
  · intro slot hid hstate
    rw [hfiles.id] at hid
    rw [hfiles.id, hfiles.peer, hflight]
    exact h.taken slot hid ((hsending slot).mp hstate)

theorem Matched.leave (h : Matched s) (hfiles : SameFiles s s')
    (hqueued : ∀ slot, (s'.commands slot).state = .queued → (s.commands slot).state = .queued)
    (hbounded : Bounded s') (keep : Fin 8 → QueuedCommand → Bool)
    (hentries : ∀ peer, entries s' peer = (entries s peer).filter (keep peer))
    (hkeep : ∀ peer, ∀ work ∈ entries s peer, ∀ slot, (s.commands slot).id = work.id →
      (keep peer work = true ↔ (s'.commands slot).state = .queued)) : Matched s' := by
  refine ⟨hbounded, ?_, ?_, ?_, ?_⟩
  · intro slot other hid heq
    rw [hfiles.id] at hid
    rw [hfiles.id, hfiles.id] at heq
    exact h.distinct slot other hid heq
  · intro peer work hwork
    rw [hentries] at hwork
    obtain ⟨hmem, hkept⟩ := List.mem_filter.mp hwork
    obtain ⟨slot, hid, hrecord, hpeer, -⟩ := h.recorded peer work hmem
    exact ⟨slot, hid, (hfiles.id slot).trans hrecord, (hfiles.peer slot).trans hpeer,
      (hkeep peer work hmem slot hrecord).mp hkept⟩
  · intro slot hid hstate
    rw [hfiles.id] at hid ⊢
    rw [hfiles.peer]
    obtain ⟨work, hwork, hrecord⟩ := h.listed slot hid (hqueued slot hstate)
    refine ⟨work, ?_, hrecord⟩
    rw [hentries]
    exact List.mem_filter.mpr ⟨hwork, (hkeep _ work hwork slot hrecord.symm).mpr hstate⟩
  · intro peer
    rw [hentries]
    exact (h.nodup peer).sublist (List.filter_sublist.map _)

/-- Some queued requests end without being sent. -/
structure Leaves (s s' : Central) : Prop where
  files : SameFiles s s'
  states : ∀ slot, (s'.commands slot).state = (s.commands slot).state ∨
    ((s.commands slot).state = .queued ∧
      ((s'.commands slot).state = .canceled ∨ (s'.commands slot).state = .expired))
  flight : s'.inFlight = s.inFlight
  trace : ∃ events, s'.trace = events ++ s.trace ∧ ∀ event ∈ events, Plain event

theorem Leaves.refl (s : Central) : Leaves s s :=
  ⟨fun _ => rfl, fun _ => Or.inl rfl, rfl, [], rfl, fun _ hmem => by cases hmem⟩

theorem Leaves.trans {s'' : Central} (h : Leaves s s') (h' : Leaves s' s'') : Leaves s s'' := by
  obtain ⟨events, htrace, hplain⟩ := h.trace
  obtain ⟨events', htrace', hplain'⟩ := h'.trace
  constructor
  · exact fun slot => (h'.files slot).trans (h.files slot)
  · intro slot
    rcases h'.states slot with hsame' | ⟨hqueued', hended'⟩
    · rw [hsame']
      exact h.states slot
    · rcases h.states slot with hsame | ⟨-, hended⟩
      · exact Or.inr ⟨hsame ▸ hqueued', hended'⟩
      · rw [hqueued'] at hended
        simp at hended
  · exact h'.flight.trans h.flight
  · refine ⟨events' ++ events, ?_, ?_⟩
    · rw [htrace', htrace, List.append_assoc]
    · intro event hmem
      exact (List.mem_append.mp hmem).elim (hplain' event) (hplain event)

theorem Leaves.moves (h : Leaves s s') (slot : Fin 64) :
    Moves (s.commands slot) (s'.commands slot) := by
  refine Or.inl ⟨h.files slot, ?_⟩
  rcases h.states slot with hsame | ⟨hqueued, hended | hended⟩
  · exact Or.inl hsame
  · rw [hqueued, hended]
    decide
  · rw [hqueued, hended]
    decide

theorem Leaves.queued (h : Leaves s s') (slot : Fin 64)
    (hstate : (s'.commands slot).state = .queued) : (s.commands slot).state = .queued := by
  rcases h.states slot with hsame | ⟨hqueued, -⟩
  · rw [← hsame, hstate]
  · exact hqueued

theorem Leaves.sending (h : Leaves s s') (slot : Fin 64) :
    (s'.commands slot).state = .sending ↔ (s.commands slot).state = .sending := by
  rcases h.states slot with hsame | ⟨hqueued, hended | hended⟩
  · rw [hsame]
  · rw [hqueued, hended]
    decide
  · rw [hqueued, hended]
    decide

theorem leaves_finishAll {result : RequestState} {now : Nat} {slots : List (Fin 64)}
    (hresult : result = .expired ∨ result = .canceled)
    (hslots : ∀ slot ∈ slots, (s.commands slot).state = .queued) :
    Leaves s (finishAll result now s slots) := by
  constructor
  · exact sameFiles_finishAll result now s slots
  · intro slot
    rw [finishAll_commands]
    split
    · rename_i hmem
      exact Or.inr ⟨hslots slot hmem, hresult.symm⟩
    · exact Or.inl rfl
  · rw [finishAll_frame]
  · refine ⟨_, finishAll_trace result now s slots, ?_⟩
    intro event hmem
    obtain ⟨slot, -, rfl⟩ := List.mem_map.mp hmem
    trivial

theorem Matched.record (h : Matched s) {peer : Fin 8} {work : QueuedCommand}
    (hwork : work ∈ entries s peer) {slot : Fin 64} (hslot : (s.commands slot).id = work.id) :
    work.id ≠ 0 ∧ (s.commands slot).peer = peer ∧ (s.commands slot).state = .queued := by
  obtain ⟨found, hid, hrecord, hpeer, hstate⟩ := h.recorded peer work hwork
  obtain rfl : slot = found :=
    h.distinct found slot (hrecord ▸ hid) (hslot.trans hrecord.symm)
  exact ⟨hid, hpeer, hstate⟩

theorem Books.finishAll (h : Books s) {result : RequestState} {now : Nat}
    {slots : List (Fin 64)} {queue : Fin 8 → Ring 32 QueuedCommand}
    (hresult : result = .expired ∨ result = .canceled)
    (hslots : ∀ slot ∈ slots, (s.commands slot).state = .queued)
    (hcount : ∀ peer, (queue peer).count ≤ 32) (keep : Fin 8 → QueuedCommand → Bool)
    (hqueue : ∀ peer, (queue peer).view = (entries s peer).filter (keep peer))
    (hkeep : ∀ peer, ∀ work ∈ entries s peer, ∀ slot, (s.commands slot).id = work.id →
      (keep peer work = true ↔ slot ∉ slots)) :
    Books { finishAll result now s slots with queue } ∧
      Leaves s { finishAll result now s slots with queue } := by
  have hfinished := @leaves_finishAll s result now slots hresult hslots
  have hleaves : Leaves s { QueueOperations.finishAll result now s slots with queue } :=
    ⟨hfinished.files, hfinished.states, hfinished.flight, hfinished.trace⟩
  obtain ⟨events, htrace, hplain⟩ := hleaves.trace
  refine ⟨⟨?_, ?_, ?_⟩, hleaves⟩
  · apply h.matched.leave hleaves.files hleaves.queued hcount keep hqueue
    intro peer work hwork slot hslot
    rw [hkeep peer work hwork slot hslot]
    show _ ↔ ((QueueOperations.finishAll result now s slots).commands slot).state = .queued
    rw [finishAll_commands]
    split
    · rename_i hmem
      rcases hresult with rfl | rfl <;> simp [hmem]
    · rename_i hmem
      simp [hmem, (h.matched.record hwork hslot).2.2]
  · exact h.flying.congr hleaves.files hleaves.sending hleaves.flight
  · exact h.traced.leave hleaves.files hleaves.queued htrace hplain

theorem mem_superseded {target : Option (Fin 6)} {works : List QueuedCommand} {slot : Fin 64} :
    slot ∈ superseded s target works ↔ ∃ work ∈ works, supersedes s target work = some slot :=
  List.mem_filterMap

theorem findCommand_of_supersedes {target : Option (Fin 6)} {work : QueuedCommand}
    {slot : Fin 64} (h : supersedes s target work = some slot) :
    findCommand s work.id = some slot := by
  unfold supersedes at h
  exact (Option.eq_some_of_filter_eq_some h)

theorem Books.cancelPeer (h : Books s) (target : Option (Fin 6)) (now : Nat) (peer : Fin 8) :
    Books (cancelPeer target now s peer) ∧ Leaves s (cancelPeer target now s peer) := by
  have hbounded := h.matched.bounded
  have hslot : ∀ slot ∈ superseded s target (s.queue peer).view,
      ∃ work ∈ entries s peer, supersedes s target work = some slot ∧
        (s.commands slot).id = work.id := by
    intro slot hmem
    obtain ⟨work, hwork, hsupersedes⟩ := mem_superseded.mp hmem
    have hfind := findCommand_of_supersedes hsupersedes
    exact ⟨work, hwork, hsupersedes, (findCommand_some hfind).2⟩
  rw [cancelPeer_eq s target now peer (hbounded peer)]
  apply h.finishAll (Or.inr rfl) ?_ ?_
    fun other work => decide (other ≠ peer) || keeps s target work
  · intro other
    by_cases hother : other = peer
    · subst hother
      rw [Function.update_self, Ring.view_compact (hbounded other)]
      simp [entries]
    · rw [Function.update_of_ne hother]
      simp [entries, hother]
  · intro other work hwork slot hid
    obtain ⟨hne, hpeer, -⟩ := h.matched.record hwork hid
    by_cases hother : other = peer
    · subst hother
      simp only [ne_eq, not_true_eq_false, decide_false, Bool.false_or]
      have hfind := h.matched.findCommand_eq hne hid
      constructor
      -- a record is finished exactly when its entry is dropped
      · intro hkeep hmem
        obtain ⟨work', _, hsupersedes, hid'⟩ := hslot slot hmem
        have hsame : supersedes s target work = supersedes s target work' := by
          unfold supersedes
          rw [← hid, hid']
        rw [keeps, hsame, hsupersedes] at hkeep
        cases hkeep
      · intro hfresh
        unfold keeps
        cases hfound : supersedes s target work with
        | none => rfl
        | some found =>
            have hsame := findCommand_of_supersedes hfound
            rw [hfind] at hsame
            obtain rfl := Option.some.inj hsame
            exact absurd (mem_superseded.mpr ⟨work, hwork, hfound⟩) hfresh
    · simp only [ne_eq, hother, not_false_eq_true, decide_true, Bool.true_or, true_iff]
      intro hmem
      obtain ⟨work', hwork', -, hid'⟩ := hslot slot hmem
      exact hother (hpeer.symm.trans (h.matched.record hwork' hid').2.1)
  · intro slot hmem
    obtain ⟨work, hwork, -, hid⟩ := hslot slot hmem
    exact (h.matched.record hwork hid).2.2
  · intro other
    have hkept := @bounded_cancelPeer s target now peer hbounded other
    rwa [cancelPeer_eq s target now peer (hbounded peer)] at hkept

theorem Books.discardQueue (h : Books s) (peer : Fin 8) (now : Nat) :
    Books (discardQueue s peer now) ∧ Leaves s (discardQueue s peer now) := by
  have hmem : ∀ slot, slot ∈ discarded s peer ↔ (s.commands slot).id ≠ 0 ∧
      (s.commands slot).peer = peer ∧ (s.commands slot).state = .queued := by
    intro slot
    simp [discarded]
  rw [discardQueue_eq]
  apply h.finishAll (Or.inr rfl) ?_ ?_ fun other _ => decide (other ≠ peer)
  · intro other
    by_cases hother : other = peer
    · subst hother
      rw [Function.update_self]
      simp [Ring.view]
    · rw [Function.update_of_ne hother]
      simp [entries, hother]
  · intro other work hwork slot hid
    obtain ⟨hne, hpeer, hstate⟩ := h.matched.record hwork hid
    rw [hmem, hid, hpeer, hstate]
    simp [hne]
  · exact fun slot hslot => ((hmem slot).mp hslot).2.2
  · intro other
    by_cases hother : other = peer
    · subst hother
      rw [Function.update_self]
      exact Nat.zero_le _
    · rw [Function.update_of_ne hother]
      exact h.matched.bounded other

theorem Books.foldl {pass : Central → Fin 8 → Central}
    (hpass : ∀ s peer, Books s → Books (pass s peer) ∧ Leaves s (pass s peer)) (h : Books s)
    (order : List (Fin 8)) : Books (order.foldl pass s) ∧ Leaves s (order.foldl pass s) := by
  induction order generalizing s with
  | nil => exact ⟨h, Leaves.refl s⟩
  | cons peer order ih =>
      obtain ⟨hbooks, hleaves⟩ := hpass s peer h
      obtain ⟨hrest, hleaves'⟩ := ih hbooks
      exact ⟨hrest, hleaves.trans hleaves'⟩

theorem Books.congr (h : Books s) (hqueue : s'.queue = s.queue)
    (hcommands : s'.commands = s.commands) (hflight : s'.inFlight = s.inFlight)
    {events : List QueueEvent} (htrace : s'.trace = events ++ s.trace)
    (hplain : ∀ event ∈ events, Plain event) : Books s' := by
  have hfiles : SameFiles s s' := fun slot => by rw [hcommands]
  have hbounded : Bounded s' := fun peer => by rw [hqueue]; exact h.matched.bounded peer
  constructor
  · apply h.matched.leave hfiles (fun slot => by rw [hcommands]; exact id) hbounded
      (fun _ _ => true)
    · intro peer
      rw [entries, hqueue]
      simp [entries]
    · intro peer work hwork slot hid
      rw [hcommands]
      simp [(h.matched.record hwork hid).2.2]
  · exact h.flying.congr hfiles (fun slot => by rw [hcommands]) hflight
  · exact h.traced.leave hfiles (fun slot => by rw [hcommands]; exact id) htrace hplain

theorem eraseP_eq_filter {l : List QueuedCommand} {p : QueuedCommand → Bool}
    {work : QueuedCommand} (hnodup : (l.map QueuedCommand.id).Nodup)
    (hfind : l.find? p = some work) :
    l.eraseP p = l.filter fun other => decide (other.id ≠ work.id) := by
  obtain ⟨hp, before, after, rfl, hbefore⟩ := List.find?_eq_some_iff_append.mp hfind
  have hlate : ∀ earlier ∈ before, ¬ p earlier = true := by
    intro earlier hmem
    simpa using hbefore earlier hmem
  rw [List.map_append, List.map_cons, List.nodup_middle, List.nodup_cons,
    ← List.map_append] at hnodup
  have hother : ∀ other ∈ before ++ after, other.id ≠ work.id := by
    intro other hmem hid
    exact hnodup.1 (List.mem_map.mpr ⟨other, hmem, hid⟩)
  have hkept : (before ++ after).filter (fun other => decide (other.id ≠ work.id)) =
      before ++ after :=
    List.filter_eq_self.mpr fun other hmem => decide_eq_true (hother other hmem)
  rw [List.eraseP_append_right _ hlate, List.eraseP_cons_of_pos hp, List.filter_append,
    List.filter_cons_of_neg (by simp), ← List.filter_append, hkept]

theorem Matched.taken (h : Matched s) {peer : Fin 8} {p : QueuedCommand → Bool} {i : Nat}
    (hposition : (s.queue peer).position p = some i) (other : Fin 8) :
    (s.queue peer).get i ∈ entries s peer ∧
    entries (withoutEntry s peer i) other =
        (entries s other).filter (fun work => decide (work.id ≠ ((s.queue peer).get i).id)) ∧
      ((withoutEntry s peer i).queue other).count ≤ 32 := by
  have hfind := Ring.find_view_of_position hposition
  have hwork : (s.queue peer).get i ∈ entries s peer := List.mem_of_find?_eq_some hfind
  refine ⟨hwork, ?_⟩
  by_cases hother : other = peer
  · subst hother
    have hqueue : (withoutEntry s other i).queue other = (s.queue other).eraseAt i :=
      Function.update_self ..
    rw [entries, hqueue, Ring.view_eraseAt_position (h.bounded other) hposition]
    exact ⟨eraseP_eq_filter (h.nodup other) hfind, (Nat.sub_le _ _).trans (h.bounded other)⟩
  · have hqueue : (withoutEntry s peer i).queue other = s.queue other :=
      Function.update_of_ne hother ..
    rw [entries, hqueue]
    refine ⟨?_, h.bounded other⟩
    symm
    apply List.filter_eq_self.mpr
    intro work hmem
    apply decide_eq_true
    intro hid
    obtain ⟨slot, _, hrecord, hpeer, _⟩ := h.recorded other work hmem
    exact hother (hpeer.symm.trans (h.record hwork (hrecord.trans hid)).2.1)

/-- One record goes to another state. -/
structure Changes (s s' : Central) (slot : Fin 64) (state : RequestState) : Prop where
  files : SameFiles s s'
  state : (s'.commands slot).state = state
  others : ∀ other, other ≠ slot → s'.commands other = s.commands other

theorem changes_update {slot : Fin 64} {record : CommandRecord}
    (hcommands : s'.commands = Function.update s.commands slot record)
    (hfile : CommandRecord.file record = CommandRecord.file (s.commands slot)) :
    Changes s s' slot record.state := by
  constructor
  · intro other
    by_cases hother : other = slot
    · rw [hother, hcommands, Function.update_self, hfile]
    · rw [hcommands, Function.update_of_ne hother]
  · rw [hcommands, Function.update_self]
  · intro other hother
    rw [hcommands, Function.update_of_ne hother]

theorem Changes.still {slot : Fin 64} {state : RequestState} (h : Changes s s' slot state)
    (hstate : state ≠ .queued) {other : Fin 64} (hqueued : (s'.commands other).state = .queued) :
    other ≠ slot ∧ (s.commands other).state = .queued := by
  have hother : other ≠ slot := by
    rintro rfl
    exact hstate (h.state.symm.trans hqueued)
  exact ⟨hother, h.others other hother ▸ hqueued⟩

theorem Changes.moves {slot : Fin 64} {state : RequestState} (h : Changes s s' slot state)
    (hnext : state ∈ nextStates (s.commands slot).state) (other : Fin 64) :
    Moves (s.commands other) (s'.commands other) := by
  by_cases hother : other = slot
  · rw [hother]
    exact Or.inl ⟨h.files slot, Or.inr (h.state ▸ hnext)⟩
  · rw [h.others other hother]
    exact Moves.refl _

theorem Matched.hand (h : Matched s) {slot : Fin 64} (hchanges : Changes s s' slot .sending)
    (hid : (s.commands slot).id ≠ 0) (hbounded : Bounded s')
    (hentries : ∀ peer, entries s' peer =
      (entries s peer).filter fun work => decide (work.id ≠ (s.commands slot).id)) :
    Matched s' := by
  apply h.leave hchanges.files (fun other hstate => (hchanges.still (by decide) hstate).2) hbounded
    (fun _ work => decide (work.id ≠ (s.commands slot).id)) hentries
  intro peer work hwork other hother
  rw [decide_eq_true_iff]
  constructor
  · intro hids
    rw [hchanges.others other (by rintro rfl; exact hids hother.symm)]
    exact (h.record hwork hother).2.2
  · intro hstate hids
    exact (hchanges.still (by decide) hstate).1
      (h.distinct slot other hid (hother.trans hids))

theorem Flying.hand (h : Flying s) {slot : Fin 64} (hchanges : Changes s s' slot .sending)
    {work : QueuedCommand} (hid : work.id ≠ 0) (hwork : (s.commands slot).id = work.id)
    (hqueued : (s.commands slot).state = .queued)
    (hidle : s.inFlight (s.commands slot).peer = none)
    (hflight : s'.inFlight = Function.update s.inFlight (s.commands slot).peer (some work)) :
    Flying s' := by
  constructor
  · intro peer work' hwork'
    rw [hflight] at hwork'
    by_cases hpeer : peer = (s.commands slot).peer
    · rw [hpeer, Function.update_self] at hwork'
      obtain rfl := Option.some.inj hwork'
      exact ⟨slot, hid, (hchanges.files.id slot).trans hwork,
        (hchanges.files.peer slot).trans hpeer.symm, hchanges.state⟩
    · rw [Function.update_of_ne hpeer] at hwork'
      obtain ⟨other, hrecord⟩ := h.recorded peer work' hwork'
      have hother : other ≠ slot := by
        rintro rfl
        rw [hqueued] at hrecord
        simp at hrecord
      exact ⟨other, hchanges.others other hother ▸ hrecord⟩
  · intro other hne hstate
    rw [hflight]
    by_cases hother : other = slot
    · rw [hother, hchanges.files.peer, Function.update_self, hchanges.files.id]
      exact ⟨work, rfl, hwork.symm⟩
    · rw [hchanges.others other hother] at hne hstate ⊢
      obtain ⟨work', hwork', hrecord⟩ := h.taken other hne hstate
      rw [Function.update_of_ne (by rintro hpeer; rw [hpeer, hidle] at hwork'; cases hwork')]
      exact ⟨work', hwork', hrecord⟩

theorem Traced.hand (h : Traced s) (hdistinct : ∀ slot other, (s.commands slot).id ≠ 0 →
      (s.commands other).id = (s.commands slot).id → other = slot)
    {slot : Fin 64} (hchanges : Changes s s' slot .sending) (hid : (s.commands slot).id ≠ 0)
    (hqueued : (s.commands slot).state = .queued) {peer : Fin 8}
    (htrace : s'.trace = .handed (s.commands slot).id peer :: s.trace) : Traced s' := by
  constructor
  · intro other hne hstate
    obtain ⟨hother, hstate⟩ := hchanges.still (by decide) hstate
    rw [hchanges.others other hother] at hne ⊢
    rw [htrace]
    refine ⟨?_, h.awaiting other hne hstate⟩
    exact fun hids => hother (hdistinct slot other hid hids.symm)
  · intro id other older hsuffix
    rw [htrace] at hsuffix
    rcases List.suffix_cons_iff.mp hsuffix with hevents | hsuffix
    · obtain ⟨hevent, rfl⟩ := List.cons.inj hevents
      obtain ⟨rfl, -⟩ := QueueEvent.handed.inj hevent
      exact h.awaiting slot hid hqueued
    · exact h.once id other older hsuffix

theorem Books.take (h : Books s) (peer : Fin 8) (now later : Nat) (timestamp : Fin 32 → UInt8) :
    Books (takeStep routes s peer now later timestamp) ∧ ∀ slot,
      Moves (s.commands slot) ((takeStep routes s peer now later timestamp).commands slot) := by
  have hcases := @takeCommand_cases routes s peer now later timestamp
  unfold takeStep
  generalize takeCommand routes s peer now later timestamp = taken at hcases ⊢
  split
  · exact ⟨h, fun slot => Moves.refl _⟩
  · rename_i hidle
    rw [Option.not_isSome_iff_eq_none] at hidle
    rcases hcases with ⟨-, rfl⟩ | ⟨i, -, hposition, hadmission⟩
    · exact ⟨h, fun slot => Moves.refl _⟩
    · have htaken := h.matched.taken hposition
      have hwork := (htaken peer).1
      generalize (s.queue peer).get i = work at hadmission htaken hwork
      have hrecord : ∀ slot, findCommand (withoutEntry s peer i) work.id = some slot →
          (s.commands slot).id = work.id := fun slot hfind => (findCommand_some hfind).2
      cases hadmission with
      | stale hstale =>
          obtain ⟨slot, hid, hslot, -, hstate⟩ := h.matched.recorded peer work hwork
          exact absurd hstate (hstale slot (h.matched.findCommand_eq hid hslot))
      | @dropped slot result hfind hstate hresult =>
          have hslot := hrecord slot hfind
          have hended := @Books.finishAll s h result later [slot]
            (withoutEntry s peer i).queue hresult
            (fun other hmem => by rw [List.mem_singleton.mp hmem]; exact hstate)
            (fun other => (htaken other).2.2) (fun _ other => decide (other.id ≠ work.id))
            (fun other => (htaken other).2.1) ?_
          · exact ⟨hended.1, hended.2.moves⟩
          · intro other work' hwork' slot' hslot'
            rw [decide_eq_true_iff, List.mem_singleton]
            constructor
            · rintro hids rfl
              exact hids (hslot'.symm.trans hslot)
            · intro hslots hids
              exact hslots (h.matched.distinct slot slot' (hslot ▸ (findCommand_some hfind).1)
                (hslot'.trans (hids.trans hslot.symm)))
      | @handed slot hfind hstate =>
          have hslot := hrecord slot hfind
          have hne := (findCommand_some hfind).1
          have hpeer := (h.matched.record hwork hslot).2.1
          have hid : (s.commands slot).id ≠ 0 := hslot ▸ hne
          have hchanges := @changes_update s
            { withoutEntry s peer i with
              commands := Function.update s.commands slot
                { s.commands slot with state := .sending, sentAt := later }
              trace := .handed work.id peer :: s.trace
              inFlight := Function.update s.inFlight peer (some (stamp work timestamp)) }
            slot { s.commands slot with state := .sending, sentAt := later } rfl rfl
          have hnext : RequestState.sending ∈ nextStates (s.commands slot).state := by
            rw [show (s.commands slot).state = .queued from hstate]
            decide
          refine ⟨⟨?_, ?_, ?_⟩, hchanges.moves hnext⟩
          · exact h.matched.hand hchanges hid (fun other => (htaken other).2.2)
              (fun other => hslot ▸ (htaken other).2.1)
          · exact @Flying.hand s _ h.flying slot hchanges (stamp work timestamp) hne hslot hstate
              (hpeer ▸ hidle) (hpeer ▸ rfl)
          · apply h.traced.hand h.matched.distinct hchanges hid hstate
            rw [hslot]

theorem Flying.settle (h : Flying s) (hdistinct : ∀ slot other, (s.commands slot).id ≠ 0 →
      (s.commands other).id = (s.commands slot).id → other = slot)
    {slot : Fin 64} {state : RequestState} (hchanges : Changes s s' slot state)
    (hstate : state ≠ .sending) {peer : Fin 8} {work : QueuedCommand}
    (hwork : s.inFlight peer = some work) (hid : work.id ≠ 0)
    (hslot : (s.commands slot).id = work.id) (hpeer : (s.commands slot).peer = peer)
    (hflight : s'.inFlight = Function.update s.inFlight peer none) : Flying s' := by
  constructor
  · intro other work' hwork'
    rw [hflight] at hwork'
    have hother : other ≠ peer := by
      rintro rfl
      rw [Function.update_self] at hwork'
      cases hwork'
    rw [Function.update_of_ne hother] at hwork'
    obtain ⟨slot', hrecord⟩ := h.recorded other work' hwork'
    have hslots : slot' ≠ slot := by
      rintro rfl
      exact hother (hrecord.2.2.1.symm.trans hpeer)
    exact ⟨slot', hchanges.others slot' hslots ▸ hrecord⟩
  · intro other hne hsending
    have hother : other ≠ slot := by
      rintro rfl
      exact hstate (hchanges.state.symm.trans hsending)
    rw [hchanges.others other hother] at hne hsending ⊢
    obtain ⟨work', hwork', hid'⟩ := h.taken other hne hsending
    have hpeers : (s.commands other).peer ≠ peer := by
      intro hpeers
      rw [hpeers, hwork] at hwork'
      obtain rfl := Option.some.inj hwork'
      exact hother (hdistinct slot other (hslot ▸ hid) (hid'.symm.trans hslot.symm))
    rw [hflight, Function.update_of_ne hpeers]
    exact ⟨work', hwork', hid'⟩

theorem Books.sent (h : Books s) (peer : Fin 8) (result : SendResult) (now : Nat) :
    Books (sentStep s peer result now) ∧ ∀ slot,
      Moves (s.commands slot) ((sentStep s peer result now).commands slot) := by
  cases hwork : s.inFlight peer with
  | none =>
      unfold sentStep
      rw [hwork]
      exact ⟨h, fun slot => Moves.refl _⟩
  | some work =>
      obtain ⟨slot, hne, hslot, hpeer, hsending⟩ := h.flying.recorded peer work hwork
      rw [sentStep_of_find hwork (h.matched.findCommand_eq hne hslot)]
      have hchanges := @changes_update s
        { finishCommand s slot (resultState result) now with
          inFlight := Function.update s.inFlight peer none }
        slot { s.commands slot with state := resultState result, finishedAt := now } rfl rfl
      have hnext : resultState result ∈ nextStates (s.commands slot).state := by
        rw [hsending]
        cases result <;> decide
      have hstates : resultState result ≠ .queued ∧ resultState result ≠ .sending := by
        cases result <;> decide
      have hstill := fun other hstate => (@Changes.still _ _ _ _ hchanges hstates.1 other hstate).2
      refine ⟨⟨?_, ?_, ?_⟩, hchanges.moves hnext⟩
      · apply h.matched.leave hchanges.files hstill h.matched.bounded fun _ _ => true
        · intro other
          exact (List.filter_true _).symm
        · intro other work' hwork' slot' hslot'
          have hstate := (h.matched.record hwork' hslot').2.2
          rw [hchanges.others slot' (by rintro rfl; rw [hsending] at hstate; cases hstate)]
          simp [hstate]
      · exact h.flying.settle h.matched.distinct hchanges hstates.2 hwork hne hslot hpeer rfl
      · exact @Traced.leave s _ h.traced hchanges.files hstill
          [.finished (s.commands slot).id (resultState result) now] rfl
          (List.forall_mem_singleton.mpr trivial)

/-! ### Enqueueing -/

section Prototype

variable {prototype : TestMessage} {delay : Nat} {automatic : Bool} {now : Nat} {f : Fresh}
  {fresh : List Fresh}

/-- One more request is on file. -/
structure Filed (s s' : Central) (record : CommandRecord) (entry : QueuedCommand)
    (slot : Fin 64) : Prop where
  filed : s'.commands slot = record
  others : ∀ other, other ≠ slot → s'.commands other = s.commands other
  queue : s'.queue = Function.update s.queue record.peer ((s.queue record.peer).append entry)
  flight : s'.inFlight = s.inFlight
  trace : s'.trace = .queued record :: s.trace
  ids : entry.id = record.id ∧ record.id ≠ 0 ∧ ∀ slot, (s.commands slot).id ≠ record.id
  queued : record.state = .queued
  idle : (s.commands slot).busy = false

theorem filed_fileFresh (hid : f.id ≠ 0) (hfree : reserved s f.id = false)
    (hslot : (s.commands f.slot).busy = false) :
    Filed s (fileFresh routes prototype delay automatic now s f)
      (freshRecord routes prototype automatic now f) (freshEntry prototype delay now f) f.slot :=
  { filed := fileFresh_commands_self
    others := fun _ hother => fileFresh_commands_of_ne hother
    queue := rfl
    flight := rfl
    trace := rfl
    ids := ⟨rfl, hid, (unreserved hid hfree).1⟩
    queued := rfl
    idle := hslot }

variable {record : CommandRecord} {entry : QueuedCommand} {slot : Fin 64}

theorem Filed.ne (h : Filed s s' record entry slot) {other : Fin 64}
    (hid : (s.commands other).id ≠ 0)
    (hstate : (s.commands other).state = .queued ∨ (s.commands other).state = .sending) :
    other ≠ slot := by
  rintro rfl
  have hidle := h.idle
  simp [CommandRecord.busy, hid, hstate] at hidle

theorem Filed.entries_eq (h : Filed s s' record entry slot)
    (hroom : (s.queue record.peer).count < 32) (peer : Fin 8) :
    entries s' peer =
      if peer = record.peer then entries s peer ++ [entry] else entries s peer := by
  rw [entries, h.queue]
  split
  · rename_i hpeer
    rw [hpeer, Function.update_self, Ring.view_append _ hroom]
    rfl
  · rename_i hpeer
    rw [Function.update_of_ne hpeer]
    rfl

theorem Matched.file (h : Matched s) (hfiled : Filed s s' record entry slot)
    (hroom : (s.queue record.peer).count < 32) : Matched s' := by
  obtain ⟨hentry, hne, hfresh⟩ := hfiled.ids
  have hentries := hfiled.entries_eq hroom
  have hold : ∀ peer, ∀ work ∈ entries s peer, ∃ other, other ≠ slot ∧ work.id ≠ 0 ∧
      (s.commands other).id = work.id ∧ (s.commands other).peer = peer ∧
        (s.commands other).state = .queued := by
    intro peer work hwork
    obtain ⟨other, hid, hrecord, hpeer, hstate⟩ := h.recorded peer work hwork
    exact ⟨other, hfiled.ne (hrecord ▸ hid) (Or.inl hstate), hid, hrecord, hpeer, hstate⟩
  constructor
  · intro peer
    rw [hfiled.queue]
    by_cases hpeer : peer = record.peer
    · rw [hpeer, Function.update_self]
      exact hroom
    · rw [Function.update_of_ne hpeer]
      exact h.bounded peer
  · intro one other hid heq
    by_cases hone : one = slot
    · rw [hone, hfiled.filed] at heq
      by_contra hother
      rw [hfiled.others other (hone ▸ hother)] at heq
      exact hfresh other heq
    · rw [hfiled.others one hone] at hid heq
      have hother : other ≠ slot := by
        rintro rfl
        rw [hfiled.filed] at heq
        exact hfresh one heq.symm
      rw [hfiled.others other hother] at heq
      exact h.distinct one other hid heq
  · intro peer work hwork
    rw [hentries] at hwork
    split at hwork
    · rename_i hpeer
      rcases List.mem_append.mp hwork with hwork | hwork
      · obtain ⟨other, hother, hrecord⟩ := hold peer work hwork
        exact ⟨other, hfiled.others other hother ▸ hrecord⟩
      · obtain rfl := List.mem_singleton.mp hwork
        refine ⟨slot, hentry ▸ hne, ?_⟩
        rw [hfiled.filed]
        exact ⟨hentry.symm, hpeer.symm, hfiled.queued⟩
    · obtain ⟨other, hother, hrecord⟩ := hold peer work hwork
      exact ⟨other, hfiled.others other hother ▸ hrecord⟩
  · intro other hid hstate
    by_cases hother : other = slot
    · rw [hother, hfiled.filed, hentries, if_pos rfl]
      exact ⟨entry, by simp, hentry⟩
    · rw [hfiled.others other hother] at hid hstate ⊢
      obtain ⟨work, hwork, hrecord⟩ := h.listed other hid hstate
      refine ⟨work, ?_, hrecord⟩
      rw [hentries]
      split
      · exact List.mem_append_left _ hwork
      · exact hwork
  · intro peer
    rw [hentries]
    split
    · rw [List.map_append, List.nodup_append]
      refine ⟨h.nodup peer, by simp, ?_⟩
      intro id hid other hother
      obtain ⟨work, hwork, rfl⟩ := List.mem_map.mp hid
      obtain ⟨holder, -, -, hrecord, -⟩ := hold peer work hwork
      rw [List.map_singleton, List.mem_singleton, hentry] at hother
      rw [hother, ← hrecord]
      exact hfresh holder
    · exact h.nodup peer

theorem Flying.file (h : Flying s) (hfiled : Filed s s' record entry slot) : Flying s' := by
  constructor
  · intro peer work hwork
    rw [hfiled.flight] at hwork
    obtain ⟨other, hid, hrecord, hpeer, hstate⟩ := h.recorded peer work hwork
    have hother := hfiled.ne (hrecord ▸ hid) (Or.inr hstate)
    exact ⟨other, hid, hfiled.others other hother ▸ ⟨hrecord, hpeer, hstate⟩⟩
  · intro other hid hstate
    have hother : other ≠ slot := by
      rintro rfl
      rw [hfiled.filed, hfiled.queued] at hstate
      cases hstate
    rw [hfiled.others other hother] at hid hstate ⊢
    rw [hfiled.flight]
    exact h.taken other hid hstate

theorem Traced.file (h : Traced s) (hfiled : Filed s s' record entry slot) : Traced s' := by
  constructor
  · intro other hid hstate
    rw [hfiled.trace]
    by_cases hother : other = slot
    · rw [hother, hfiled.filed]
      exact Or.inl rfl
    · rw [hfiled.others other hother] at hid hstate ⊢
      exact Or.inr (h.awaiting other hid hstate)
  · rw [hfiled.trace]
    exact @HandedOnce.append [.queued record] s.trace h.once (List.forall_mem_singleton.mpr trivial)

theorem Books.files (h : Books s) (hfiles : Files routes prototype delay automatic now s fresh s')
    (hroom : ∀ peer, (s.queue peer).count + (sentTo routes prototype fresh peer).length ≤ 32) :
    Books s' := by
  induction hfiles with
  | done s => exact h
  | @next s s' f fresh hid hfree hslot hrest ih =>
      have hfiled := @filed_fileFresh routes s prototype delay automatic now f hid hfree hslot
      have hsent : ∀ peer, sentTo routes prototype (f :: fresh) peer =
          if peerFor routes prototype f.target = peer then f :: sentTo routes prototype fresh peer
          else sentTo routes prototype fresh peer := by
        intro peer
        simp [sentTo, List.filter_cons]
      have hown := hroom (peerFor routes prototype f.target)
      rw [hsent, if_pos rfl, List.length_cons] at hown
      have hcount : (s.queue (peerFor routes prototype f.target)).count < 32 := by omega
      apply ih
      · exact ⟨h.matched.file hfiled hcount, h.flying.file hfiled, h.traced.file hfiled⟩
      · intro peer
        rw [hfiled.queue]
        show (Function.update s.queue (peerFor routes prototype f.target)
          ((s.queue (peerFor routes prototype f.target)).append _) peer).count + _ ≤ 32
        by_cases hpeer : peer = peerFor routes prototype f.target
        · rw [hpeer, Function.update_self, Ring.append_count]
          omega
        · have hother := hroom peer
          rw [hsent, if_neg (Ne.symm hpeer)] at hother
          rwa [Function.update_of_ne hpeer]

theorem Books.enqueue (h : Books s) (target : Option (Fin 6)) :
    ∃ enqueued, enqueueCommand routes s prototype target delay automatic now = some enqueued ∧
      Books enqueued.central ∧
        ∀ slot, Moves (s.commands slot) (enqueued.central.commands slot) := by
  rcases @enqueueCommand_cases routes s prototype target delay automatic now with
    ⟨refusal, -, hresult⟩ | ⟨s', fresh, hadmitted, hresult, htargets, hfiles⟩
  · exact ⟨_, hresult, h, fun slot => Moves.refl _⟩
  · refine ⟨_, hresult, ?_, ?_⟩
    · exact h.files hfiles
        (room_of_admitted hadmitted htargets fun other _ => h.matched.bounded other)
    · intro slot
      by_cases hslot : slot ∈ fresh.map Fresh.slot
      · obtain ⟨f, hf, rfl⟩ := List.mem_map.mp hslot
        rw [hfiles.commands_fresh hf]
        exact Or.inr ⟨hfiles.slots.2 f hf, hfiles.id_ne_zero hf, rfl⟩
      · rw [hfiles.commands_other hslot]
        exact Moves.refl _

end Prototype

theorem books_start (maxAgeSeconds : Nat) : Books (centralStart maxAgeSeconds) := by
  refine ⟨⟨fun _ => Nat.zero_le _, ?_, ?_, ?_, fun _ => List.nodup_nil⟩, ⟨nofun, ?_⟩, ⟨?_, ?_⟩⟩
  · exact fun _ _ hid => absurd rfl hid
  · intro peer work hwork
    cases hwork
  · exact fun _ hid => absurd rfl hid
  · exact fun _ hid => absurd rfl hid
  · exact fun _ hid => absurd rfl hid
  · intro id peer older hsuffix
    cases List.suffix_nil.mp hsuffix

theorem books_queueStep (h : Books s) (a : QueueAction) :
    Books (queueStep routes s a) ∧
      ∀ slot, Moves (s.commands slot) ((queueStep routes s a).commands slot) := by
  have hleaves : ∀ {s' : Central}, Books s' ∧ Leaves s s' →
      Books s' ∧ ∀ slot, Moves (s.commands slot) (s'.commands slot) :=
    fun hleft => ⟨hleft.1, hleft.2.moves⟩
  cases a with
  | enqueue prototype target delay automatic now =>
      obtain ⟨enqueued, hresult, hbooks⟩ :=
        @Books.enqueue routes s prototype delay automatic now h target
      rw [queueStep, hresult]
      exact hbooks
  | take peer now later timestamp => exact h.take peer now later timestamp
  | sent peer result now => exact h.sent peer result now
  | cancel target now =>
      exact hleaves (h.foldl (fun s peer hs => hs.cancelPeer target now peer) (peers routes))
  | lost peer now =>
      have hlost : Books { s with
          endpointConnected := Function.update s.endpointConnected peer false
          endpointProbe := Function.update s.endpointProbe peer 0 } :=
        h.congr rfl rfl rfl (List.nil_append _).symm (List.forall_mem_nil _)
      obtain ⟨hbooks, hdiscarded⟩ := hlost.discardQueue peer now
      exact ⟨hbooks, hdiscarded.moves⟩
  | stop now =>
      have hstopped : Books { s with running := false } :=
        h.congr rfl rfl rfl (List.nil_append _).symm (List.forall_mem_nil _)
      obtain ⟨hbooks, hdiscarded⟩ := hstopped.foldl
        (fun s peer hs => hs.discardQueue peer now) (peers routes)
      exact ⟨hbooks, hdiscarded.moves⟩
  | observe monitor connected probe =>
      exact ⟨h.congr rfl rfl rfl (List.nil_append _).symm (List.forall_mem_nil _),
        fun slot => Moves.refl _⟩
  | release target =>
      have hplain : ∀ event ∈ [QueueEvent.resumed target], Plain event :=
        List.forall_mem_singleton.mpr trivial
      exact ⟨@Books.congr s _ h rfl rfl rfl [.resumed target] rfl hplain, fun slot => Moves.refl _⟩
  | operator policyAck scheduledMode operatorPolicy =>
      exact ⟨h.congr rfl rfl rfl (List.nil_append _).symm (List.forall_mem_nil _),
        fun slot => Moves.refl _⟩

theorem books_of_reached (h : Reached routes s) : Books s := by
  apply Reachable.invariant _ (fun s a hs => (books_queueStep hs a).1) h
  rintro s ⟨maxAgeSeconds, rfl⟩
  exact books_start maxAgeSeconds

/-- The ids of a peer's queued records. -/
def queuedIds (s : Central) (peer : Fin 8) : List UInt16 :=
  (discarded s peer).map fun slot => (s.commands slot).id

theorem mem_discarded {peer : Fin 8} {slot : Fin 64} :
    slot ∈ discarded s peer ↔ (s.commands slot).id ≠ 0 ∧ (s.commands slot).peer = peer ∧
      (s.commands slot).state = .queued := by
  simp [discarded]

theorem Matched.perm (h : Matched s) (peer : Fin 8) :
    ((entries s peer).map QueuedCommand.id).Perm (queuedIds s peer) ∧
      (queuedIds s peer).Nodup := by
  have hnodup : (queuedIds s peer).Nodup := by
    apply ((List.nodup_finRange 64).filter _).map_on
    intro slot hslot other hother hids
    exact (h.distinct slot other (mem_discarded.mp hslot).1 hids.symm).symm
  refine ⟨?_, hnodup⟩
  apply (List.perm_ext_iff_of_nodup (h.nodup peer) hnodup).mpr
  intro id
  constructor
  · intro hid
    obtain ⟨work, hwork, rfl⟩ := List.mem_map.mp hid
    obtain ⟨slot, hne, hrecord, hpeer, hstate⟩ := h.recorded peer work hwork
    exact List.mem_map.mpr ⟨slot, mem_discarded.mpr ⟨hrecord ▸ hne, hpeer, hstate⟩, hrecord⟩
  · intro hid
    obtain ⟨slot, hslot, rfl⟩ := List.mem_map.mp hid
    obtain ⟨hne, rfl, hstate⟩ := mem_discarded.mp hslot
    obtain ⟨work, hwork, hrecord⟩ := h.listed slot hne hstate
    exact List.mem_map.mpr ⟨work, hwork, hrecord⟩

/-- What holds of a state, of each step from it and of each search in it. -/
structure Consistent (routes : Routes) (s : Central) : Prop where
  matched : ∀ peer, ((entries s peer).map QueuedCommand.id).Perm (queuedIds s peer) ∧
    (queuedIds s peer).Nodup
  distinct : ∀ slot other, (s.commands slot).id ≠ 0 →
    (s.commands other).id = (s.commands slot).id → other = slot
  sending : ∀ slot other, (s.commands slot).id ≠ 0 → (s.commands other).id ≠ 0 →
    (s.commands slot).state = .sending → (s.commands other).state = .sending →
      (s.commands other).peer = (s.commands slot).peer → other = slot
  moves : ∀ a slot, Moves (s.commands slot) ((queueStep routes s a).commands slot)
  handed : HandedOnce s.trace
  searches : ∀ prototype target delay automatic now,
    ∃ enqueued, enqueueCommand routes s prototype target delay automatic now = some enqueued ∧
      (enqueued.refusal = none → ∃ fresh, fresh.map Fresh.target = expand prototype target ∧
        Files routes prototype delay automatic now s fresh enqueued.central)

theorem bookkeeping_consistent (h : Reached routes s) : Consistent routes s := by
  have hbooks := books_of_reached h
  constructor
  · exact hbooks.matched.perm
  · exact hbooks.matched.distinct
  · intro slot other hid hid' hstate hstate' hpeer
    obtain ⟨work, hwork, hrecord⟩ := hbooks.flying.taken slot hid hstate
    obtain ⟨work', hwork', hrecord'⟩ := hbooks.flying.taken other hid' hstate'
    rw [hpeer, hwork] at hwork'
    obtain rfl := Option.some.inj hwork'
    exact hbooks.matched.distinct slot other hid (hrecord'.symm.trans hrecord)
  · exact fun a slot => (books_queueStep hbooks a).2 slot
  · exact hbooks.traced.once
  · intro prototype target delay automatic now
    rcases @enqueueCommand_cases routes s prototype target delay automatic now with
      ⟨refusal, -, hresult⟩ | ⟨s', fresh, -, hresult, htargets, hfiles⟩
    · exact ⟨_, hresult, nofun⟩
    · exact ⟨_, hresult, fun _ => ⟨fresh, htargets, hfiles⟩⟩

/-- Two requests for the Train, of which one is on its way. -/
theorem bookkeeping_consistent_start :
    Consistent defaultRoutes (run (queueStep defaultRoutes) (centralStart 5)
      [allUp, .enqueue trainFrame (some 0) 0 false 0, .enqueue trainFrame (some 0) 0 false 0,
        .take (peerFor defaultRoutes trainFrame 0) 0 0 blankTimestamp]) :=
  bookkeeping_consistent ⟨centralStart 5, _, ⟨5, rfl⟩, rfl⟩

/-! ### An id handed over twice -/

/-- The ids that have been handed over. -/
def handedIds (trace : List QueueEvent) : List UInt16 :=
  trace.filterMap fun event =>
    match event with
    | .handed id _ => some id
    | _ => none

/-- Train commands until the counter of ids has come round to its start. -/
def wholeTurn : List QueueAction :=
  allUp :: (exchange trainFrame 0 .ok ++ (trainExchanges 65534 ++ exchange trainFrame 0 .ok))

theorem handedIds_append (newer older : List QueueEvent) :
    handedIds (newer ++ older) = handedIds newer ++ handedIds older :=
  List.filterMap_append

theorem handedIds_exchanged {prototype : TestMessage} {i : Fin 6} {result : SendResult}
    {id : UInt16} (h : Exchanged s s' prototype i result id) :
    handedIds s'.trace = id :: handedIds s.trace := by
  rw [h.trace]
  rfl

theorem wholeTurn_handed :
    ∃ newer older, handedIds (run (queueStep defaultRoutes) (centralStart 5) wholeTurn).trace =
      1 :: (newer ++ 1 :: older) := by
  have hfirst : nextIdLocked (queueStep defaultRoutes (centralStart 5) allUp) = some 1 := by
    decide +kernel
  have hone := @exchanged _ trainFrame 0 1 calm_start (by decide) hfirst .ok
  rw [wholeTurn, run_cons, run_append, run_append]
  generalize run (queueStep defaultRoutes) (queueStep defaultRoutes (centralStart 5) allUp)
    (exchange trainFrame 0 .ok) = s₁ at hone ⊢
  have hnext : s₁.nextId.toNat = 1 := by
    rw [hone.nextId]
    rfl
  have hbelow : ∀ slot, (s₁.commands slot).id.toNat ≤ s₁.nextId.toNat := by
    intro slot
    rw [hnext, hone.commands]
    by_cases hslot : slot = (queueStep defaultRoutes (centralStart 5) allUp).commandNext
    · rw [hslot, Function.update_self]
      exact Nat.le_refl 1
    · rw [Function.update_of_ne hslot]
      exact Nat.zero_le 1
  have hpolicy : s₁.policyCommand = fun _ => 0 := by
    rw [hone.policyCommand, if_neg (by decide)]
    rfl
  have hdriven := @driven s₁ hone.calm hbelow (by rw [hpolicy]; exact fun _ => Nat.zero_le _) 65534
    (by omega)
  obtain ⟨newest, htrace⟩ := hdriven.trace
  generalize run (queueStep defaultRoutes) s₁ (trainExchanges 65534) = s₂ at hdriven htrace ⊢
  have hwrapped : bumpId s₂.nextId = 1 := by
    apply UInt16.toNat_inj.mp
    rw [toNat_bumpId, hdriven.nextId, hnext]
    rfl
  have hfree : reserved s₂ (bumpId s₂.nextId) = false := by
    rw [hwrapped]
    apply unreserved_of_above
    · intro slot
      have hnewer := hdriven.newer (by decide) slot
      rw [hnext] at hnewer
      exact (@ne_of_toNat_lt 1 _ hnewer).symm
    · rw [hdriven.policyCommand, hpolicy]
      decide
  have htwo := @exchanged s₂ trainFrame 0 _ hdriven.calm (by decide) (nextIdLocked_succ hfree) .ok
  rw [hwrapped] at htwo
  rw [handedIds_exchanged htwo, htrace, handedIds_append, handedIds_exchanged hone]
  exact ⟨_, _, rfl⟩

/-- The id one is handed over for the first request and again after a whole turn
of the counter. -/
theorem id_handed_twice :
    ¬ ∀ s, Reached defaultRoutes s → (handedIds s.trace).Nodup := by
  intro hnodup
  obtain ⟨newer, older, hhanded⟩ := wholeTurn_handed
  have hids := hnodup _ ⟨centralStart 5, wholeTurn, ⟨5, rfl⟩, rfl⟩
  rw [hhanded] at hids
  simp at hids

end TrafficLight.CommandBooks
