import TrafficLight.QueueOperations

namespace TrafficLight.CommandAdmission

open TrafficLight.Protocol
open TrafficLight.CentralCommands
open TrafficLight.RingQueue
open TrafficLight.CommandQueue
open TrafficLight.QueueOperations

/-- The id and the slot that a request for a target was given. -/
structure Fresh where
  target : Fin 6
  id : UInt16
  slot : Fin 64
  deriving DecidableEq

section Prototype

variable (routes : Routes) (prototype : TestMessage) (delay : Nat) (automatic : Bool) (now : Nat)

def fileFresh (s : Central) (f : Fresh) : Central :=
  fileRequest routes s prototype f.target delay automatic now f.id f.slot

def freshRecord (f : Fresh) : CommandRecord :=
  newRecord routes prototype f.target automatic now f.id

def freshEntry (f : Fresh) : QueuedCommand := newEntry prototype f.target delay now f.id

/-- The request replaces the policy command of its targets. -/
def setsPolicy : Bool := prototype.header.type = msgModeCommand ∧ automatic = false

/-- Requests are filed one after the other. -/
inductive Files : Central → List Fresh → Central → Prop
  | done (s : Central) : Files s [] s
  | next {s s' : Central} {f : Fresh} {fresh : List Fresh} (hid : f.id ≠ 0)
      (hfree : reserved s f.id = false) (hslot : (s.commands f.slot).busy = false)
      (hrest : Files (fileFresh routes prototype delay automatic now s f) fresh s') :
      Files s (f :: fresh) s'

end Prototype

variable {routes : Routes} {prototype : TestMessage} {delay : Nat} {automatic : Bool} {now : Nat}
  {s s' : Central} {f : Fresh} {fresh : List Fresh}

theorem busy_newRecord {i : Fin 6} {id : UInt16} (h : id ≠ 0) :
    (newRecord routes prototype i automatic now id).busy = true := by
  simp [CommandRecord.busy, newRecord, h]

theorem countP_update_of_nodup {α : Type} [DecidableEq α] {l : List α} {p q : α → Bool} {a : α}
    (hnodup : l.Nodup) (ha : a ∈ l) (hp : p a = true) (hq : q a = false)
    (hother : ∀ b, b ≠ a → q b = p b) : l.countP q + 1 = l.countP p := by
  induction l with
  | nil => cases ha
  | cons b l ih =>
      obtain ⟨hfresh, hnodup⟩ := List.nodup_cons.mp hnodup
      by_cases hb : b = a
      · subst hb
        have hrest : l.countP q = l.countP p := by
          apply List.countP_congr
          intro c hc
          rw [hother c (fun heq => hfresh (heq ▸ hc))]
        rw [List.countP_cons_of_neg (by simp [hq]), List.countP_cons_of_pos hp, hrest]
      · have hmem : a ∈ l := (List.mem_cons.mp ha).resolve_left fun heq => hb heq.symm
        have hrest := ih hnodup hmem
        rw [List.countP_cons, List.countP_cons, hother b hb]
        omega

theorem available_fileFresh (hid : f.id ≠ 0) (hslot : (s.commands f.slot).busy = false) :
    available (fileFresh routes prototype delay automatic now s f) + 1 = available s := by
  apply @countP_update_of_nodup _ _ _ _ _ f.slot (List.nodup_finRange 64) (List.mem_finRange _)
  · simp [hslot]
  · show (! (Function.update s.commands f.slot _ f.slot).busy) = false
    rw [Function.update_self, busy_newRecord hid]
    rfl
  · intro slot hne
    show (! (Function.update s.commands f.slot _ slot).busy) = _
    rw [Function.update_of_ne hne]

theorem files_of_room {targets : List (Fin 6)} (h : targets.length ≤ available s) :
    ∃ s' fresh, targets.foldlM (enqueueOne routes prototype delay automatic now) s = some s' ∧
      fresh.map Fresh.target = targets ∧ Files routes prototype delay automatic now s fresh s' := by
  induction targets generalizing s with
  | nil => exact ⟨s, [], rfl, rfl, .done s⟩
  | cons i targets ih =>
      rw [List.length_cons] at h
      obtain ⟨id, hid⟩ := Option.isSome_iff_exists.mp (nextIdLocked_isSome s)
      obtain ⟨free, _, hfree⟩ : ∃ slot ∈ List.finRange 64, (! (s.commands slot).busy) = true :=
        List.countP_pos_iff.mp (show 0 < available s by omega)
      obtain ⟨slot, hslot⟩ := Option.isSome_iff_exists.mp
        (@freeSlot_isSome s free (by simpa using hfree))
      obtain ⟨hne, hunreserved⟩ := nextIdFrom_some hid
      have hidle := freeSlotFrom_some hslot
      let f : Fresh := ⟨i, id, slot⟩
      have hroom := @available_fileFresh routes prototype delay automatic now s f hne hidle
      obtain ⟨s', fresh, hrun, htargets, hfiles⟩ :=
        @ih (fileFresh routes prototype delay automatic now s f) (by omega)
      refine ⟨s', f :: fresh, ?_, by rw [List.map_cons, htargets],
        .next hne hunreserved hidle hfiles⟩
      rw [List.foldlM_cons]
      have hone : enqueueOne routes prototype delay automatic now s i =
          some (fileFresh routes prototype delay automatic now s f) := by
        simp only [enqueueOne, hid, hslot, Option.bind_eq_bind, Option.bind_some]
        rfl
      rw [hone]
      exact hrun

theorem enqueueCommand_cases (s : Central) (prototype : TestMessage)
    (target : Option (Fin 6)) (delay : Nat) (automatic : Bool) (now : Nat) :
    (∃ refusal, enqueueRefusal routes s prototype target now = some refusal ∧
        enqueueCommand routes s prototype target delay automatic now =
          some ⟨s, some refusal⟩) ∨
      ∃ s' fresh, enqueueRefusal routes s prototype target now = none ∧
        enqueueCommand routes s prototype target delay automatic now = some ⟨s', none⟩ ∧
        fresh.map Fresh.target = expand prototype target ∧
        Files routes prototype delay automatic now s fresh s' := by
  unfold enqueueCommand
  cases hrefusal : enqueueRefusal routes s prototype target now with
  | some refusal => exact .inl ⟨refusal, rfl, rfl⟩
  | none =>
      right
      have hroom : (expand prototype target).length ≤ available s := by
        unfold enqueueRefusal at hrefusal
        dsimp only at hrefusal
        split at hrefusal
        · cases hrefusal
        · split at hrefusal
          · cases hrefusal
          · rename_i hroom
            by_contra hlt
            apply hroom
            unfold noRoom
            exact decide_eq_true (.inl (Nat.not_le.mp hlt))
      obtain ⟨s', fresh, hrun, htargets, hfiles⟩ := files_of_room hroom
      refine ⟨s', fresh, rfl, ?_, htargets, hfiles⟩
      dsimp only
      rw [hrun]
      rfl

theorem fileFresh_commands_self :
    (fileFresh routes prototype delay automatic now s f).commands f.slot =
      freshRecord routes prototype automatic now f :=
  Function.update_self ..

theorem fileFresh_commands_of_ne {slot : Fin 64} (h : slot ≠ f.slot) :
    (fileFresh routes prototype delay automatic now s f).commands slot = s.commands slot :=
  Function.update_of_ne h ..

theorem Files.slots (h : Files routes prototype delay automatic now s fresh s') :
    (fresh.map Fresh.slot).Nodup ∧ ∀ f ∈ fresh, (s.commands f.slot).busy = false := by
  induction h with
  | done s => exact ⟨List.nodup_nil, fun f hf => by cases hf⟩
  | @next s s' f fresh hid hfree hslot hrest ih =>
      obtain ⟨hnodup, hidle⟩ := ih
      have hne : ∀ g ∈ fresh, g.slot ≠ f.slot := by
        intro g hg heq
        have hbusy := hidle g hg
        rw [heq, fileFresh_commands_self, freshRecord, busy_newRecord hid] at hbusy
        cases hbusy
      constructor
      · rw [List.map_cons, List.nodup_cons]
        refine ⟨?_, hnodup⟩
        intro hmem
        obtain ⟨g, hg, hslots⟩ := List.mem_map.mp hmem
        exact hne g hg hslots
      · intro g hg
        rcases List.mem_cons.mp hg with rfl | hg
        · exact hslot
        · rw [← hidle g hg, fileFresh_commands_of_ne (hne g hg)]

theorem Files.commands_other (h : Files routes prototype delay automatic now s fresh s')
    {slot : Fin 64} (hslot : slot ∉ fresh.map Fresh.slot) :
    s'.commands slot = s.commands slot := by
  induction h with
  | done s => rfl
  | next hid hfree hidle hrest ih =>
      rw [List.map_cons, List.mem_cons, not_or] at hslot
      rw [ih hslot.2, fileFresh_commands_of_ne hslot.1]

theorem Files.commands_fresh (h : Files routes prototype delay automatic now s fresh s')
    (hf : f ∈ fresh) : s'.commands f.slot = freshRecord routes prototype automatic now f := by
  induction h with
  | done s => cases hf
  | next hid hfree hidle hrest ih =>
      rcases List.mem_cons.mp hf with rfl | hf
      · have hnodup := (Files.next hid hfree hidle hrest).slots.1
        rw [List.map_cons, List.nodup_cons] at hnodup
        rw [hrest.commands_other hnodup.1, fileFresh_commands_self]
      · exact ih hf

theorem unreserved {id : UInt16} (hid : id ≠ 0) (h : reserved s id = false) :
    (∀ slot, (s.commands slot).id ≠ id) ∧ ∀ i, s.policyCommand i ≠ id := by
  have hnone := of_decide_eq_false h
  rw [not_or] at hnone
  constructor
  · intro slot
    exact findCommand_none (Option.not_isSome_iff_eq_none.mp hnone.1) hid slot
  · intro i hi
    exact hnone.2 ⟨i, hi⟩

theorem fileFresh_policyCommand {i : Fin 6}
    (h : setsPolicy prototype automatic = true → i ≠ f.target) :
    (fileFresh routes prototype delay automatic now s f).policyCommand i = s.policyCommand i := by
  show (if prototype.header.type = msgModeCommand ∧ automatic = false then
    Function.update s.policyCommand f.target f.id else s.policyCommand) i = _
  split
  · rename_i hsets
    exact Function.update_of_ne (h (decide_eq_true hsets)) ..
  · rfl

theorem fileFresh_setsPolicy (h : setsPolicy prototype automatic = true) :
    (fileFresh routes prototype delay automatic now s f).policyCommand =
      Function.update s.policyCommand f.target f.id :=
  if_pos (of_decide_eq_true h)

/-- An id is held by no record and by no policy command, those apart that the
same request has replaced by then. -/
theorem Files.unreserved (h : Files routes prototype delay automatic now s fresh s')
    {before after : List Fresh} (hsplit : fresh = before ++ f :: after) :
    f.id ≠ 0 ∧ (∀ g ∈ before, g.id ≠ f.id) ∧
      (∀ slot ∉ before.map Fresh.slot, (s.commands slot).id ≠ f.id) ∧
      ∀ i, (setsPolicy prototype automatic = true → i ∉ before.map Fresh.target) →
        s.policyCommand i ≠ f.id := by
  induction h generalizing before with
  | done s => simp at hsplit
  | @next s s' g fresh hid hfree hidle hrest ih =>
      cases before with
      | nil =>
          obtain ⟨rfl, rfl⟩ := List.cons.inj hsplit
          obtain ⟨hrecords, hpolicy⟩ := CommandAdmission.unreserved hid hfree
          exact ⟨hid, fun _ hmem => (by cases hmem), fun slot _ => hrecords slot,
            fun i _ => hpolicy i⟩
      | cons b before =>
          obtain ⟨rfl, hrest'⟩ := List.cons.inj hsplit
          change fresh = before ++ f :: after at hrest'
          obtain ⟨hne, hbefore, hrecords, hpolicy⟩ := ih hrest'
          have hnodup := (Files.next hid hfree hidle hrest).slots.1
          rw [hrest', List.map_cons, List.nodup_cons, List.map_append, List.mem_append,
            not_or] at hnodup
          have hhead : g.id ≠ f.id := by
            have hrecord := hrecords g.slot hnodup.1.1
            rwa [fileFresh_commands_self] at hrecord
          refine ⟨hne, List.forall_mem_cons.mpr ⟨hhead, hbefore⟩, ?_, ?_⟩
          · intro slot hslot
            rw [List.map_cons, List.mem_cons, not_or] at hslot
            rw [← fileFresh_commands_of_ne hslot.1]
            exact hrecords slot hslot.2
          · intro i hi
            have hi' : setsPolicy prototype automatic = true →
                i ≠ g.target ∧ i ∉ before.map Fresh.target := by
              intro hsets
              simpa [not_or] using hi hsets
            rw [← fileFresh_policyCommand fun hsets => (hi' hsets).1]
            exact hpolicy i fun hsets => (hi' hsets).2

theorem Files.id_ne_zero (h : Files routes prototype delay automatic now s fresh s')
    (hf : f ∈ fresh) : f.id ≠ 0 := by
  obtain ⟨before, after, hsplit⟩ := List.append_of_mem hf
  exact (h.unreserved hsplit).1

theorem Files.ids_nodup (h : Files routes prototype delay automatic now s fresh s') :
    (fresh.map Fresh.id).Nodup := by
  induction h with
  | done s => exact List.nodup_nil
  | @next s s' f fresh hid hfree hidle hrest ih =>
      rw [List.map_cons, List.nodup_cons]
      refine ⟨?_, ih⟩
      intro hmem
      obtain ⟨g, hg, hids⟩ := List.mem_map.mp hmem
      obtain ⟨before, after, rfl⟩ := List.append_of_mem hg
      have hsplit : f :: (before ++ g :: after) = (f :: before) ++ g :: after := rfl
      exact ((Files.next hid hfree hidle hrest).unreserved hsplit).2.1 f List.mem_cons_self
        hids.symm

/-- The requests that go to a peer. -/
def sentTo (routes : Routes) (prototype : TestMessage) (fresh : List Fresh) (peer : Fin 8) :
    List Fresh :=
  fresh.filter fun f => peerFor routes prototype f.target = peer

theorem length_sentTo (peer : Fin 8) :
    (sentTo routes prototype fresh peer).length =
      needed routes prototype (fresh.map Fresh.target) peer := by
  rw [sentTo, needed, List.countP_map, List.countP_eq_length_filter]
  rfl

theorem Files.queue (h : Files routes prototype delay automatic now s fresh s') {peer : Fin 8}
    (hroom : (s.queue peer).count + (sentTo routes prototype fresh peer).length ≤ 32) :
    (s'.queue peer).view = (s.queue peer).view ++
        (sentTo routes prototype fresh peer).map (freshEntry prototype delay now) ∧
      (s'.queue peer).count =
        (s.queue peer).count + (sentTo routes prototype fresh peer).length := by
  induction h with
  | done s => simp [sentTo]
  | @next s s' g fresh hid hfree hidle hrest ih =>
      by_cases hpeer : peerFor routes prototype g.target = peer
      · have hsent : sentTo routes prototype (g :: fresh) peer =
            g :: sentTo routes prototype fresh peer :=
          List.filter_cons_of_pos (by simpa using hpeer)
        rw [hsent, List.length_cons] at hroom
        have hqueue : (fileFresh routes prototype delay automatic now s g).queue peer =
            (s.queue peer).append (freshEntry prototype delay now g) := by
          subst hpeer
          exact Function.update_self ..
        rw [hqueue, Ring.append_count] at ih
        obtain ⟨hview, hcount⟩ := ih (by omega)
        rw [hview, hcount, hsent, Ring.view_append _ (by omega), List.map_cons, List.length_cons,
          List.append_assoc]
        exact ⟨rfl, by omega⟩
      · have hsent : sentTo routes prototype (g :: fresh) peer =
            sentTo routes prototype fresh peer :=
          List.filter_cons_of_neg (by simpa using hpeer)
        have hqueue : (fileFresh routes prototype delay automatic now s g).queue peer =
            s.queue peer :=
          Function.update_of_ne (fun heq => hpeer heq.symm) ..
        rw [hsent] at hroom ⊢
        rw [hqueue] at ih
        exact ih hroom

theorem room_of_admitted {target : Option (Fin 6)}
    (h : enqueueRefusal routes s prototype target now = none)
    (htargets : fresh.map Fresh.target = expand prototype target)
    (hunused : ∀ peer : Fin 8, routes.peerCount ≤ peer.val → (s.queue peer).count ≤ 32)
    (peer : Fin 8) :
    (s.queue peer).count + (sentTo routes prototype fresh peer).length ≤ 32 := by
  rw [length_sentTo, htargets]
  by_cases hpeer : peer.val < routes.peerCount
  · unfold enqueueRefusal at h
    dsimp only at h
    split at h
    · cases h
    · split at h
      · cases h
      · rename_i hroom
        by_contra hfull
        apply hroom
        unfold noRoom
        exact decide_eq_true (.inr ⟨peer, hpeer, Nat.not_le.mp hfull⟩)
  · have hnone : needed routes prototype (expand prototype target) peer = 0 := by
      rw [needed, List.countP_eq_zero]
      intro i _ hi
      apply hpeer
      rw [← of_decide_eq_true hi, peerFor]
      split
      · exact Nat.lt_of_lt_of_le (by decide) routes.two_le
      · exact routes.route_lt i
    rw [hnone]
    exact hunused peer (Nat.not_lt.mp hpeer)

theorem Files.frame (h : Files routes prototype delay automatic now s fresh s') :
    s' = { s with
      nextId := s'.nextId
      commands := s'.commands
      commandNext := s'.commandNext
      policyCommand := s'.policyCommand
      queue := s'.queue
      trace := s'.trace } := by
  induction h with
  | done s => rfl
  | next hid hfree hidle hrest ih => exact ih

theorem Files.trace (h : Files routes prototype delay automatic now s fresh s') :
    s'.trace = (fresh.reverse.map fun f =>
      .queued (freshRecord routes prototype automatic now f)) ++ s.trace := by
  induction h with
  | done s => rfl
  | next hid hfree hidle hrest ih =>
      rw [ih, List.reverse_cons, List.map_append, List.append_assoc]
      rfl

theorem Files.policyCommand (h : Files routes prototype delay automatic now s fresh s')
    (hnodup : (fresh.map Fresh.target).Nodup) (i : Fin 6) :
    (∃ f ∈ fresh, f.target = i ∧ setsPolicy prototype automatic = true ∧
        s'.policyCommand i = f.id) ∨
      ((setsPolicy prototype automatic = true → i ∉ fresh.map Fresh.target) ∧
        s'.policyCommand i = s.policyCommand i) := by
  induction h with
  | done s => exact .inr ⟨fun _ hmem => (by cases hmem), rfl⟩
  | @next s s' g fresh hid hfree hidle hrest ih =>
      rw [List.map_cons, List.nodup_cons] at hnodup
      rcases ih hnodup.2 with ⟨f, hf, htarget, hsets, hpolicy⟩ | ⟨habsent, hpolicy⟩
      · exact .inl ⟨f, List.mem_cons_of_mem _ hf, htarget, hsets, hpolicy⟩
      · by_cases hg : setsPolicy prototype automatic = true ∧ g.target = i
        · obtain ⟨hsets, rfl⟩ := hg
          refine .inl ⟨g, List.mem_cons_self, rfl, hsets, ?_⟩
          rw [hpolicy]
          show (if prototype.header.type = msgModeCommand ∧ automatic = false then
            Function.update s.policyCommand g.target g.id else s.policyCommand) g.target = _
          rw [if_pos (of_decide_eq_true hsets), Function.update_self]
        · refine .inr ⟨?_, ?_⟩
          · intro hsets
            rw [List.map_cons, List.mem_cons, not_or]
            exact ⟨fun heq => hg ⟨hsets, heq.symm⟩, habsent hsets⟩
          · rw [hpolicy]
            exact fileFresh_policyCommand fun hsets heq => hg ⟨hsets, heq.symm⟩

theorem nodup_expand (prototype : TestMessage) (target : Option (Fin 6)) :
    (expand prototype target).Nodup := by
  unfold expand
  split
  · exact List.nodup_singleton _
  · split
    · exact List.nodup_singleton _
    · exact List.nodup_finRange 6

end TrafficLight.CommandAdmission
