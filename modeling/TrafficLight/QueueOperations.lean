import Mathlib.Algebra.Group.Fin.Basic
import Mathlib.Data.Fintype.Sum
import TrafficLight.CommandQueue

namespace TrafficLight.QueueOperations

open TrafficLight.Protocol
open TrafficLight.CentralFrames
open TrafficLight.CentralMonitor
open TrafficLight.RingQueue
open TrafficLight.CommandQueue

variable {s s' : Central} {routes : Routes}

theorem findCommand_some {id : UInt16} {slot : Fin 64} (h : findCommand s id = some slot) :
    id ≠ 0 ∧ (s.commands slot).id = id := by
  simpa using List.find?_some h

theorem findCommand_none {id : UInt16} (h : findCommand s id = none) (hid : id ≠ 0)
    (slot : Fin 64) : (s.commands slot).id ≠ id := by
  have hslot := List.find?_eq_none.mp h slot (List.mem_finRange slot)
  simpa [hid] using hslot

/-- What a record says about its request, which finishing it does not change. -/
def CommandRecord.file (record : CommandRecord) :
    UInt16 × Fin 6 × Fin 8 × Bool × ModeCmdMsg × Nat :=
  (record.id, record.target, record.peer, record.automatic, record.modeRequest, record.queuedAt)

/-- The same requests are on file. -/
def SameFiles (s s' : Central) : Prop :=
  ∀ slot, CommandRecord.file (s'.commands slot) = CommandRecord.file (s.commands slot)

theorem SameFiles.id (h : SameFiles s s') (slot : Fin 64) :
    (s'.commands slot).id = (s.commands slot).id :=
  congrArg Prod.fst (h slot)

theorem SameFiles.target (h : SameFiles s s') (slot : Fin 64) :
    (s'.commands slot).target = (s.commands slot).target :=
  congrArg (fun file => file.2.1) (h slot)

theorem SameFiles.peer (h : SameFiles s s') (slot : Fin 64) :
    (s'.commands slot).peer = (s.commands slot).peer :=
  congrArg (fun file => file.2.2.1) (h slot)

theorem SameFiles.automatic (h : SameFiles s s') (slot : Fin 64) :
    (s'.commands slot).automatic = (s.commands slot).automatic :=
  congrArg (fun file => file.2.2.2.1) (h slot)

theorem SameFiles.findCommand (h : SameFiles s s') (id : UInt16) :
    findCommand s' id = findCommand s id := by
  unfold CommandQueue.findCommand
  congr 1
  funext slot
  rw [h.id]

theorem SameFiles.supersedes (h : SameFiles s s') (target : Option (Fin 6))
    (work : QueuedCommand) : supersedes s' target work = supersedes s target work := by
  unfold CommandQueue.supersedes
  rw [h.findCommand]
  congr 1
  funext slot
  rw [h.automatic, h.target]

def finishAll (result : RequestState) (now : Nat) (s : Central) (slots : List (Fin 64)) :
    Central :=
  slots.foldl (fun s slot => finishCommand s slot result now) s

theorem finishAll_frame (result : RequestState) (now : Nat) (s : Central)
    (slots : List (Fin 64)) :
    finishAll result now s slots =
      { s with
        commands := (finishAll result now s slots).commands
        trace := (finishAll result now s slots).trace } := by
  induction slots generalizing s with
  | nil => rfl
  | cons slot slots ih => exact ih (finishCommand s slot result now)

@[simp] theorem finishAll_queue (result : RequestState) (now : Nat) (s : Central)
    (slots : List (Fin 64)) : (finishAll result now s slots).queue = s.queue := by
  rw [finishAll_frame]

theorem finishAll_append_singleton (result : RequestState) (now : Nat) (s : Central)
    (slots : List (Fin 64)) (slot : Fin 64) :
    finishAll result now s (slots ++ [slot]) =
      finishCommand (finishAll result now s slots) slot result now :=
  List.foldl_concat ..

theorem finishAll_commands (result : RequestState) (now : Nat) (s : Central)
    (slots : List (Fin 64)) (slot : Fin 64) :
    (finishAll result now s slots).commands slot =
      if slot ∈ slots then { s.commands slot with state := result, finishedAt := now }
      else s.commands slot := by
  induction slots using List.reverseRecOn with
  | nil => rfl
  | append_singleton slots last ih =>
      rw [finishAll_append_singleton]
      by_cases hlast : slot = last
      · subst hlast
        rw [if_pos (by simp)]
        show Function.update _ slot _ slot = _
        rw [Function.update_self, ih]
        split <;> rfl
      · show Function.update _ last _ slot = _
        rw [Function.update_of_ne hlast, ih]
        simp [hlast]

theorem sameFiles_finishAll (result : RequestState) (now : Nat) (s : Central)
    (slots : List (Fin 64)) : SameFiles s (finishAll result now s slots) := by
  intro slot
  rw [finishAll_commands]
  split <;> rfl

theorem finishAll_trace (result : RequestState) (now : Nat) (s : Central)
    (slots : List (Fin 64)) :
    (finishAll result now s slots).trace =
      (slots.reverse.map fun slot => .finished (s.commands slot).id result now) ++ s.trace := by
  induction slots using List.reverseRecOn with
  | nil => rfl
  | append_singleton slots last ih =>
      rw [finishAll_append_singleton]
      show QueueEvent.finished _ result now :: _ = _
      rw [ih, (sameFiles_finishAll result now s slots).id]
      simp

/-- The queued records of a peer. -/
def discarded (s : Central) (peer : Fin 8) : List (Fin 64) :=
  (List.finRange 64).filter fun slot =>
    (s.commands slot).id ≠ 0 ∧ (s.commands slot).peer = peer ∧ (s.commands slot).state = .queued

theorem foldl_discardRecord (s : Central) (peer : Fin 8) (now : Nat) {slots : List (Fin 64)}
    (hnodup : slots.Nodup) :
    slots.foldl (discardRecord peer now) s =
      finishAll .canceled now s (slots.filter fun slot =>
        (s.commands slot).id ≠ 0 ∧ (s.commands slot).peer = peer ∧
          (s.commands slot).state = .queued) := by
  induction slots using List.reverseRecOn with
  | nil => rfl
  | append_singleton slots last ih =>
      have hfresh : last ∉ slots := by
        have hdisjoint := List.nodup_append.mp hnodup
        exact fun hmem => hdisjoint.2.2 last hmem last (by simp) rfl
      have hrecord : (finishAll .canceled now s (slots.filter fun slot =>
          (s.commands slot).id ≠ 0 ∧ (s.commands slot).peer = peer ∧
            (s.commands slot).state = .queued)).commands last = s.commands last := by
        rw [finishAll_commands, if_neg]
        exact fun hmem => hfresh (List.mem_of_mem_filter hmem)
      rw [List.foldl_append, ih hnodup.of_append_left, List.filter_append]
      show discardRecord peer now _ last = _
      unfold discardRecord
      rw [hrecord]
      split
      · rename_i hqueued
        rw [List.filter_cons_of_pos (by simpa using hqueued), List.filter_nil,
          finishAll_append_singleton]
      · rename_i hother
        rw [List.filter_cons_of_neg (by simpa using hother), List.filter_nil, List.append_nil]

theorem discardQueue_eq (s : Central) (peer : Fin 8) (now : Nat) :
    discardQueue s peer now =
      { finishAll .canceled now s (discarded s peer) with
        queue := Function.update s.queue peer { s.queue peer with head := 0, count := 0 } } := by
  unfold discardQueue
  rw [foldl_discardRecord s peer now (List.nodup_finRange 64)]
  dsimp only
  rw [finishAll_queue]
  rfl

/-- The entry stays in the queue. -/
def keeps (s : Central) (target : Option (Fin 6)) (work : QueuedCommand) : Bool :=
  (supersedes s target work).isNone

/-- The records that canceling finishes for some entries. -/
def superseded (s : Central) (target : Option (Fin 6)) (works : List QueuedCommand) :
    List (Fin 64) :=
  works.filterMap (supersedes s target)

theorem foldl_cancelStep (s : Central) (target : Option (Fin 6)) (peer : Fin 8) (now : Nat)
    {visited : Nat} (hvisited : visited ≤ 32) :
    let ring := (List.range visited).foldl (Ring.keepStep (keeps s target)) (s.queue peer, 0)
    (List.range visited).foldl (cancelStep target peer now) (s, 0) =
      ({ finishAll .canceled now s
            (superseded s target ((List.range visited).map (s.queue peer).get)) with
          queue := Function.update s.queue peer ring.1 }, ring.2) := by
  induction visited with
  | zero =>
      simp only [List.range_zero, List.foldl_nil, Function.update_eq_self]
      rfl
  | succ visited ih =>
      have hentry := (@Ring.compacting 32 _ QueuedCommand (keeps s target) (s.queue peer) visited
        (by omega)).rest visited (Nat.le_refl _) (by omega)
      dsimp only at ih ⊢
      rw [List.range_succ, List.foldl_append, List.foldl_append, ih (by omega)]
      simp only [List.foldl_cons, List.foldl_nil, List.map_append, List.map_cons, List.map_nil,
        superseded, List.filterMap_append]
      generalize hring : (List.range visited).foldl (Ring.keepStep (keeps s target))
        (s.queue peer, 0) = ring at hentry ⊢
      generalize hslots : List.filterMap (supersedes s target)
        ((List.range visited).map (s.queue peer).get) = slots
      have hfiles : SameFiles s { finishAll .canceled now s slots with
          queue := Function.update s.queue peer ring.1 } :=
        sameFiles_finishAll .canceled now s slots
      unfold cancelStep Ring.keepStep keeps
      simp only [Function.update_self, hentry, hfiles.supersedes]
      cases hfind : supersedes s target ((s.queue peer).get visited) with
      | some slot =>
          simp only [List.filterMap_cons, hfind, List.filterMap_nil, finishAll_append_singleton,
            Option.isNone_some, Bool.false_eq_true, if_false]
          rfl
      | none =>
          simp only [List.filterMap_cons, hfind, List.filterMap_nil, List.append_nil,
            Option.isNone_none, if_true, Function.update_idem]

theorem cancelPeer_eq (s : Central) (target : Option (Fin 6)) (now : Nat) (peer : Fin 8)
    (hcount : (s.queue peer).count ≤ 32) :
    cancelPeer target now s peer =
      { finishAll .canceled now s (superseded s target (s.queue peer).view) with
        queue := Function.update s.queue peer ((s.queue peer).compact (keeps s target)) } := by
  unfold cancelPeer
  rw [foldl_cancelStep s target peer now hcount]
  simp only [Function.update_self, Function.update_idem]
  rfl

/-- The state without the entry at a position of a queue. -/
def withoutEntry (s : Central) (peer : Fin 8) (i : Nat) : Central :=
  { s with queue := Function.update s.queue peer ((s.queue peer).eraseAt i) }

/-- What may happen to the record of a removed entry. -/
inductive Admission (s : Central) (peer : Fin 8) (work : QueuedCommand) (now : Nat)
    (timestamp : Fin 32 → UInt8) : Taken → Prop
  | stale (hstale : ∀ slot, findCommand s work.id = some slot →
      (s.commands slot).state ≠ .queued) : Admission s peer work now timestamp ⟨s, some work, false⟩
  | dropped {slot : Fin 64} {result : RequestState} (hfind : findCommand s work.id = some slot)
      (hstate : (s.commands slot).state = .queued)
      (hresult : result = .expired ∨ result = .canceled) :
      Admission s peer work now timestamp ⟨finishCommand s slot result now, some work, false⟩
  | handed {slot : Fin 64} (hfind : findCommand s work.id = some slot)
      (hstate : (s.commands slot).state = .queued) :
      Admission s peer work now timestamp
        ⟨{ s with
            commands := Function.update s.commands slot
              { s.commands slot with state := .sending, sentAt := now }
            trace := .handed work.id peer :: s.trace },
          some (stamp work timestamp), true⟩

theorem admission (s : Central) (peer : Fin 8) (work : QueuedCommand) (now : Nat)
    (timestamp : Fin 32 → UInt8) :
    Admission s peer work now timestamp (admitWork routes s peer work now timestamp) := by
  unfold admitWork
  split
  · rename_i hfind
    exact .stale fun slot hslot => by rw [hfind] at hslot; cases hslot
  · rename_i slot hfind
    split
    · rename_i hstate
      apply Admission.stale
      intro slot' hslot
      rw [hfind] at hslot
      obtain rfl := Option.some.inj hslot
      exact hstate
    · rename_i hstate
      have hqueued : (s.commands slot).state = .queued := not_not.mp hstate
      split
      · exact .dropped hfind hqueued (.inl rfl)
      · generalize (if peer = trainPeer then trainReady s now
          else localReady routes s (s.commands slot).target now) = ready
        split
        · exact .dropped hfind hqueued (.inr rfl)
        · exact .handed hfind hqueued

theorem admitWork_ready {peer : Fin 8} {work : QueuedCommand} {now : Nat}
    {timestamp : Fin 32 → UInt8} {slot : Fin 64} (hfind : findCommand s work.id = some slot)
    (hstate : (s.commands slot).state = .queued)
    (hfresh : now < work.notBefore + commandMaxWaitSec * centralNsec)
    (hready : (if peer = trainPeer then trainReady s now
      else localReady routes s (s.commands slot).target now) = true) :
    admitWork routes s peer work now timestamp =
      ⟨{ s with
          commands := Function.update s.commands slot
            { s.commands slot with state := .sending, sentAt := now }
          trace := .handed work.id peer :: s.trace },
        some (stamp work timestamp), true⟩ := by
  unfold admitWork
  rw [hfind]
  dsimp only
  rw [if_neg (not_not.mpr hstate), if_neg (by omega), hready]
  rfl

theorem takeCommand_of_position {peer : Fin 8} {now later i : Nat}
    {timestamp : Fin 32 → UInt8} (hrunning : s.running = true)
    (hposition : (s.queue peer).position (fun work => work.notBefore ≤ now) = some i) :
    takeCommand routes s peer now later timestamp =
      admitWork routes (withoutEntry s peer i) peer ((s.queue peer).get i) later timestamp := by
  unfold takeCommand
  rw [if_neg (by simp [hrunning]), hposition]
  rfl

theorem takeCommand_cases (s : Central) (peer : Fin 8) (now later : Nat)
    (timestamp : Fin 32 → UInt8) :
    ((s.running = false ∨ (s.queue peer).position (fun work => work.notBefore ≤ now) = none) ∧
        takeCommand routes s peer now later timestamp = ⟨s, none, false⟩) ∨
      ∃ i, s.running = true ∧
        (s.queue peer).position (fun work => work.notBefore ≤ now) = some i ∧
        Admission (withoutEntry s peer i) peer ((s.queue peer).get i) later timestamp
          (takeCommand routes s peer now later timestamp) := by
  unfold takeCommand
  split
  · rename_i hrunning
    exact .inl ⟨.inl hrunning, rfl⟩
  · rename_i hrunning
    cases hposition : (s.queue peer).position fun work => decide (work.notBefore ≤ now) with
    | none => exact .inl ⟨.inr rfl, rfl⟩
    | some i => exact .inr ⟨i, by simpa using hrunning, rfl, admission ..⟩

theorem sentStep_of_find {peer : Fin 8} {work : QueuedCommand} {result : SendResult} {now : Nat}
    {slot : Fin 64} (hwork : s.inFlight peer = some work)
    (hfind : findCommand s work.id = some slot) :
    sentStep s peer result now =
      { finishCommand s slot (resultState result) now with
        inFlight := Function.update s.inFlight peer none } := by
  unfold sentStep
  rw [hwork]
  dsimp only
  unfold sendDone
  rw [hfind]
  rfl

theorem bumpId_ne_zero (id : UInt16) : bumpId id ≠ 0 := by
  unfold bumpId
  split
  · rename_i hzero
    rw [hzero]
    decide
  · assumption

theorem nextIdFrom_some {fuel : Nat} {id id' : UInt16} (h : nextIdFrom s fuel id = some id') :
    id' ≠ 0 ∧ reserved s id' = false := by
  induction fuel generalizing id with
  | zero => cases h
  | succ fuel ih =>
      rw [nextIdFrom] at h
      split at h
      · exact ih h
      · rename_i hfree
        obtain rfl := Option.some.inj h
        exact ⟨bumpId_ne_zero id, by simpa using hfree⟩

theorem freeSlotFrom_some {fuel : Nat} {slot slot' : Fin 64}
    (h : freeSlotFrom s fuel slot = some slot') : (s.commands slot').busy = false := by
  induction fuel generalizing slot with
  | zero => cases h
  | succ fuel ih =>
      rw [freeSlotFrom] at h
      split at h
      · exact ih h
      · rename_i hfree
        obtain rfl := Option.some.inj h
        simpa using hfree

theorem toNat_bumpId (id : UInt16) : (bumpId id).toNat = id.toNat % 65535 + 1 := by
  have hlt := id.toNat_lt
  have hadd : (id + 1).toNat = (id.toNat + 1) % 65536 := UInt16.toNat_add id 1
  unfold bumpId
  split
  · rename_i hzero
    have hlast := congrArg UInt16.toNat hzero
    rw [hadd] at hlast
    change (id.toNat + 1) % 65536 = 0 at hlast
    rw [hzero]
    show 1 = _
    omega
  · rename_i hzero
    have hne : (id.toNat + 1) % 65536 ≠ 0 := by
      intro hlast
      apply hzero
      apply UInt16.toNat_inj.mp
      rw [hadd, hlast]
      rfl
    rw [hadd]
    omega

theorem toNat_bumpId_iterate (id : UInt16) (k : Nat) :
    (bumpId^[k + 1] id).toNat = (id.toNat + k) % 65535 + 1 := by
  induction k with
  | zero => exact toNat_bumpId id
  | succ k ih =>
      rw [Function.iterate_succ_apply', toNat_bumpId, ih]
      omega

theorem nextIdFrom_none {fuel : Nat} {id : UInt16} (h : nextIdFrom s fuel id = none) :
    ∀ k < fuel, reserved s (bumpId^[k + 1] id) = true := by
  induction fuel generalizing id with
  | zero => exact fun k hk => absurd hk (Nat.not_lt_zero k)
  | succ fuel ih =>
      rw [nextIdFrom] at h
      split at h
      · rename_i hreserved
        intro k hk
        cases k with
        | zero => exact hreserved
        | succ k => exact ih h k (by omega)
      · cases h

theorem holder_of_reserved {id : UInt16} (h : reserved s id = true) :
    ∃ holder : Fin 64 ⊕ Fin 6,
      Sum.elim (fun slot => (s.commands slot).id) s.policyCommand holder = id := by
  unfold reserved at h
  rcases of_decide_eq_true h with hfind | ⟨i, hi⟩
  · obtain ⟨slot, hslot⟩ := Option.isSome_iff_exists.mp hfind
    exact ⟨.inl slot, (findCommand_some hslot).2⟩
  · exact ⟨.inr i, hi⟩

theorem nextIdLocked_isSome (s : Central) : (nextIdLocked s).isSome := by
  by_contra hnone
  rw [Option.not_isSome_iff_eq_none] at hnone
  have htried : ∀ k : Fin 71, ∃ holder : Fin 64 ⊕ Fin 6,
      Sum.elim (fun slot => (s.commands slot).id) s.policyCommand holder =
        bumpId^[k.val + 1] s.nextId :=
    fun k => holder_of_reserved (nextIdFrom_none hnone k.val k.isLt)
  choose holder hholder using htried
  have hinjective : Function.Injective holder := by
    intro j k hjk
    have hids : bumpId^[j.val + 1] s.nextId = bumpId^[k.val + 1] s.nextId := by
      rw [← hholder j, ← hholder k, hjk]
    have hnat := congrArg UInt16.toNat hids
    rw [toNat_bumpId_iterate, toNat_bumpId_iterate] at hnat
    apply Fin.ext
    have hj := j.isLt
    have hk := k.isLt
    omega
  have hcard := Fintype.card_le_of_injective holder hinjective
  simp at hcard

theorem freeSlotFrom_isSome {fuel k : Nat} {slot : Fin 64} (hk : k < fuel)
    (hfree : (s.commands (slot + Fin.ofNat 64 k)).busy = false) :
    (freeSlotFrom s fuel slot).isSome := by
  induction fuel generalizing slot k with
  | zero => omega
  | succ fuel ih =>
      rw [freeSlotFrom]
      split
      · rename_i hbusy
        cases k with
        | zero =>
            rw [show slot + Fin.ofNat 64 0 = slot from add_zero slot, hbusy] at hfree
            cases hfree
        | succ k =>
            refine @ih k (slot + 1) (by omega) ?_
            have hslot : slot + 1 + Fin.ofNat 64 k = slot + Fin.ofNat 64 (k + 1) := by
              apply Fin.ext
              simp only [Fin.val_add, Fin.ofNat]
              show ((slot.val + 1) % 64 + k % 64) % 64 = _
              omega
            rwa [hslot]
      · rfl

theorem freeSlot_isSome {slot : Fin 64} (h : (s.commands slot).busy = false) :
    (freeSlot s).isSome := by
  have hslot : s.commandNext + Fin.ofNat 64 (slot - s.commandNext).val = slot := by
    simp
  refine @freeSlotFrom_isSome s 64 (slot - s.commandNext).val s.commandNext
    (slot - s.commandNext).isLt ?_
  rwa [hslot]

end TrafficLight.QueueOperations
