import TrafficLight.CommandAdmission

namespace TrafficLight.QueueOrder

open TrafficLight.Runs
open TrafficLight.Protocol
open TrafficLight.RingQueue
open TrafficLight.CommandQueue
open TrafficLight.QueueOperations
open TrafficLight.CommandAdmission

variable {routes : Routes} {s s' : Central}

/-- No ring holds more entries than it has slots. -/
def Bounded (s : Central) : Prop := ∀ peer, (s.queue peer).count ≤ 32

/-- The entries of a peer in order. -/
def entries (s : Central) (peer : Fin 8) : List QueuedCommand := (s.queue peer).view

theorem length_entries (s : Central) (peer : Fin 8) :
    (entries s peer).length = (s.queue peer).count :=
  Ring.length_view _

theorem sameFiles_cancelPeer {target : Option (Fin 6)} {now : Nat} {peer : Fin 8}
    (h : (s.queue peer).count ≤ 32) : SameFiles s (cancelPeer target now s peer) := by
  rw [cancelPeer_eq s target now peer h]
  exact sameFiles_finishAll .canceled now s (superseded s target (s.queue peer).view)

theorem cancelPeer_queue {target : Option (Fin 6)} {now : Nat} {peer : Fin 8}
    (h : (s.queue peer).count ≤ 32) :
    (cancelPeer target now s peer).queue =
      Function.update s.queue peer ((s.queue peer).compact (keeps s target)) := by
  rw [cancelPeer_eq s target now peer h]

theorem SameFiles.keeps (h : SameFiles s s') (target : Option (Fin 6)) :
    keeps s' target = keeps s target := by
  funext work
  rw [QueueOperations.keeps, h.supersedes]
  rfl

theorem bounded_cancelPeer {target : Option (Fin 6)} {now : Nat} {peer : Fin 8}
    (h : Bounded s) : Bounded (cancelPeer target now s peer) := by
  intro other
  rw [cancelPeer_queue (h peer)]
  by_cases hother : other = peer
  · subst hother
    rw [Function.update_self]
    exact (Ring.compact_count_le (h other)).trans (h other)
  · rw [Function.update_of_ne hother]
    exact h other

theorem foldl_cancelPeer {target : Option (Fin 6)} {now : Nat} {order : List (Fin 8)}
    (hnodup : order.Nodup) (h : Bounded s) :
    Bounded (order.foldl (cancelPeer target now) s) ∧
      SameFiles s (order.foldl (cancelPeer target now) s) ∧
      ∀ peer, (order.foldl (cancelPeer target now) s).queue peer =
        if peer ∈ order then (s.queue peer).compact (keeps s target) else s.queue peer := by
  induction order using List.reverseRecOn with
  | nil => exact ⟨h, fun _ => rfl, fun _ => rfl⟩
  | append_singleton order last ih =>
      obtain ⟨hbounded, hfiles, hqueue⟩ := ih hnodup.of_append_left
      have hfresh : last ∉ order :=
        fun hmem => (List.nodup_append.mp hnodup).2.2 last hmem last (by simp) rfl
      rw [List.foldl_append, List.foldl_cons, List.foldl_nil]
      generalize order.foldl (cancelPeer target now) s = s₁ at hbounded hfiles hqueue ⊢
      refine ⟨bounded_cancelPeer hbounded, ?_, ?_⟩
      · intro slot
        rw [sameFiles_cancelPeer (hbounded last) slot, hfiles slot]
      · intro peer
        rw [cancelPeer_queue (hbounded last), SameFiles.keeps hfiles]
        by_cases hpeer : peer = last
        · subst hpeer
          rw [Function.update_self, hqueue, if_neg hfresh, if_pos (by simp)]
        · rw [Function.update_of_ne hpeer, hqueue]
          simp [hpeer]

theorem nodup_peers (routes : Routes) : (peers routes).Nodup :=
  (List.nodup_finRange 8).filter _

theorem mem_peers {peer : Fin 8} : peer ∈ peers routes ↔ peer.val < routes.peerCount := by
  simp [peers]

theorem cancelAutomatic_queue {target : Option (Fin 6)} {now : Nat} (h : Bounded s)
    (peer : Fin 8) :
    (cancelAutomatic routes s target now).queue peer =
      if peer.val < routes.peerCount then (s.queue peer).compact (keeps s target)
      else s.queue peer := by
  rw [cancelAutomatic, (foldl_cancelPeer (nodup_peers routes) h).2.2]
  simp only [mem_peers]

theorem discardQueue_queue (s : Central) (peer : Fin 8) (now : Nat) :
    (discardQueue s peer now).queue =
      Function.update s.queue peer { s.queue peer with head := 0, count := 0 } := by
  rw [discardQueue_eq]

theorem foldl_discardQueue (now : Nat) {order : List (Fin 8)} (s : Central) (peer : Fin 8) :
    ((order.foldl (fun s peer => discardQueue s peer now) s).queue peer) =
      if peer ∈ order then { s.queue peer with head := 0, count := 0 } else s.queue peer := by
  induction order generalizing s with
  | nil => rfl
  | cons first order ih =>
      rw [List.foldl_cons, ih, discardQueue_queue]
      by_cases hpeer : peer = first
      · subst hpeer
        simp
      · simp [hpeer]

/-- What a step does to the list of a peer. -/
def queueOp (routes : Routes) (s : Central) (peer : Fin 8) : QueueAction → ListOp QueuedCommand
  | .enqueue prototype target delay automatic now =>
      .append ((entries (queueStep routes s (.enqueue prototype target delay automatic now))
        peer).drop (s.queue peer).count)
  | .take taker now _ _ =>
      if taker = peer ∧ s.running = true ∧ s.inFlight peer = none then
        .take fun work => work.notBefore ≤ now
      else .append []
  | .cancel target _ =>
      if peer.val < routes.peerCount then .keep (keeps s target) else .append []
  | .lost loser _ => if loser = peer then .keep fun _ => false else .append []
  | .stop _ => if peer.val < routes.peerCount then .keep fun _ => false else .append []
  | _ => .append []

theorem takeCommand_entries (h : Bounded s) (peer : Fin 8) (now later : Nat)
    (timestamp : Fin 32 → UInt8) (other : Fin 8) :
    let taken := takeCommand routes s peer now later timestamp
    entries taken.central other =
        (if other = peer ∧ s.running = true then
          (entries s other).eraseP fun work => work.notBefore ≤ now
        else entries s other) ∧
      (taken.central.queue other).count ≤ (s.queue other).count := by
  have hqueue : ∀ {i : Nat} {taken : Taken} {work : QueuedCommand},
      Admission (withoutEntry s peer i) peer work later timestamp taken →
        taken.central.queue = (withoutEntry s peer i).queue := by
    rintro i taken work (_ | _ | _) <;> rfl
  dsimp only
  rcases @takeCommand_cases routes s peer now later timestamp with
    ⟨hnone, htaken⟩ | ⟨i, hrunning, hposition, hadmission⟩
  · rw [htaken]
    refine ⟨?_, Nat.le_refl _⟩
    split
    · rename_i hpeer
      obtain ⟨rfl, hrunning⟩ := hpeer
      rcases hnone with hstopped | hnone
      · rw [hrunning] at hstopped
        cases hstopped
      · symm
        apply List.eraseP_of_forall_not
        intro work hwork
        simpa using Ring.position_none hnone work hwork
    · rfl
  · rw [entries, hqueue hadmission]
    show (Function.update s.queue peer _ other).view = _ ∧
      (Function.update s.queue peer _ other).count ≤ _
    by_cases hother : other = peer
    · subst hother
      rw [Function.update_self, if_pos ⟨rfl, hrunning⟩]
      refine ⟨Ring.view_eraseAt_position (h other) hposition, ?_⟩
      exact Nat.sub_le ..
    · rw [Function.update_of_ne hother, if_neg (fun hboth => hother hboth.1)]
      exact ⟨rfl, Nat.le_refl _⟩

theorem enqueue_entries (h : Bounded s) {prototype : TestMessage} {target : Option (Fin 6)}
    {delay : Nat} {automatic : Bool} {now : Nat} {fresh : List Fresh}
    (hadmitted : enqueueRefusal routes s prototype target now = none)
    (htargets : fresh.map Fresh.target = expand prototype target)
    (hfiles : Files routes prototype delay automatic now s fresh s') (peer : Fin 8) :
    entries s' peer = entries s peer ++
        (sentTo routes prototype fresh peer).map (freshEntry prototype delay now) ∧
      (s'.queue peer).count ≤ 32 := by
  have hroom := room_of_admitted hadmitted htargets (fun other _ => h other) peer
  obtain ⟨hview, hcount⟩ := hfiles.queue hroom
  exact ⟨hview, hcount.le.trans hroom⟩

theorem sentStep_queue (s : Central) (peer : Fin 8) (result : CentralFrames.SendResult)
    (now : Nat) : (sentStep s peer result now).queue = s.queue := by
  unfold sentStep
  split
  · rfl
  · show (sendDone s _ result now).queue = s.queue
    unfold sendDone
    split <;> rfl

theorem entries_queueStep (h : Bounded s) (a : QueueAction) :
    Bounded (queueStep routes s a) ∧
      ∀ peer, entries (queueStep routes s a) peer =
        listStep (entries s peer) (queueOp routes s peer a) := by
  have hsame : ∀ {s' : Central}, s'.queue = s.queue →
      Bounded s' ∧ ∀ peer, entries s' peer = entries s peer ++ [] := by
    intro s' hqueue
    refine ⟨fun peer => by rw [hqueue]; exact h peer, fun peer => ?_⟩
    rw [List.append_nil, entries, hqueue]
    rfl
  cases a with
  | enqueue prototype target delay automatic now =>
      rcases @enqueueCommand_cases routes s prototype target delay automatic now with
        ⟨refusal, _, hresult⟩ | ⟨s', fresh, hadmitted, hresult, htargets, hfiles⟩
      · have hstep : queueStep routes s (.enqueue prototype target delay automatic now) = s := by
          rw [queueStep, hresult]
        refine ⟨by rw [hstep]; exact h, fun peer => ?_⟩
        rw [queueOp, hstep]
        show _ = entries s peer ++ (entries s peer).drop (s.queue peer).count
        rw [List.drop_of_length_le (length_entries s peer).le, List.append_nil]
      · have hstep : queueStep routes s (.enqueue prototype target delay automatic now) = s' := by
          rw [queueStep, hresult]
        refine ⟨fun peer => ?_, fun peer => ?_⟩
        · rw [hstep]
          exact (enqueue_entries h hadmitted htargets hfiles peer).2
        · rw [queueOp, hstep, (enqueue_entries h hadmitted htargets hfiles peer).1]
          show _ = entries s peer ++ _
          rw [List.drop_left' (length_entries s peer)]
  | take taker now later timestamp =>
      show Bounded (takeStep routes s taker now later timestamp) ∧
        ∀ peer, entries (takeStep routes s taker now later timestamp) peer = _
      unfold takeStep
      -- a thread that still has a request under way takes nothing
      split
      · rename_i hbusy
        obtain ⟨hbounded, hentries⟩ := @hsame s rfl
        refine ⟨hbounded, fun peer => ?_⟩
        rw [queueOp, if_neg]
        · exact hentries peer
        · rintro ⟨rfl, _, hidle⟩
          rw [hidle] at hbusy
          cases hbusy
      · rename_i hidle
        rw [Option.not_isSome_iff_eq_none] at hidle
        have htake := @takeCommand_entries routes s h taker now later timestamp
        have hcentral : ∀ peer, ∀ s' : Central,
            s'.queue = (takeCommand routes s taker now later timestamp).central.queue →
            (s'.queue peer).count ≤ 32 ∧ entries s' peer =
              listStep (entries s peer)
                (queueOp routes s peer (.take taker now later timestamp)) := by
          intro peer s' hqueue
          obtain ⟨hentries, hcount⟩ := htake peer
          rw [entries, hqueue]
          refine ⟨hcount.trans (h peer), hentries.trans ?_⟩
          rw [queueOp]
          by_cases hpeer : peer = taker
          · subst hpeer
            by_cases hrunning : s.running = true
            · rw [if_pos ⟨rfl, hrunning⟩, if_pos ⟨rfl, hrunning, hidle⟩]
              rfl
            · rw [if_neg (fun hboth => hrunning hboth.2), if_neg (fun hall => hrunning hall.2.1)]
              exact (List.append_nil _).symm
          · rw [if_neg (fun hboth => hpeer hboth.1), if_neg (fun hall => hpeer hall.1.symm)]
            exact (List.append_nil _).symm
        dsimp only
        split
        · exact ⟨fun peer => (hcentral peer _ rfl).1, fun peer => (hcentral peer _ rfl).2⟩
        · exact ⟨fun peer => (hcentral peer _ rfl).1, fun peer => (hcentral peer _ rfl).2⟩
  | sent peer result now => exact hsame (sentStep_queue s peer result now)
  | cancel target now =>
      have hqueue := @cancelAutomatic_queue routes s target now h
      constructor
      · exact (foldl_cancelPeer (nodup_peers routes) h).1
      · intro peer
        show (((cancelAutomatic routes s target now).queue peer).view) = _
        rw [hqueue, queueOp]
        split
        · exact Ring.view_compact (h peer)
        · exact (List.append_nil _).symm
  | lost loser now =>
      have hqueue := discardQueue_queue { s with
        endpointConnected := Function.update s.endpointConnected loser false
        endpointProbe := Function.update s.endpointProbe loser 0 } loser now
      constructor
      · intro peer
        show ((discardQueue _ loser now).queue peer).count ≤ 32
        rw [hqueue]
        by_cases hpeer : peer = loser
        · subst hpeer
          rw [Function.update_self]
          exact Nat.zero_le _
        · rw [Function.update_of_ne hpeer]
          exact h peer
      · intro peer
        show ((discardQueue _ loser now).queue peer).view = _
        rw [hqueue, queueOp]
        by_cases hpeer : peer = loser
        · subst hpeer
          rw [Function.update_self, if_pos rfl]
          exact (List.filter_false _).symm
        · rw [Function.update_of_ne hpeer, if_neg fun heq => hpeer heq.symm]
          exact (List.append_nil _).symm
  | stop now =>
      have hqueue := @foldl_discardQueue now (peers routes) { s with running := false }
      simp only [mem_peers] at hqueue
      constructor
      · intro peer
        show (((peers routes).foldl (fun s peer => discardQueue s peer now)
          { s with running := false }).queue peer).count ≤ 32
        rw [hqueue]
        split
        · exact Nat.zero_le _
        · exact h peer
      · intro peer
        show (((peers routes).foldl (fun s peer => discardQueue s peer now)
          { s with running := false }).queue peer).view = _
        rw [hqueue, queueOp]
        split
        · exact (List.filter_false _).symm
        · exact (List.append_nil _).symm
  | observe monitor connected probe => exact hsame rfl
  | release target => exact hsame rfl
  | operator policyAck scheduledMode operatorPolicy => exact hsame rfl

/-- What `take_command` returns for an entry: a request that is to be sent
carries the time of sending. -/
def returned (timestamp : Fin 32 → UInt8) (taken : Taken) (work : QueuedCommand) :
    QueuedCommand :=
  if taken.ready then stamp work timestamp else work

/-- The operations of a state, seen on the lists of entries. -/
structure Listed (routes : Routes) (s : Central) : Prop where
  enqueue : ∀ prototype target delay automatic now s',
    enqueueCommand routes s prototype target delay automatic now = some ⟨s', none⟩ →
      ∃ fresh : List Fresh, fresh.map Fresh.target = expand prototype target ∧
        ∀ peer, entries s' peer = entries s peer ++
          (sentTo routes prototype fresh peer).map (freshEntry prototype delay now)
  take : ∀ peer now later timestamp,
    let taken := takeCommand routes s peer now later timestamp
    match (entries s peer).find? fun work => work.notBefore ≤ now with
    | some work => s.running = true →
        ∃ before after, entries s peer = before ++ work :: after ∧
          (∀ earlier ∈ before, now < earlier.notBefore) ∧ work.notBefore ≤ now ∧
          taken.work = some (returned timestamp taken work) ∧
          entries taken.central peer = before ++ after ∧
          ∀ other, other ≠ peer → entries taken.central other = entries s other
    | none => taken = ⟨s, none, false⟩
  cancel : ∀ target now (peer : Fin 8),
    entries (cancelAutomatic routes s target now) peer =
      if peer.val < routes.peerCount then
        (entries s peer).filter fun work =>
          ! decide (∃ slot, findCommand s work.id = some slot ∧
            (s.commands slot).automatic = true ∧
              (target = none ∨ target = some (s.commands slot).target))
      else entries s peer

theorem keeps_eq (s : Central) (target : Option (Fin 6)) (work : QueuedCommand) :
    keeps s target work = ! decide (∃ slot, findCommand s work.id = some slot ∧
      (s.commands slot).automatic = true ∧
        (target = none ∨ target = some (s.commands slot).target)) := by
  unfold keeps supersedes
  cases hfind : findCommand s work.id with
  | none => simp
  | some slot =>
      by_cases hmatch : (s.commands slot).automatic = true ∧
          (target = none ∨ target = some (s.commands slot).target)
      · simp [Option.filter, hmatch]
      · simp [Option.filter, hmatch]

theorem work_of_admission {s : Central} {peer : Fin 8} {work : QueuedCommand} {now : Nat}
    {timestamp : Fin 32 → UInt8} {taken : Taken}
    (h : Admission s peer work now timestamp taken) :
    taken.work = some (returned timestamp taken work) := by
  cases h <;> rfl

theorem listed_take (h : Bounded s) (peer : Fin 8) (now later : Nat)
    (timestamp : Fin 32 → UInt8) :
    let taken := takeCommand routes s peer now later timestamp
    match (entries s peer).find? fun work => work.notBefore ≤ now with
    | some work => s.running = true →
        ∃ before after, entries s peer = before ++ work :: after ∧
          (∀ earlier ∈ before, now < earlier.notBefore) ∧ work.notBefore ≤ now ∧
          taken.work = some (returned timestamp taken work) ∧
          entries taken.central peer = before ++ after ∧
          ∀ other, other ≠ peer → entries taken.central other = entries s other
    | none => taken = ⟨s, none, false⟩ := by
  dsimp only
  have hentries := @takeCommand_entries routes s h peer now later timestamp
  rcases @takeCommand_cases routes s peer now later timestamp with
    ⟨hnone, htaken⟩ | ⟨i, hrunning, hposition, hadmission⟩
  · split
    · rename_i work hfind
      intro hrunning
      rcases hnone with hstopped | hnone
      · rw [hrunning] at hstopped
        cases hstopped
      · have hdue := List.find?_some hfind
        rw [Ring.position_none hnone work (List.mem_of_find?_eq_some hfind)] at hdue
        cases hdue
    · exact htaken
  · have hfind := Ring.find_view_of_position hposition
    rw [entries, hfind]
    dsimp only
    intro _
    obtain ⟨hdue, before, after, hsplit, hbefore⟩ := List.find?_eq_some_iff_append.mp hfind
    have hlate : ∀ earlier ∈ before, now < earlier.notBefore := by
      intro earlier hmem
      simpa using hbefore earlier hmem
    refine ⟨before, after, hsplit, hlate, of_decide_eq_true hdue, work_of_admission hadmission,
      ?_, ?_⟩
    · rw [(hentries peer).1, if_pos ⟨rfl, hrunning⟩, entries, hsplit,
        List.eraseP_append_right _ (by simpa using hlate),
        List.eraseP_cons_of_pos (p := fun work : QueuedCommand => decide (work.notBefore ≤ now))
          hdue]
    · intro other hother
      rw [(hentries other).1, if_neg fun hboth => hother hboth.1]

theorem listed_of_bounded (h : Bounded s) : Listed routes s := by
  constructor
  · intro prototype target delay automatic now s' hresult
    rcases @enqueueCommand_cases routes s prototype target delay automatic now with
      ⟨refusal, _, hrefused⟩ | ⟨s₁, fresh, hadmitted, haccepted, htargets, hfiles⟩
    · rw [hrefused] at hresult
      cases hresult
    · rw [haccepted] at hresult
      cases hresult
      exact ⟨fresh, htargets, fun peer => (enqueue_entries h hadmitted htargets hfiles peer).1⟩
  · exact listed_take h
  · intro target now peer
    rw [entries, cancelAutomatic_queue h]
    split
    · rw [Ring.view_compact (h peer)]
      exact List.filter_congr fun work _ => keeps_eq s target work
    · rfl

/-- What the steps of a run do to the list of a peer. -/
def queueOps (routes : Routes) (peer : Fin 8) : Central → List QueueAction →
    List (ListOp QueuedCommand)
  | _, [] => []
  | s, a :: as => queueOp routes s peer a :: queueOps routes peer (queueStep routes s a) as

theorem entries_run (h : Bounded s) (as : List QueueAction) (peer : Fin 8)
    (g : Ledger QueuedCommand) :
    entries (run (queueStep routes) s as) peer =
      (listRun (entries s peer) g (queueOps routes peer s as)).1 := by
  induction as generalizing s g with
  | nil => rfl
  | cons a as ih =>
      obtain ⟨hbounded, hentries⟩ := @entries_queueStep routes s h a
      rw [run_cons, ih hbounded, hentries peer]
      rfl

/-- In every state of every run the operations act on the lists of entries, and
over the whole run the entries of a peer stay in the order in which they were
enqueued, none lost and none doubled. -/
theorem rings_are_lists (h : Bounded s) (as : List QueueAction) :
    Listed routes (run (queueStep routes) s as) ∧
      ∀ peer,
        let result := listRun (entries s peer) ⟨[], [], []⟩ (queueOps routes peer s as)
        entries (run (queueStep routes) s as) peer = result.1 ∧
          Accounted (entries s peer) result.1 result.2 := by
  constructor
  · apply listed_of_bounded
    exact run_invariant (I := Bounded) (fun s a hs => (entries_queueStep hs a).1) h as
  · intro peer
    exact ⟨entries_run h as peer _, accounted_listRun (accounted_start _) _⟩

/-- The default routing: the first intersection uses the first endpoint, the
others those behind the one of the trains. -/
def defaultRoutes : Routes :=
  { peerCount := 7
    route := fun i => if i = 0 then 0 else Fin.ofNat 8 (i.val + 1)
    two_le := by decide
    le_eight := by decide
    route_lt := by decide }

/-- A state whose rings all wrap around, with four entries due at different times. -/
def wrappedStart : Central :=
  { centralStart 5 with
    queue := fun _ => ⟨fun slot => ⟨frameOf 0 0 0 [], 0, slot.val⟩, 30, 4⟩ }

theorem rings_are_lists_wrapped :
    Listed defaultRoutes
        (run (queueStep defaultRoutes) wrappedStart [.take 0 1 2 blankTimestamp, .cancel none 3]) ∧
      ∀ peer,
        let result := listRun (entries wrappedStart peer) ⟨[], [], []⟩
          (queueOps defaultRoutes peer wrappedStart [.take 0 1 2 blankTimestamp, .cancel none 3])
        entries (run (queueStep defaultRoutes) wrappedStart
            [.take 0 1 2 blankTimestamp, .cancel none 3]) peer = result.1 ∧
          Accounted (entries wrappedStart peer) result.1 result.2 :=
  rings_are_lists (fun _ => (by decide : 4 ≤ 32)) [.take 0 1 2 blankTimestamp, .cancel none 3]

end TrafficLight.QueueOrder
