import TrafficLight.CrossingRuns

namespace TrafficLight.CrossingInvariant

open TrafficLight.Runs
open TrafficLight.Protocol
open TrafficLight.CrossingMachine
open TrafficLight.CrossingOutcomes
open TrafficLight.CrossingCalls
open TrafficLight.CrossingRuns

theorem forall_direction {p : TrackDirection → Prop} : (∀ d, p d) ↔ p .up ∧ p .down :=
  ⟨fun h => ⟨h .up, h .down⟩, fun h d => by cases d; exacts [h.1, h.2]⟩

theorem exists_direction {p : TrackDirection → Prop} : (∃ d, p d) ↔ p .up ∨ p .down := by
  constructor
  · rintro ⟨d, hd⟩
    cases d
    exacts [.inl hd, .inr hd]
  · rintro (h | h)
    exacts [⟨_, h⟩, ⟨_, h⟩]

/-- A train is coming or on the crossing. -/
def Busy (cx : Crossing) (dir : TrackDirection) : Prop :=
  cx.track dir = .approaching ∨ cx.track dir = .onCrossing

structure CxInv (cx : Crossing) : Prop where
  gate_fault : cx.gate = .fault ↔ cx.fault ≠ .none
  onCrossing_closed : ∀ dir, cx.fault = .none → cx.track dir = .onCrossing → cx.gate = .closed
  flash : cx.flashOn = false ↔ cx.fault = .none ∧ cx.gate = .open ∧ ∀ dir, cx.track dir = .none
  closeDelay : cx.closeDelayPending = true ↔
    cx.fault = .none ∧ cx.gate = .open ∧ ∃ dir, cx.track dir = .approaching
  cleared_busy : ∀ dir, cx.track dir = .cleared → Busy cx dir.other
  shut_busy : cx.fault = .none →
    (cx.gate = .closed ∨ (cx.gate = .closing ∧ cx.resetPending = false)) → ∃ dir, Busy cx dir
  reset_closing : cx.fault = .none → cx.resetPending = true → cx.gate = .closing

theorem cxInv_iff (cx : Crossing) :
    CxInv cx ↔
      (cx.gate = .fault ↔ cx.fault ≠ .none) ∧
      (cx.fault = .none →
        (cx.track .up = .onCrossing → cx.gate = .closed) ∧
          (cx.track .down = .onCrossing → cx.gate = .closed)) ∧
      (cx.flashOn = false ↔
        cx.fault = .none ∧ cx.gate = .open ∧ cx.track .up = .none ∧
          cx.track .down = .none) ∧
      (cx.closeDelayPending = true ↔
        cx.fault = .none ∧ cx.gate = .open ∧
          (cx.track .up = .approaching ∨ cx.track .down = .approaching)) ∧
      ((cx.track .up = .cleared → Busy cx .down) ∧
        (cx.track .down = .cleared → Busy cx .up)) ∧
      (cx.fault = .none →
        (cx.gate = .closed ∨ (cx.gate = .closing ∧ cx.resetPending = false)) →
          Busy cx .up ∨ Busy cx .down) ∧
      (cx.fault = .none → cx.resetPending = true → cx.gate = .closing) := by
  constructor
  · rintro ⟨h1, h2, h3, h4, h5, h6, h7⟩
    simp only [forall_direction, exists_direction] at h3 h4 h6
    exact ⟨h1, fun hf => ⟨h2 _ hf, h2 _ hf⟩, h3, h4, ⟨h5 .up, h5 .down⟩, h6, h7⟩
  · rintro ⟨h1, h2, h3, h4, h5, h6, h7⟩
    refine ⟨h1, ?_, ?_, ?_, ?_, ?_, h7⟩
    · intro dir hf
      cases dir
      exacts [(h2 hf).1, (h2 hf).2]
    · simpa only [forall_direction] using h3
    · simpa only [exists_direction] using h4
    · intro dir
      cases dir
      exacts [h5.1, h5.2]
    · simpa only [exists_direction] using h6

theorem bothTracksClear_eq_false (cx : Crossing) :
    crossingBothTracksClear cx = false ↔ Busy cx .up ∨ Busy cx .down := by
  simp only [crossingBothTracksClear, Busy]
  cases cx.track .up <;> cases cx.track .down <;> simp

theorem CxInv.outcome {cx cx' : Crossing} {event : CrossingEvent} {os : List CxOp}
    (hinv : CxInv cx) (h : Outcome cx event cx' os)
    (htimer : ∀ gen, event = .timer .gateCloseDelay gen →
      gen = cx.timerGen .gateCloseDelay → cx.fault = .none → cx.closeDelayPending = true) :
    CxInv cx' := by
  cases h with
  | ignoredFaulted | approachIgnored | enterIgnored | exitIgnored | closedIgnored
  | openedIgnored | timerStale | resetIgnored => exact hinv
  | @approachDelay dir | @approachReclose dir | @approachOther dir =>
      rw [cxInv_iff] at hinv ⊢
      cases dir <;> simp [Busy, approached, closeStarted] at hinv ⊢ <;> grind
  | enterEarly | timerFault | injected =>
      rw [cxInv_iff] at hinv ⊢
      simp [Busy, faulted, *] at hinv ⊢
      grind
  | @enterClosed dir =>
      rw [cxInv_iff] at hinv ⊢
      cases dir <;> simp [Busy, entered] at hinv ⊢ <;> grind
  | @exitBusy dir =>
      rw [cxInv_iff] at hinv ⊢
      cases dir <;> simp [Busy, exited] at hinv ⊢ <;> grind [TrackDirection.other]
  | @exitOpen dir | @exitReleased dir =>
      rw [cxInv_iff] at hinv ⊢
      cases dir <;> simp [Busy, released, openStarted] at hinv ⊢ <;>
        grind [TrackDirection.other]
  | closedHeld | closedReset =>
      rw [cxInv_iff] at hinv ⊢
      simp [Busy, closedGate, openStarted] at hinv ⊢
      grind
  | openedReclose _ _ hbusy =>
      rw [bothTracksClear_eq_false] at hbusy
      rw [cxInv_iff] at hinv ⊢
      simp [Busy, openedGate, closeStarted] at hinv hbusy ⊢
      grind
  | openedClear _ _ hclear =>
      rw [cxInv_iff] at hinv ⊢
      simp [Busy, openedGate, crossingBothTracksClear] at hinv hclear ⊢
      grind
  | timerClose hfault hgen =>
      -- the one branch that needs to know where its timer comes from
      have hpending := htimer _ rfl hgen hfault
      rw [cxInv_iff] at hinv ⊢
      simp [Busy, closeStarted] at hinv ⊢
      grind
  | timerCloseIdle =>
      rw [cxInv_iff] at hinv ⊢
      simp [Busy] at hinv ⊢
      grind
  | reset =>
      rw [cxInv_iff] at hinv ⊢
      simp [Busy, resetStarted] at hinv ⊢
      grind

/-- The timers that the callbacks start. -/
def startsOf (os : List CxOp) : List TimerId :=
  os.filterMap fun
    | .startTimer id _ => some id
    | _ => none

theorem mem_armedBy {issued : TimerId → Nat} {calls : List CxCall} {timer : ArmedTimer} :
    timer ∈ armedBy issued calls ↔
      ∃ call ∈ calls, (∃ seconds, call.op = .startTimer timer.timerId seconds) ∧
        timer.timerGen = call.cx.timerGen timer.timerId ∧
        timer.serial = issued timer.timerId := by
  simp only [armedBy, List.mem_filterMap]
  constructor
  · rintro ⟨call, hcall, hsome⟩
    refine ⟨call, hcall, ?_⟩
    split at hsome
    · rename_i id seconds hop
      obtain rfl := Option.some.inj hsome
      exact ⟨⟨seconds, hop⟩, rfl, rfl⟩
    · cases hsome
  · rintro ⟨call, hcall, ⟨seconds, hop⟩, hgen, hserial⟩
    refine ⟨call, hcall, ?_⟩
    rw [hop]
    cases timer
    simp_all

theorem armedBy_timerId (issued : TimerId → Nat) (calls : List CxCall) :
    (armedBy issued calls).map ArmedTimer.timerId = startsOf (calls.map CxCall.op) := by
  induction calls with
  | nil => rfl
  | cons call calls ih =>
      simp only [armedBy, startsOf, List.map_cons, List.filterMap_cons] at ih ⊢
      cases call.op <;> simp [ih]

theorem mem_startsOf {os : List CxOp} {id : TimerId} :
    id ∈ startsOf os ↔ ∃ seconds, .startTimer id seconds ∈ os := by
  simp only [startsOf, List.mem_filterMap]
  constructor
  · rintro ⟨op, hop, hsome⟩
    cases op <;> simp_all
    exact ⟨_, hop⟩
  · rintro ⟨seconds, hop⟩
    exact ⟨_, hop, rfl⟩

theorem issues_of_mem_startsOf {os : List CxOp} {id : TimerId} (h : id ∈ startsOf os) :
    0 < os.countP (issues id) := by
  obtain ⟨seconds, hop⟩ := mem_startsOf.mp h
  exact List.countP_pos_iff.mpr ⟨_, hop, by simp [issues]⟩

@[simp] theorem startsOf_append (os os' : List CxOp) :
    startsOf (os ++ os') = startsOf os ++ startsOf os' :=
  List.filterMap_append

@[simp] theorem startsOf_nil : startsOf [] = [] := rfl

@[simp] theorem startsOf_cons (op : CxOp) (os : List CxOp) :
    startsOf (op :: os) =
      (match op with | .startTimer id _ => [id] | _ => []) ++ startsOf os := by
  cases op <;> rfl

@[simp] theorem startsOf_flashOps (flashOn : Bool) : startsOf (flashOps flashOn) = [] := by
  cases flashOn <;> rfl

@[simp] theorem startsOf_faultOps (flashOn : Bool) (fault : CxFault) :
    startsOf (faultOps flashOn fault) = [] := by
  cases flashOn <;> rfl

@[simp] theorem startsOf_closeOps (gate : GateState) :
    startsOf (closeOps gate) = [.gateCloseTimeout] := by
  cases gate <;> rfl

theorem outcome_starts {cx cx' : Crossing} {event : CrossingEvent} {os : List CxOp}
    (h : Outcome cx event cx' os) :
    (startsOf os).length ≤ 1 ∧
      (.gateCloseDelay ∈ startsOf os → cx'.closeDelayPending = true) := by
  cases h with
  | @enterClosed dir | @exitBusy dir | @exitOpen dir | @exitReleased dir =>
      cases dir <;> simp [openOps, trainTimeoutTimer]
  | _ => simp [openOps]

/-- A running delay ends in one of two ways: its timer moves on to a new
generation, or its timer fires. -/
theorem outcome_closeDelay {cx cx' : Crossing} {event : CrossingEvent} {os : List CxOp}
    (hinv : CxInv cx) (h : Outcome cx event cx' os) (hon : cx.closeDelayPending = true)
    (hoff : cx'.closeDelayPending = false) :
    0 < os.countP (issues .gateCloseDelay) ∨
      event = .timer .gateCloseDelay (cx.timerGen .gateCloseDelay) := by
  obtain ⟨-, hgate, -⟩ := hinv.closeDelay.mp hon
  cases h with
  | timerClose _ hgen => exact .inr (by rw [hgen])
  | timerCloseIdle _ hgen => exact .inr (by rw [hgen])
  | approachReclose | exitOpen | closedReset | openedReclose => simp_all
  | enterEarly | timerFault | injected => exact .inl (by simp)
  | _ =>
      simp_all [approached, exited, released, resetStarted]

structure TimerInv (sys : CrossingSystem) : Prop where
  gen : ∀ id, sys.cx.timerGen id = UInt32.ofNat (sys.issued id)
  armed_gen : ∀ timer ∈ sys.armed, timer.timerGen = UInt32.ofNat timer.serial
  armed_serial : ∀ timer ∈ sys.armed, timer.serial ≤ sys.issued timer.timerId
  nodup : sys.armed.Nodup
  idle_stale : sys.cx.closeDelayPending = false → ∀ timer ∈ sys.armed,
    timer.timerId = .gateCloseDelay → timer.serial < sys.issued .gateCloseDelay

/-- A close-delay timer fires before 2^32 further generations were issued. -/
def Timely (sys : CrossingSystem) : Delivery → Prop
  | .occurs _ => True
  | .expires timer => timer.timerId = .gateCloseDelay →
      sys.issued .gateCloseDelay < timer.serial + 2 ^ 32

instance (sys : CrossingSystem) (d : Delivery) : Decidable (Timely sys d) :=
  match d with
  | .occurs _ => inferInstanceAs (Decidable True)
  | .expires timer => inferInstanceAs (Decidable (timer.timerId = .gateCloseDelay → _))

theorem ofNat_injective {a b : Nat} (h : UInt32.ofNat a = UInt32.ofNat b) (hab : a ≤ b)
    (hwrap : b < a + 2 ^ 32) : a = b := by
  have hmod := congrArg UInt32.toNat h
  simp only [UInt32.toNat_ofNat'] at hmod
  omega

theorem remaining_subset {sys : CrossingSystem} {d : Delivery} {timer : ArmedTimer}
    (h : timer ∈ d.remaining sys.armed) : timer ∈ sys.armed := by
  cases d with
  | occurs event => exact h
  | expires fired => exact List.mem_of_mem_erase h

theorem issued_le (sys : CrossingSystem) (d : Delivery) (id : TimerId) :
    sys.issued id ≤ (deliver sys d).issued id :=
  Nat.le_add_right _ _

/-- A timer the handler starts has the generation and the serial number that
are current afterwards, and it is a new one. -/
theorem armedBy_deliver {sys : CrossingSystem} {d : Delivery} {timer : ArmedTimer}
    (h : timer ∈ armedBy (deliver sys d).issued (crossingHandleEvent sys.cx d.toEvent).calls) :
    timer.timerId ∈ startsOf (ops (crossingHandleEvent sys.cx d.toEvent)) ∧
      timer.timerGen = (deliver sys d).cx.timerGen timer.timerId ∧
      timer.serial = (deliver sys d).issued timer.timerId ∧
      sys.issued timer.timerId < timer.serial := by
  obtain ⟨call, hcall, ⟨seconds, hop⟩, hgen, hserial⟩ := mem_armedBy.mp h
  have hstart : timer.timerId ∈ startsOf (ops (crossingHandleEvent sys.cx d.toEvent)) :=
    mem_startsOf.mpr ⟨seconds, hop ▸ List.mem_map_of_mem hcall⟩
  refine ⟨hstart, ?_, hserial, ?_⟩
  · rw [hgen]
    exact (settled sys.cx d.toEvent call hcall).2 _ seconds hop
  · rw [hserial]
    exact Nat.lt_add_of_pos_right (issues_of_mem_startsOf hstart)

theorem TimerInv.current_timer {sys : CrossingSystem} (hinv : TimerInv sys)
    {d : Delivery} (hdeliverable : Deliverable sys d) (htimely : Timely sys d)
    (hcurrent : d.toEvent = .timer .gateCloseDelay (sys.cx.timerGen .gateCloseDelay)) :
    ∃ timer, d = .expires timer ∧ timer.timerId = .gateCloseDelay ∧
      timer.serial = sys.issued .gateCloseDelay := by
  cases d with
  | occurs event =>
      obtain rfl : event = _ := hcurrent
      cases hdeliverable
  | expires timer =>
      have hid : timer.timerId = .gateCloseDelay := by
        injection hcurrent
      have hgen : timer.timerGen = sys.cx.timerGen .gateCloseDelay := by
        injection hcurrent
      refine ⟨timer, rfl, hid, ?_⟩
      rw [hinv.armed_gen timer hdeliverable, hinv.gen] at hgen
      refine ofNat_injective hgen ?_ (htimely hid)
      rw [← hid]
      exact hinv.armed_serial timer hdeliverable

theorem TimerInv.eq_of_serial {sys : CrossingSystem} (hinv : TimerInv sys)
    {timer fired : ArmedTimer} (harmed : timer ∈ sys.armed) (hfired : fired ∈ sys.armed)
    (hid : timer.timerId = fired.timerId) (hserial : timer.serial = fired.serial) :
    timer = fired := by
  have htgen := hinv.armed_gen timer harmed
  have hfgen := hinv.armed_gen fired hfired
  cases timer
  cases fired
  simp_all

theorem TimerInv.idle_stale_deliver {sys : CrossingSystem} {d : Delivery} (hinv : TimerInv sys)
    (hcx : CxInv sys.cx) (hdeliverable : Deliverable sys d) (htimely : Timely sys d)
    (hoff : (CrossingRuns.deliver sys d).cx.closeDelayPending = false) {timer : ArmedTimer}
    (htimer : timer ∈ d.remaining sys.armed) (hid : timer.timerId = .gateCloseDelay) :
    timer.serial < (CrossingRuns.deliver sys d).issued .gateCloseDelay := by
  have harmed := remaining_subset htimer
  have hle := hinv.armed_serial timer harmed
  rw [hid] at hle
  cases hon : sys.cx.closeDelayPending with
  | false => exact (hinv.idle_stale hon timer harmed hid).trans_le (issued_le sys d _)
  | true =>
      rcases outcome_closeDelay hcx (outcome_deliver sys d) hon hoff with hissued | hcurrent
      · exact hle.trans_lt (Nat.lt_add_of_pos_right hissued)
      · -- The timer that has just fired was the current one, and it is gone.
        obtain ⟨fired, rfl, hfid, hfserial⟩ := hinv.current_timer hdeliverable htimely hcurrent
        refine (lt_of_le_of_ne hle fun hserial => ?_).trans_le (issued_le sys _ _)
        obtain rfl := hinv.eq_of_serial harmed hdeliverable (hid.trans hfid.symm)
          (hserial.trans hfserial.symm)
        exact hinv.nodup.not_mem_erase htimer

theorem TimerInv.deliver {sys : CrossingSystem} {d : Delivery} (hinv : TimerInv sys)
    (hcx : CxInv sys.cx) (hdeliverable : Deliverable sys d) (htimely : Timely sys d) :
    TimerInv (deliver sys d) := by
  have hout := outcome_deliver sys d
  obtain ⟨hlength, hdelay⟩ := outcome_starts hout
  have hgen : ∀ id, (CrossingRuns.deliver sys d).cx.timerGen id =
      UInt32.ofNat ((CrossingRuns.deliver sys d).issued id) := by
    intro id
    rw [outcome_timerGen hout, hinv.gen, ← UInt32.ofNat_add]
    rfl
  constructor
  case gen => exact hgen
  case armed_gen =>
    intro timer htimer
    rcases List.mem_append.mp htimer with hold | hnew
    · exact hinv.armed_gen timer (remaining_subset hold)
    · obtain ⟨-, htg, hserial, -⟩ := armedBy_deliver hnew
      rw [htg, hgen, hserial]
  case armed_serial =>
    intro timer htimer
    rcases List.mem_append.mp htimer with hold | hnew
    · exact (hinv.armed_serial timer (remaining_subset hold)).trans (issued_le sys d _)
    · exact (armedBy_deliver hnew).2.2.1.le
  case nodup =>
    refine List.Nodup.append ?_ ?_ ?_
    · cases d with
      | occurs event => exact hinv.nodup
      | expires timer => exact hinv.nodup.erase timer
    · refine List.Nodup.of_map ArmedTimer.timerId ?_
      rw [armedBy_timerId]
      exact List.nodup_iff_count_le_one.mpr fun id => List.count_le_length.trans hlength
    · intro timer hold hnew
      have hle := hinv.armed_serial timer (remaining_subset hold)
      have hlt := (armedBy_deliver hnew).2.2.2
      omega
  case idle_stale =>
    intro hoff timer htimer hid
    rcases List.mem_append.mp htimer with hold | hnew
    · exact hinv.idle_stale_deliver hcx hdeliverable htimely hoff hold hid
    · have hstart := (armedBy_deliver hnew).1
      rw [hid] at hstart
      rw [hdelay hstart] at hoff
      cases hoff

theorem cxInv_init (id : UInt8) (name : String) (localId1 localId2 : UInt8) :
    CxInv (crossingInit id name localId1 localId2) := by
  simp [cxInv_iff, crossingInit, Busy]

theorem timerInv_start (id : UInt8) (name : String) (localId1 localId2 : UInt8) :
    TimerInv (crossingStart id name localId1 localId2) where
  gen _ := rfl
  armed_gen _ h := absurd h List.not_mem_nil
  armed_serial _ h := absurd h List.not_mem_nil
  nodup := List.nodup_nil
  idle_stale _ _ h := absurd h List.not_mem_nil

theorem CxInv.deliver {sys : CrossingSystem} {d : Delivery} (hcx : CxInv sys.cx)
    (htimers : TimerInv sys) (hdeliverable : Deliverable sys d) (htimely : Timely sys d) :
    CxInv (deliver sys d).cx := by
  refine hcx.outcome (outcome_deliver sys d) fun gen hevent hgen _ => ?_
  rw [hgen] at hevent
  obtain ⟨timer, rfl, hid, hserial⟩ :=
    htimers.current_timer hdeliverable htimely hevent
  by_contra hoff
  have hlt := htimers.idle_stale (by simpa using hoff) timer hdeliverable hid
  omega

/-- The representation invariant holds in every state of a run in which the
close-delay timers are not overtaken by a whole round of the 32-bit generation. -/
theorem cxInv_throughout (id : UInt8) (name : String) (localId1 localId2 : UInt8)
    (ds : List Delivery)
    (h : Along deliver (fun sys d => Deliverable sys d ∧ Timely sys d)
      (crossingStart id name localId1 localId2) ds) :
    Throughout deliver (fun sys => CxInv sys.cx)
      (crossingStart id name localId1 localId2) ds := by
  refine Along.throughout (J := fun sys => CxInv sys.cx ∧ TimerInv sys) ?_
    (fun _ hinv => hinv.1) ⟨cxInv_init .., timerInv_start ..⟩ h
  rintro sys d ⟨hcx, htimers⟩ ⟨hdeliverable, htimely⟩
  exact ⟨hcx.deliver htimers hdeliverable htimely, htimers.deliver hcx hdeliverable htimely⟩

theorem cxInv_throughout_delay :
    Throughout deliver (fun sys => CxInv sys.cx) (crossingStart 1 "P1" 1 2)
      [.occurs (.trainApproach .up), .expires ⟨.gateCloseDelay, 1, 1⟩,
        .occurs .gateClosed, .occurs (.trainEnter .up)] :=
  cxInv_throughout 1 "P1" 1 2 _ (by decide)

section FaultCycle

variable {cx : Crossing}

theorem handle_injectFault (hfault : cx.fault = .none) :
    (crossingHandleEvent cx .injectFault).cx = faulted cx .injected := by
  have h := outcome cx .injectFault
  generalize ops (crossingHandleEvent cx .injectFault) = os at h
  generalize (crossingHandleEvent cx .injectFault).cx = cx' at h ⊢
  cases h with
  | ignoredFaulted hfaulted => exact absurd hfault hfaulted
  | injected => rfl

theorem handle_resetFault (hfault : cx.fault ≠ .none) :
    (crossingHandleEvent cx .resetFault).cx = resetStarted cx := by
  have h := outcome cx .resetFault
  generalize ops (crossingHandleEvent cx .resetFault) = os at h
  generalize (crossingHandleEvent cx .resetFault).cx = cx' at h ⊢
  cases h with
  | ignoredFaulted _ hevent => exact absurd rfl hevent
  | resetIgnored hnone => exact absurd hnone hfault
  | reset => rfl

theorem handle_gateClosed (hfault : cx.fault = .none) (hgate : cx.gate = .closing)
    (hreset : cx.resetPending = true) :
    (crossingHandleEvent cx .gateClosed).cx =
      openStarted { closedGate cx with resetPending := false } := by
  have h := outcome cx .gateClosed
  generalize ops (crossingHandleEvent cx .gateClosed) = os at h
  generalize (crossingHandleEvent cx .gateClosed).cx = cx' at h ⊢
  cases h with
  | ignoredFaulted hfaulted => exact absurd hfault hfaulted
  | closedIgnored _ hnot => exact absurd hgate hnot
  | closedHeld _ _ hheld => exact absurd (hheld.symm.trans hreset) (by decide)
  | closedReset => rfl

theorem handle_gateOpened (hfault : cx.fault = .none) (hgate : cx.gate = .opening)
    (hclear : crossingBothTracksClear cx = true) :
    (crossingHandleEvent cx .gateOpened).cx = { openedGate cx with flashOn := false } := by
  have h := outcome cx .gateOpened
  generalize ops (crossingHandleEvent cx .gateOpened) = os at h
  generalize (crossingHandleEvent cx .gateOpened).cx = cx' at h ⊢
  cases h with
  | ignoredFaulted hfaulted => exact absurd hfault hfaulted
  | openedIgnored _ hnot => exact absurd hgate hnot
  | openedReclose _ _ hbusy => exact absurd (hclear.symm.trans hbusy) (by decide)
  | openedClear => rfl

theorem handle_closeDelay (hfault : cx.fault = .none) (hgate : cx.gate = .open) :
    (crossingHandleEvent cx (.timer .gateCloseDelay (cx.timerGen .gateCloseDelay))).cx =
      closeStarted cx := by
  have h := outcome cx (.timer .gateCloseDelay (cx.timerGen .gateCloseDelay))
  generalize ops (crossingHandleEvent cx _) = os at h
  generalize (crossingHandleEvent cx _).cx = cx' at h ⊢
  cases h with
  | ignoredFaulted hfaulted => exact absurd hfault hfaulted
  | timerStale _ hgen => exact absurd rfl hgen
  | timerClose => rfl
  | timerCloseIdle _ _ hnot => exact absurd (.inl hgate) hnot
  | timerFault _ _ hid => exact absurd rfl hid

end FaultCycle

/-- A fault, its reset and the verification of the gate. -/
def faultCycle : List Delivery :=
  [.occurs .injectFault, .occurs .resetFault, .occurs .gateClosed, .occurs .gateOpened]

/-- A fault cycle leaves an idle crossing, moves the close-delay timer on by
two generations and keeps every timer in flight. -/
theorem run_faultCycle (sys : CrossingSystem) (hfault : sys.cx.fault = .none) :
    let sys' := run deliver sys faultCycle
    sys'.cx.fault = .none ∧ sys'.cx.gate = .open ∧ sys'.cx.resetPending = false ∧
      (∀ dir, sys'.cx.track dir = .none) ∧
      sys'.cx.timerGen .gateCloseDelay = sys.cx.timerGen .gateCloseDelay + 2 ∧
      ∀ timer ∈ sys.armed, timer ∈ sys'.armed := by
  have hcx : (run deliver sys faultCycle).cx =
      { openedGate (openStarted { closedGate (resetStarted (faulted sys.cx .injected)) with
        resetPending := false }) with flashOn := false } := by
    simp only [faultCycle, run_cons, run_nil, deliver, Delivery.toEvent]
    rw [handle_injectFault hfault, handle_resetFault (by simp [faulted]),
      handle_gateClosed rfl rfl rfl, handle_gateOpened rfl rfl rfl]
  have harmed : ∀ (sys : CrossingSystem) (event : CrossingEvent), ∀ timer ∈ sys.armed,
      timer ∈ (deliver sys (.occurs event)).armed :=
    fun sys event timer h => List.mem_append_left _ h
  simp only [hcx]
  refine ⟨rfl, rfl, rfl, fun _ => rfl, ?_, fun timer h => ?_⟩
  · simp [openedGate, openStarted, closedGate, resetStarted, faulted, UInt32.add_assoc]
  · exact harmed _ _ _ (harmed _ _ _ (harmed _ _ _ (harmed _ _ _ h)))

theorem run_faultCycles (sys : CrossingSystem) (hfault : sys.cx.fault = .none) (n : Nat) :
    let sys' := run deliver sys (List.replicate n faultCycle).flatten
    sys'.cx.fault = .none ∧
      sys'.cx.timerGen .gateCloseDelay = sys.cx.timerGen .gateCloseDelay + UInt32.ofNat (2 * n) ∧
      ∀ timer ∈ sys.armed, timer ∈ sys'.armed := by
  induction n generalizing sys with
  | zero => simp [hfault]
  | succ n ih =>
      obtain ⟨hnone, -, -, -, hgen, harmed⟩ := run_faultCycle sys hfault
      obtain ⟨hnone', hgen', harmed'⟩ := ih _ hnone
      simp only [List.replicate_succ, List.flatten_cons, run_append]
      refine ⟨hnone', ?_, fun timer h => harmed' timer (harmed timer h)⟩
      rw [hgen', hgen, Nat.mul_succ, Nat.add_comm, UInt32.ofNat_add, UInt32.add_assoc]
      rfl

theorem deliverable_faultCycles (sys : CrossingSystem) (n : Nat) :
    Along deliver Deliverable sys (List.replicate n faultCycle).flatten := by
  induction n generalizing sys with
  | zero => trivial
  | succ n ih =>
      rw [List.replicate_succ, List.flatten_cons, along_append]
      exact ⟨by simp [faultCycle, Deliverable, isTimer], ih _⟩

theorem not_cxInv_of_late_timer {sys : CrossingSystem} (hfault : sys.cx.fault = .none)
    (hgate : sys.cx.gate = .open) (hreset : sys.cx.resetPending = false)
    (htrack : ∀ dir, sys.cx.track dir = .none) (serial : Nat) :
    ¬ CxInv (deliver sys
      (.expires ⟨.gateCloseDelay, sys.cx.timerGen .gateCloseDelay, serial⟩)).cx := by
  intro hinv
  have hshut : CxInv (closeStarted sys.cx) := by
    rw [← handle_closeDelay hfault hgate]
    exact hinv
  obtain ⟨dir, hbusy⟩ := hshut.shut_busy hfault (.inr ⟨rfl, hreset⟩)
  have hnone : (closeStarted sys.cx).track dir = .none := htrack dir
  simp [Busy, hnone] at hbusy

/-- After one approach and 2^31 fault cycles the delay timer of the approach is
current again and closes the gate with no train in sight. -/
theorem cxInv_generation_wrap :
    ¬ ∀ ds, Along deliver Deliverable (crossingStart 1 "P1" 1 2) ds →
      Throughout deliver (fun sys => CxInv sys.cx) (crossingStart 1 "P1" 1 2) ds := by
  intro hclaim
  obtain ⟨n, hn⟩ : ∃ n, n = 2 ^ 31 - 1 := ⟨_, rfl⟩
  obtain ⟨sys₀, hsys₀⟩ : ∃ sys, sys = deliver (crossingStart 1 "P1" 1 2)
      (.occurs (.trainApproach .up)) := ⟨_, rfl⟩
  obtain ⟨hfault₁, hgen₁, harmed₁⟩ := run_faultCycles sys₀ (by rw [hsys₀]; decide) n
  obtain ⟨sys₁, hsys₁⟩ : ∃ sys, sys = run deliver sys₀ (List.replicate n faultCycle).flatten :=
    ⟨_, rfl⟩
  rw [← hsys₁] at hfault₁ hgen₁ harmed₁
  obtain ⟨hfault₂, hgate₂, hreset₂, htrack₂, hgen₂, harmed₂⟩ := run_faultCycle sys₁ hfault₁
  have hlate : ⟨.gateCloseDelay, 1, 1⟩ ∈ (run deliver sys₁ faultCycle).armed :=
    harmed₂ _ (harmed₁ _ (by rw [hsys₀]; decide))
  have hgen : (run deliver sys₁ faultCycle).cx.timerGen .gateCloseDelay = 1 := by
    rw [hgen₂, hgen₁, hn, hsys₀]
    decide
  have hcycle : Along deliver Deliverable sys₁ faultCycle := by
    simpa using deliverable_faultCycles sys₁ 1
  have hlast := (hclaim (.occurs (.trainApproach .up) ::
    ((List.replicate n faultCycle).flatten ++
      (faultCycle ++ [.expires ⟨.gateCloseDelay, 1, 1⟩]))) (by
        rw [along_cons, along_append, along_append, ← hsys₀, ← hsys₁]
        exact ⟨by decide, deliverable_faultCycles sys₀ n, hcycle, hlate, trivial⟩)).last
  rw [run_cons, run_append, run_append, ← hsys₀, ← hsys₁, run_cons, run_nil, ← hgen] at hlast
  exact not_cxInv_of_late_timer hfault₂ hgate₂ hreset₂ htrack₂ 1 hlast

end TrafficLight.CrossingInvariant
