import TrafficLight.CrossingInvariant

namespace TrafficLight.StaleTimers

open TrafficLight.Runs
open TrafficLight.Protocol
open TrafficLight.CrossingMachine
open TrafficLight.CrossingOutcomes
open TrafficLight.CrossingCalls
open TrafficLight.CrossingRuns
open TrafficLight.CrossingInvariant

/-- What the crossing is waiting for while a timer runs. -/
def Awaits (cx : Crossing) : TimerId → Prop
  | .gateCloseDelay => cx.closeDelayPending = true
  | .gateCloseTimeout => cx.gate = .closing
  | .gateOpenTimeout => cx.gate = .opening
  | .trainTimeoutUp => cx.track .up = .onCrossing
  | .trainTimeoutDown => cx.track .down = .onCrossing

/-- The wait of the timer is on and not cut short by a fault. -/
def Waiting (cx : Crossing) (id : TimerId) : Prop :=
  cx.fault = .none ∧ Awaits cx id

theorem awaits_trainTimeout (cx : Crossing) (dir : TrackDirection) :
    Awaits cx (trainTimeoutTimer dir) ↔ cx.track dir = .onCrossing := by
  cases dir <;> rfl

theorem waiting_outcome {cx cx' : Crossing} {event : CrossingEvent} {os : List CxOp}
    (hinv : CxInv cx) (h : Outcome cx event cx' os) {id : TimerId} (hwait : Waiting cx id)
    (hkept : os.countP (issues id) = 0) (hfire : event ≠ .timer id (cx.timerGen id)) :
    Waiting cx' id := by
  obtain ⟨hfault, hawait⟩ := hwait
  have hdelay := hinv.closeDelay
  cases h with
  | ignoredFaulted hfaulted | reset hfaulted => exact absurd hfault hfaulted
  | approachIgnored | enterIgnored | exitIgnored | closedIgnored | openedIgnored
  | timerStale | resetIgnored => exact ⟨hfault, hawait⟩
  | enterEarly | timerFault | injected => simp at hkept
  | @approachDelay dir | @approachReclose dir | @approachOther dir | @enterClosed dir
  | @exitBusy dir =>
      cases dir <;> cases id <;>
        simp_all [Waiting, Awaits, approached, closeStarted, entered, exited, issues,
          trainTimeoutTimer]
  | @exitOpen dir | @exitReleased dir =>
      cases dir <;> cases id <;>
        simp_all [Waiting, Awaits, released, openStarted, issues, trainTimeoutTimer,
          TrackDirection.other]
  | closedHeld | closedReset | openedReclose | openedClear | timerClose | timerCloseIdle =>
      cases id <;>
        simp_all [Waiting, Awaits, closedGate, openStarted, openedGate, closeStarted, issues]

theorem waiting_of_start {cx cx' : Crossing} {event : CrossingEvent} {os : List CxOp}
    (h : Outcome cx event cx' os) {id : TimerId} (hstart : id ∈ startsOf os) :
    Waiting cx' id := by
  cases h with
  | @enterClosed dir | @exitBusy dir | @exitOpen dir | @exitReleased dir =>
      cases dir <;>
        simp_all [openOps, Waiting, Awaits, entered, openStarted, released, trainTimeoutTimer]
  | _ =>
      simp_all [openOps, Waiting, Awaits, approached, closeStarted, openStarted, closedGate,
        openedGate, resetStarted]

/-- What `startGateClose` does before it starts its timer. -/
def closeAbort (gate : GateState) : List CxOp :=
  (if gate = .opening then [.cancelTimer .gateOpenTimeout] else []) ++ [.gateCommand .close]

theorem closeOps_eq (gate : GateState) :
    closeOps gate = closeAbort gate ++
      [.startTimer .gateCloseTimeout gateCloseTimeoutSec, .stateChanged] := by
  simp [closeOps, closeAbort]

theorem outcome_start_last {cx cx' : Crossing} {event : CrossingEvent} {os : List CxOp}
    (h : Outcome cx event cx' os) {id : TimerId} (hstart : id ∈ startsOf os) :
    ∃ earlier seconds later, os = earlier ++ .startTimer id seconds :: later ∧
      ∀ op ∈ later, op = .stateChanged := by
  cases h with
  | approachDelay =>
      obtain rfl : id = .gateCloseDelay := by simpa using hstart
      exact ⟨flashOps cx.flashOn ++ [.sendPreempt], gateCloseDelaySec, [.stateChanged], by simp,
        by simp⟩
  | approachReclose =>
      obtain rfl : id = .gateCloseTimeout := by simpa using hstart
      refine ⟨flashOps cx.flashOn ++ [.sendPreempt] ++ closeAbort cx.gate,
        gateCloseTimeoutSec, [.stateChanged, .stateChanged], ?_, by simp⟩
      simp [closeOps_eq]
  | @enterClosed dir =>
      obtain rfl : id = trainTimeoutTimer dir := by simpa using hstart
      exact ⟨[], _, [.stateChanged], rfl, by simp⟩
  | @exitOpen dir =>
      obtain rfl : id = .gateOpenTimeout := by simpa [openOps] using hstart
      exact ⟨[.cancelTimer (trainTimeoutTimer dir), .cancelTimer .gateCloseDelay,
        .cancelTimer .gateCloseTimeout, .gateCommand .open], _,
        [.stateChanged, .stateChanged], rfl, by simp⟩
  | closedReset =>
      obtain rfl : id = .gateOpenTimeout := by simpa [openOps] using hstart
      exact ⟨[.cancelTimer .gateCloseTimeout, .stateChanged, .cancelTimer .gateCloseDelay,
        .cancelTimer .gateCloseTimeout, .gateCommand .open], _, [.stateChanged], rfl, by simp⟩
  | openedReclose =>
      obtain rfl : id = .gateCloseTimeout := by simpa using hstart
      exact ⟨.cancelTimer .gateOpenTimeout :: closeAbort .open, _, [.stateChanged], rfl, by simp⟩
  | timerClose =>
      obtain rfl : id = .gateCloseTimeout := by simpa using hstart
      exact ⟨closeAbort cx.gate, _, [.stateChanged], closeOps_eq cx.gate, by simp⟩
  | reset =>
      obtain rfl : id = .gateCloseTimeout := by simpa using hstart
      exact ⟨[.gateCommand .close], _, [.stateChanged], rfl, by simp⟩
  | _ => simp at hstart

/-- The fault a timer raises when it fires in time. -/
def timeoutFault : TimerId → Option CxFault
  | .gateCloseDelay => none
  | .gateCloseTimeout => some .gateCloseTimeout
  | .gateOpenTimeout => some .gateOpenTimeout
  | .trainTimeoutUp | .trainTimeoutDown => some .trainTimeout

theorem handleTimer_fault (cx : Crossing) (id : TimerId) :
    (handleTimer ⟨cx, []⟩ id (cx.timerGen id)).cx.fault =
      (timeoutFault id).getD cx.fault := by
  cases id with
  | gateCloseDelay =>
      simp only [handleTimer, ne_eq, not_true_eq_false, if_false, startGateClose_cx, timeoutFault]
      split <;> rfl
  | gateCloseTimeout | gateOpenTimeout | trainTimeoutUp | trainTimeoutDown =>
      simp [handleTimer, faulted, timeoutFault]

/-- A timeout fault is raised by the timer it is named after, and only while
that timer is current. -/
theorem timer_of_fault {cx : Crossing} {event : CrossingEvent} {fault : CxFault}
    (htimeout : fault = .gateCloseTimeout ∨ fault = .gateOpenTimeout ∨ fault = .trainTimeout)
    (hraised : (crossingHandleEvent cx event).cx.fault = fault) (hnew : cx.fault ≠ fault) :
    ∃ id, event = .timer id (cx.timerGen id) ∧ timeoutFault id = some fault := by
  have h := outcome cx event
  cases event with
  | timer id gen =>
      by_cases hcurrent : cx.fault = .none ∧ gen = cx.timerGen id
      · obtain ⟨hfault, rfl⟩ := hcurrent
        refine ⟨id, rfl, ?_⟩
        have hhandled := handleTimer_fault cx id
        simp only [crossingHandleEvent, hfault, ne_eq, not_true_eq_false, false_and,
          if_false] at hraised
        rw [hraised] at hhandled
        cases hid : timeoutFault id with
        | none => rw [hid] at hhandled; exact absurd hhandled.symm hnew
        | some raised => rw [hid] at hhandled; rw [hhandled]; rfl
      · generalize ops (crossingHandleEvent cx (.timer id gen)) = os at h
        generalize (crossingHandleEvent cx (.timer id gen)).cx = cx' at h hraised
        cases h with
        | ignoredFaulted | timerStale => exact absurd hraised hnew
        | timerClose hfault hgen | timerCloseIdle hfault hgen | timerFault hfault hgen =>
            exact absurd ⟨hfault, hgen⟩ hcurrent
  | _ =>
      generalize ops (crossingHandleEvent cx _) = os at h
      generalize (crossingHandleEvent cx _).cx = cx' at h hraised
      subst hraised
      cases h <;>
        simp_all [approached, faulted, closeStarted, openStarted, entered, exited, released,
          closedGate, openedGate, resetStarted]

/-- A timer in flight that is still current is one the crossing waits for. -/
def Awaited (sys : CrossingSystem) : Prop :=
  ∀ timer ∈ sys.armed, timer.serial = sys.issued timer.timerId → Waiting sys.cx timer.timerId

/-- No generation counter has wrapped. -/
def Unwrapped (sys : CrossingSystem) : Prop :=
  ∀ id, sys.issued id < 2 ^ 32

theorem Unwrapped.timely {sys : CrossingSystem} (h : Unwrapped sys) (d : Delivery) :
    Timely sys d := by
  cases d with
  | occurs event => trivial
  | expires timer => exact fun _ => (h _).trans_le (Nat.le_add_left _ _)

theorem serial_of_gen {sys : CrossingSystem} (hinv : TimerInv sys)
    (hunwrapped : Unwrapped sys) {timer : ArmedTimer} (harmed : timer ∈ sys.armed)
    (hgen : timer.timerGen = sys.cx.timerGen timer.timerId) :
    timer.serial = sys.issued timer.timerId := by
  rw [hinv.armed_gen timer harmed, hinv.gen] at hgen
  exact ofNat_injective hgen (hinv.armed_serial timer harmed)
    ((hunwrapped _).trans_le (Nat.le_add_left _ _))

theorem kept_of_serial {sys : CrossingSystem} (hinv : TimerInv sys) {d : Delivery}
    {timer : ArmedTimer} (harmed : timer ∈ sys.armed)
    (hserial : timer.serial = (deliver sys d).issued timer.timerId) :
    timer.serial = sys.issued timer.timerId ∧
      (ops (crossingHandleEvent sys.cx d.toEvent)).countP (issues timer.timerId) = 0 := by
  have hle := hinv.armed_serial timer harmed
  have hissued : (deliver sys d).issued timer.timerId = sys.issued timer.timerId +
    (ops (crossingHandleEvent sys.cx d.toEvent)).countP (issues timer.timerId) := rfl
  omega

theorem Awaited.deliver {sys : CrossingSystem} {d : Delivery} (h : Awaited sys)
    (hcx : CxInv sys.cx) (hinv : TimerInv sys) (hdeliverable : Deliverable sys d)
    (hunwrapped : Unwrapped sys) : Awaited (deliver sys d) := by
  intro timer htimer hserial
  rcases List.mem_append.mp htimer with hold | hnew
  · have harmed := remaining_subset hold
    obtain ⟨hcurrent, hkept⟩ := kept_of_serial hinv harmed hserial
    refine waiting_outcome hcx (outcome_deliver sys d) (h timer harmed hcurrent) hkept ?_
    intro hfire
    cases d with
    | occurs event =>
        obtain rfl : event = _ := hfire
        cases hdeliverable
    | expires fired =>
        -- The timer that fires is the current one, and it is no longer in flight.
        injection hfire with hid hgen
        have hfired := serial_of_gen hinv hunwrapped hdeliverable (by rw [hgen, hid])
        obtain rfl := hinv.eq_of_serial harmed hdeliverable hid.symm
          (by rw [hcurrent, hfired, hid])
        exact hinv.nodup.not_mem_erase hold
  · exact waiting_of_start (outcome_deliver sys d) (armedBy_deliver hnew).1

/-- The joint invariant of a run without a wrap. -/
structure Sound (sys : CrossingSystem) : Prop where
  cx : CxInv sys.cx
  timers : TimerInv sys
  awaited : Awaited sys

theorem sound_start (id : UInt8) (name : String) (localId1 localId2 : UInt8) :
    Sound (crossingStart id name localId1 localId2) where
  cx := cxInv_init ..
  timers := timerInv_start ..
  awaited _ h := absurd h List.not_mem_nil

theorem Sound.deliver {sys : CrossingSystem} {d : Delivery} (h : Sound sys)
    (hd : Deliverable sys d ∧ Unwrapped sys) : Sound (deliver sys d) where
  cx := h.cx.deliver h.timers hd.1 (hd.2.timely d)
  timers := h.timers.deliver h.cx hd.1 (hd.2.timely d)
  awaited := h.awaited.deliver h.cx h.timers hd.1 hd.2

theorem issued_le_run (sys : CrossingSystem) (ds : List Delivery) (id : TimerId) :
    sys.issued id ≤ (run deliver sys ds).issued id := by
  induction ds generalizing sys with
  | nil => exact le_rfl
  | cons d ds ih => exact (issued_le sys d id).trans (ih _)

theorem along_unwrapped {sys : CrossingSystem} {ds : List Delivery}
    (h : Along deliver Deliverable sys ds) (hend : Unwrapped (run deliver sys ds)) :
    Along deliver (fun sys d => Deliverable sys d ∧ Unwrapped sys) sys ds := by
  induction ds generalizing sys with
  | nil => trivial
  | cons d ds ih =>
      refine ⟨⟨h.1, fun id => ?_⟩, ih h.2 hend⟩
      exact (issued_le_run sys (d :: ds) id).trans_lt (hend id)

/-- The delivery starts the timer, and the rest of the call leaves it alone. -/
def Starts (sys : CrossingSystem) (d : Delivery) (timer : ArmedTimer) : Prop :=
  timer.serial = (deliver sys d).issued timer.timerId ∧
    ∃ earlier call later,
      (crossingHandleEvent sys.cx d.toEvent).calls = earlier ++ call :: later ∧
      (∃ seconds, call.op = .startTimer timer.timerId seconds) ∧
      timer.timerGen = call.cx.timerGen timer.timerId ∧
      ∀ other ∈ later, issues timer.timerId other.op = false

/-- The timer was started in the run, has been neither restarted nor cancelled
since, and `P` has held of the crossing ever since. -/
def Undisturbed (P : Crossing → Prop) (start : CrossingSystem) (ds : List Delivery)
    (timer : ArmedTimer) : Prop :=
  ∃ before d since, ds = before ++ d :: since ∧ Starts (run deliver start before) d timer ∧
    Along deliver (fun sys d => ∀ call ∈ (crossingHandleEvent sys.cx d.toEvent).calls,
      issues timer.timerId call.op = false) (run deliver start (before ++ [d])) since ∧
    Throughout deliver (fun sys => P sys.cx) (run deliver start (before ++ [d])) since

theorem starts_of_new {sys : CrossingSystem} {d : Delivery} {timer : ArmedTimer}
    (h : timer ∈ armedBy (deliver sys d).issued (crossingHandleEvent sys.cx d.toEvent).calls) :
    Starts sys d timer := by
  have hserial := (armedBy_deliver h).2.2.1
  refine ⟨hserial, ?_⟩
  obtain ⟨earlier, seconds, later, hops, hlater⟩ :=
    outcome_start_last (outcome_deliver sys d) (armedBy_deliver h).1
  obtain ⟨calls, rest, hcalls, rfl, hrest⟩ := List.map_eq_append_iff.mp hops
  obtain ⟨call, others, rfl, hop, rfl⟩ := List.map_eq_cons_iff.mp hrest
  refine ⟨calls, call, others, hcalls, ⟨seconds, hop⟩, ?_, fun other hother => ?_⟩
  · rw [(armedBy_deliver h).2.1]
    refine ((settled sys.cx d.toEvent call ?_).2 _ seconds hop).symm
    rw [hcalls]
    exact List.mem_append_right _ List.mem_cons_self
  · rw [hlater _ (List.mem_map_of_mem hother)]
    rfl

theorem undisturbed {start : CrossingSystem} (hstart : Sound start)
    (hidle : start.armed = []) {ds : List Delivery}
    (hrun : Along deliver (fun sys d => Deliverable sys d ∧ Unwrapped sys) start ds)
    {timer : ArmedTimer} (harmed : timer ∈ (run deliver start ds).armed)
    (hserial : timer.serial = (run deliver start ds).issued timer.timerId) :
    Undisturbed (fun cx => Waiting cx timer.timerId) start ds timer := by
  induction ds using List.reverseRecOn with
  | nil =>
      rw [run_nil, hidle] at harmed
      cases harmed
  | append_singleton ds d ih =>
      rw [along_append] at hrun
      have hsound : Sound (run deliver start ds) :=
        hrun.1.invariant (fun _ _ h hd => h.deliver hd) hstart
      have hnext : Sound (deliver (run deliver start ds) d) := hsound.deliver hrun.2.1
      rw [run_append, run_cons, run_nil] at harmed hserial
      have hwait := hnext.awaited timer harmed hserial
      rcases List.mem_append.mp harmed with hold | hnew
      · have hprev := remaining_subset hold
        obtain ⟨hcurrent, hkept⟩ := kept_of_serial hsound.timers hprev hserial
        obtain ⟨before, first, since, rfl, hstarts, hquiet, hheld⟩ := ih hrun.1 hprev hcurrent
        rw [List.append_cons, run_append] at hkept hwait
        refine ⟨before, first, since ++ [d], by simp, hstarts, ?_, ?_⟩
        · rw [along_append]
          refine ⟨hquiet, fun call hcall => ?_, trivial⟩
          have hnone := List.countP_eq_zero.mp hkept call.op (List.mem_map_of_mem hcall)
          simpa using hnone
        · rw [throughout_append]
          exact ⟨hheld, hheld.last, hwait⟩
      · refine ⟨ds, d, [], rfl, starts_of_new hnew, trivial, ?_⟩
        rw [run_append]
        exact hwait

theorem Undisturbed.mono {P Q : Crossing → Prop} (hPQ : ∀ cx, P cx → Q cx)
    {start : CrossingSystem} {ds : List Delivery} {timer : ArmedTimer}
    (h : Undisturbed P start ds timer) : Undisturbed Q start ds timer := by
  obtain ⟨before, d, since, hds, hstarts, hquiet, hheld⟩ := h
  exact ⟨before, d, since, hds, hstarts, hquiet,
    hheld.mono fun (sys : CrossingSystem) => hPQ sys.cx⟩

theorem gen_of_change {cx : Crossing} {id : TimerId} {gen : UInt32}
    (h : (crossingHandleEvent cx (.timer id gen)).cx ≠ cx) :
    cx.fault = .none ∧ gen = cx.timerGen id := by
  have hout := outcome cx (.timer id gen)
  generalize ops (crossingHandleEvent cx (.timer id gen)) = os at hout
  generalize (crossingHandleEvent cx (.timer id gen)).cx = cx' at h hout
  cases hout with
  | ignoredFaulted | timerStale => exact absurd rfl h
  | timerClose hfault hgen | timerCloseIdle hfault hgen | timerFault hfault hgen =>
      exact ⟨hfault, hgen⟩

/-- The close-delay timer that changes the crossing starts the closing of an
open gate for a train on its way. -/
theorem closeDelay_outcome {cx : Crossing} (hinv : CxInv cx) (hwait : Waiting cx .gateCloseDelay) :
    cx.gate = .open ∧ (∃ dir, cx.track dir = .approaching) ∧
      (crossingHandleEvent cx
        (.timer .gateCloseDelay (cx.timerGen .gateCloseDelay))).cx.gate = .closing := by
  obtain ⟨hfault, hgate, htrack⟩ := hinv.closeDelay.mp hwait.2
  refine ⟨hgate, htrack, ?_⟩
  rw [handle_closeDelay hfault hgate]
  rfl

/-- Late timer events are harmless as long as no generation counter wraps: a
timer event changes the crossing only if its timer was neither restarted nor
cancelled since it was started, and a timeout fault means that the crossing
waited for the gate or the train from the start of the timer on. -/
theorem stale_timer_harmless (id : UInt8) (name : String) (localId1 localId2 : UInt8)
    (ds : List Delivery) (d : Delivery)
    (hrun : Along deliver Deliverable (crossingStart id name localId1 localId2) (ds ++ [d]))
    (hissued : Unwrapped (run deliver (crossingStart id name localId1 localId2) ds)) :
    let start := crossingStart id name localId1 localId2
    let cx := (run deliver start ds).cx
    let cx' := (deliver (run deliver start ds) d).cx
    (∀ timer, d = .expires timer → cx' ≠ cx → Undisturbed (fun _ => True) start ds timer) ∧
    (cx'.fault = .gateCloseTimeout → cx.fault ≠ .gateCloseTimeout →
      ∃ timer, d = .expires timer ∧ timer.timerId = .gateCloseTimeout ∧
        Undisturbed (fun cx => cx.gate = .closing) start ds timer) ∧
    (cx'.fault = .gateOpenTimeout → cx.fault ≠ .gateOpenTimeout →
      ∃ timer, d = .expires timer ∧ timer.timerId = .gateOpenTimeout ∧
        Undisturbed (fun cx => cx.gate = .opening) start ds timer) ∧
    (cx'.fault = .trainTimeout → cx.fault ≠ .trainTimeout →
      ∃ timer dir, d = .expires timer ∧ timer.timerId = trainTimeoutTimer dir ∧
        Undisturbed (fun cx => cx.track dir = .onCrossing) start ds timer) ∧
    (∀ timer, d = .expires timer → timer.timerId = .gateCloseDelay → cx' ≠ cx →
      cx.gate = .open ∧ (∃ dir, cx.track dir = .approaching) ∧ cx'.gate = .closing) := by
  intro start cx cx'
  rw [along_append] at hrun
  obtain ⟨hbefore, hd, -⟩ := hrun
  have hrun := along_unwrapped hbefore hissued
  have hsound : Sound (run deliver start ds) :=
    hrun.invariant (fun _ _ h hd => h.deliver hd) (sound_start ..)
  -- a timer that is still current has been waited for since it was started
  have hwaited : ∀ timer, d = .expires timer → timer.timerGen = cx.timerGen timer.timerId →
      Undisturbed (fun cx => Waiting cx timer.timerId) start ds timer ∧
        Waiting cx timer.timerId := by
    rintro timer rfl hgen
    have hserial := serial_of_gen hsound.timers hissued hd hgen
    exact ⟨undisturbed (sound_start ..) rfl hrun hd hserial, hsound.awaited timer hd hserial⟩
  have hfired : ∀ fault, fault = .gateCloseTimeout ∨ fault = .gateOpenTimeout ∨
      fault = .trainTimeout → cx'.fault = fault → cx.fault ≠ fault → ∃ timer,
        d = .expires timer ∧ timeoutFault timer.timerId = some fault ∧
          Undisturbed (fun cx => Waiting cx timer.timerId) start ds timer := by
    intro fault htimeout hraised hnew
    obtain ⟨tid, hevent, hfault⟩ := timer_of_fault htimeout hraised hnew
    cases d with
    | occurs event =>
        obtain rfl : event = _ := hevent
        cases hd
    | expires timer =>
        injection hevent with hid hgen
        subst hid
        exact ⟨timer, rfl, hfault, (hwaited timer rfl hgen).1⟩
  refine ⟨?_, ?_, ?_, ?_, ?_⟩
  · rintro timer rfl hchange
    have hgen := (gen_of_change hchange).2
    exact (hwaited timer rfl hgen).1.mono fun _ _ => trivial
  · intro hraised hnew
    obtain ⟨timer, htimer, hfault, hheld⟩ := hfired _ (.inl rfl) hraised hnew
    have hid : timer.timerId = .gateCloseTimeout := by
      cases hid : timer.timerId <;> simp [hid, timeoutFault] at hfault ⊢
    rw [hid] at hheld
    exact ⟨timer, htimer, hid, hheld.mono fun _ h => h.2⟩
  · intro hraised hnew
    obtain ⟨timer, htimer, hfault, hheld⟩ := hfired _ (.inr (.inl rfl)) hraised hnew
    have hid : timer.timerId = .gateOpenTimeout := by
      cases hid : timer.timerId <;> simp [hid, timeoutFault] at hfault ⊢
    rw [hid] at hheld
    exact ⟨timer, htimer, hid, hheld.mono fun _ h => h.2⟩
  · intro hraised hnew
    obtain ⟨timer, htimer, hfault, hheld⟩ := hfired _ (.inr (.inr rfl)) hraised hnew
    obtain ⟨dir, hid⟩ : ∃ dir, timer.timerId = trainTimeoutTimer dir := by
      cases hid : timer.timerId <;> simp [hid, timeoutFault] at hfault
      exacts [⟨.up, rfl⟩, ⟨.down, rfl⟩]
    rw [hid] at hheld
    exact ⟨timer, dir, htimer, hid,
      hheld.mono fun cx h => (awaits_trainTimeout cx dir).mp h.2⟩
  · rintro timer rfl hid hchange
    have hgen := (gen_of_change hchange).2
    have hwait := (hwaited timer rfl hgen).2
    rw [hid] at hwait
    have hclose := closeDelay_outcome hsound.cx hwait
    have hevent : Delivery.toEvent (.expires timer) =
        .timer .gateCloseDelay (cx.timerGen .gateCloseDelay) := by
      rw [Delivery.toEvent, hgen, hid]
    exact ⟨hclose.1, hclose.2.1, by rw [← hclose.2.2, ← hevent]; rfl⟩

theorem stale_timer_harmless_close :
    ∃ timer, Delivery.expires ⟨.gateCloseTimeout, 1, 1⟩ = .expires timer ∧
      timer.timerId = .gateCloseTimeout ∧
      Undisturbed (fun cx => cx.gate = .closing) (crossingStart 1 "P1" 1 2)
        [.occurs (.trainApproach .up), .expires ⟨.gateCloseDelay, 1, 1⟩] timer :=
  (stale_timer_harmless 1 "P1" 1 2
    [.occurs (.trainApproach .up), .expires ⟨.gateCloseDelay, 1, 1⟩]
    (.expires ⟨.gateCloseTimeout, 1, 1⟩) (by decide) (by
      intro id
      cases id <;> decide)).2.1 (by decide) (by decide)

end TrafficLight.StaleTimers
