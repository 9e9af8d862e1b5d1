import TrafficLight.SimPending

namespace TrafficLight.SimTimers

open TrafficLight.Runs
open TrafficLight.Protocol
open TrafficLight.CrossingMachine
open TrafficLight.CrossingOutcomes
open TrafficLight.CrossingCalls
open TrafficLight.CrossingRuns
open TrafficLight.CrossingInvariant
open TrafficLight.StaleTimers
open TrafficLight.Slots
open TrafficLight.RailSimulator
open TrafficLight.SimCommands
open TrafficLight.SimPending

instance : Fintype TimerId where
  elems := {.gateCloseDelay, .gateCloseTimeout, .gateOpenTimeout, .trainTimeoutUp,
    .trainTimeoutDown}
  complete := by intro id; cases id <;> decide

/-- The timers a crossing needs. -/
def Needed (cx : Crossing) : TimerId → Prop
  | .gateCloseDelay => cx.closeDelayPending = true
  | .gateCloseTimeout => cx.gate = .closing
  | .gateOpenTimeout => cx.gate = .opening
  | .trainTimeoutUp => cx.track .up = .onCrossing ∧ cx.fault = .none
  | .trainTimeoutDown => cx.track .down = .onCrossing ∧ cx.fault = .none

instance (cx : Crossing) (id : TimerId) : Decidable (Needed cx id) := by
  cases id <;> unfold Needed <;> infer_instance

theorem needed_iff_waiting {cx : Crossing} (hinv : CxInv cx) (id : TimerId) :
    Needed cx id ↔ Waiting cx id := by
  have hdelay := hinv.closeDelay
  have hgate := hinv.gate_fault
  cases id with
  | gateCloseDelay =>
      constructor
      · intro h
        exact ⟨(hdelay.mp h).1, h⟩
      · exact And.right
  | gateCloseTimeout | gateOpenTimeout =>
      constructor
      · intro h
        refine ⟨?_, h⟩
        by_contra hfault
        rw [Needed, hgate.mpr hfault] at h
        cases h
      · exact And.right
  | trainTimeoutUp | trainTimeoutDown => exact and_comm

section Outcomes

variable {cx cx' : Crossing} {event : CrossingEvent} {os : List CxOp} {id : TimerId}

theorem waiting_of_kept (hinv : CxInv cx) (h : Outcome cx event cx' os)
    (hkept : os.countP (issues id) = 0) (hwait : Waiting cx' id) : Waiting cx id := by
  obtain ⟨hfault, hawait⟩ := hwait
  have hdelay := hinv.closeDelay
  cases h with
  | ignoredFaulted | approachIgnored | enterIgnored | exitIgnored | closedIgnored
  | openedIgnored | timerStale | resetIgnored => exact ⟨hfault, hawait⟩
  | enterEarly | timerFault | injected => simp at hkept
  | @approachDelay dir | @approachReclose dir | @approachOther dir | @enterClosed dir
  | @exitBusy dir | @exitOpen dir | @exitReleased dir =>
      cases dir <;> cases id <;>
        simp_all [Waiting, Awaits, approached, closeStarted, entered, exited, released,
          openStarted, issues, trainTimeoutTimer]
  | closedHeld | closedReset | openedReclose | openedClear | timerClose | timerCloseIdle
  | reset =>
      cases id <;>
        simp_all [Waiting, Awaits, closedGate, openStarted, openedGate, closeStarted,
          resetStarted, issues]

theorem not_waiting_of_start (h : Outcome cx event cx' os) (hstart : id ∈ startsOf os) :
    ¬ Waiting cx id := by
  cases h with
  | @enterClosed dir | @exitBusy dir | @exitOpen dir | @exitReleased dir =>
      cases dir <;> simp_all [openOps, Waiting, Awaits, trainTimeoutTimer] <;> grind
  | _ => simp_all [openOps, Waiting, Awaits] <;> grind

theorem not_waiting_of_cancel (h : Outcome cx event cx' os) (hcancel : .cancelTimer id ∈ os)
    (hstart : id ∉ startsOf os) : ¬ Waiting cx' id := by
  cases h with
  | enterEarly | timerFault | injected => simp_all [Waiting, faulted]
  | @enterClosed dir | @exitBusy dir | @exitOpen dir | @exitReleased dir =>
      cases dir <;>
        simp_all [openOps, Waiting, Awaits, exited, openStarted, released,
          trainTimeoutTimer] <;> grind [Awaits]
  | _ =>
      simp_all [openOps, Waiting, Awaits, closeStarted, openStarted, closedGate, openedGate] <;>
        grind [Awaits]

theorem not_waiting_of_fired {gen : UInt32} (hinv : CxInv cx)
    (h : Outcome cx (.timer id gen) cx' os) (hgen : gen = cx.timerGen id)
    (hkept : os.countP (issues id) = 0) : ¬ Waiting cx' id := by
  have hdelay := hinv.closeDelay
  cases h with
  | ignoredFaulted hfault => exact fun hwait => hfault hwait.1
  | timerStale _ hstale => exact absurd hgen hstale
  | timerClose | timerCloseIdle => simp [Waiting, Awaits, closeStarted]
  | timerFault => simp at hkept

end Outcomes

/-- The events of one timer. -/
def timersOf (i : Fin 3) (id : TimerId) (m : Multiset SimEvent) : Multiset SimEvent :=
  m.filter fun ev => timerOf ev = some (i, id)

theorem timersOf_cons_own {i : Fin 3} {id : TimerId} {ev : SimEvent}
    (h : timerOf ev = some (i, id)) (m : Multiset SimEvent) :
    timersOf i id (ev ::ₘ m) = ev ::ₘ timersOf i id m :=
  Multiset.filter_cons_of_pos _ h

theorem timersOf_cons_other {i : Fin 3} {id : TimerId} {ev : SimEvent}
    (h : timerOf ev ≠ some (i, id)) (m : Multiset SimEvent) :
    timersOf i id (ev ::ₘ m) = timersOf i id m :=
  Multiset.filter_cons_of_neg _ h

/-- The timer is in the bag exactly while it is needed, once and current. -/
def Exact (cx : Crossing) (i : Fin 3) (id : TimerId) (m : Multiset SimEvent) : Prop :=
  (Needed cx id → ∃ due, timersOf i id m = {⟨due, i, .timer id (cx.timerGen id)⟩}) ∧
    (¬ Needed cx id → timersOf i id m = 0)

section Bags

variable {now : Int} {i : Fin 3} {gen : TimerId → UInt32} {os : List CxOp}

theorem filter_afterOps {p : SimEvent → Prop} [DecidablePred p]
    (hp : ∀ op ∈ os, ∀ id, issues id op = true → ∀ ev, timerOf ev = some (i, id) → ¬ p ev)
    (m : Multiset SimEvent) : (afterOps now i gen m os).filter p = m.filter p := by
  induction os generalizing m with
  | nil => rfl
  | cons op os ih =>
      have hstep : (afterOp now i gen m op).filter p = m.filter p := by
        cases op with
        | startTimer id seconds =>
            exact Multiset.filter_cons_of_neg _
              (hp _ List.mem_cons_self id (by simp [issues]) _ rfl)
        | cancelTimer id =>
            rw [afterOp, Multiset.filter_filter]
            apply Multiset.filter_congr
            intro ev _
            constructor
            · exact And.left
            · intro hev
              exact ⟨hev, fun hid => hp _ List.mem_cons_self id (by simp [issues]) ev hid hev⟩
        | _ => rfl
      rw [← hstep]
      exact ih (fun later hlater => hp later (.tail _ hlater)) _

theorem timersOf_afterOps_kept {id : TimerId} (hkept : os.countP (issues id) = 0)
    (m : Multiset SimEvent) : timersOf i id (afterOps now i gen m os) = timersOf i id m := by
  apply filter_afterOps
  intro op hop id' hissues ev hev hsame
  rw [hev, Option.some.injEq, Prod.mk.injEq] at hsame
  rw [hsame.2] at hissues
  exact List.countP_eq_zero.mp hkept op hop hissues

theorem timersOf_afterOps_other {i' : Fin 3} (hne : i' ≠ i) (id : TimerId)
    (m : Multiset SimEvent) : timersOf i' id (afterOps now i gen m os) = timersOf i' id m := by
  apply filter_afterOps
  intro op _ id' _ ev hev hsame
  rw [hev, Option.some.injEq, Prod.mk.injEq] at hsame
  exact hne hsame.1.symm

theorem trains_afterOps (m : Multiset SimEvent) :
    (afterOps now i gen m os).filter (fun ev => (trainDir ev.event).isSome) =
      m.filter fun ev => (trainDir ev.event).isSome := by
  apply filter_afterOps
  intro op _ id _ ev hev htrain
  cases hevent : ev.event <;> simp_all [timerOf, trainDir]

theorem mem_afterOps {ev : SimEvent} {m : Multiset SimEvent} (h : ev ∈ afterOps now i gen m os) :
    ev ∈ m ∨ (timerOf ev).isSome := by
  induction os generalizing m with
  | nil => exact .inl h
  | cons op os ih =>
      rcases ih h with hmem | htimer
      · cases op with
        | startTimer id seconds =>
            rcases Multiset.mem_cons.mp hmem with rfl | hold
            · exact .inr rfl
            · exact .inl hold
        | cancelTimer id => exact .inl (Multiset.mem_of_mem_filter hmem)
        | _ => exact .inl hmem
      · exact .inr htimer

theorem timersOf_afterOps_none {id : TimerId} (hstart : id ∉ startsOf os)
    {m : Multiset SimEvent} (hnone : timersOf i id m = 0) :
    timersOf i id (afterOps now i gen m os) = 0 := by
  induction os generalizing m with
  | nil => exact hnone
  | cons op os ih =>
      rw [startsOf_cons, List.mem_append, not_or] at hstart
      apply ih hstart.2
      cases op with
      | startTimer id' seconds =>
          have hne : id ≠ id' := by simpa using hstart.1
          refine (timersOf_cons_other ?_ m).trans hnone
          simpa [timerOf] using hne.symm
      | cancelTimer id' =>
          rw [Multiset.eq_zero_iff_forall_notMem] at hnone ⊢
          intro ev hev
          obtain ⟨hmem, hid⟩ := Multiset.mem_filter.mp hev
          exact hnone ev (Multiset.mem_filter.mpr ⟨Multiset.mem_of_mem_filter hmem, hid⟩)
      | _ => exact hnone

theorem timersOf_afterOps_canceled {id : TimerId} (hcancel : .cancelTimer id ∈ os)
    (hstart : id ∉ startsOf os) (m : Multiset SimEvent) :
    timersOf i id (afterOps now i gen m os) = 0 := by
  obtain ⟨earlier, later, rfl⟩ := List.append_of_mem hcancel
  rw [startsOf_append, List.mem_append, not_or] at hstart
  have hlater : id ∉ startsOf later := by simpa using hstart.2
  rw [afterOps, List.foldl_append, List.foldl_cons]
  apply timersOf_afterOps_none hlater
  rw [Multiset.eq_zero_iff_forall_notMem]
  intro ev hev
  obtain ⟨hmem, hid⟩ := Multiset.mem_filter.mp hev
  exact (Multiset.mem_filter.mp hmem).2 hid

theorem timersOf_afterOps_started {cx cx' : Crossing} {event : CrossingEvent}
    (h : Outcome cx event cx' os) {id : TimerId} (hstart : id ∈ startsOf os)
    {m : Multiset SimEvent} (hnone : timersOf i id m = 0) :
    ∃ due, timersOf i id (afterOps now i gen m os) = {⟨due, i, .timer id (gen id)⟩} := by
  obtain ⟨earlier, seconds, later, rfl, hlater⟩ := outcome_start_last h hstart
  have hone := (outcome_starts h).1
  rw [startsOf_append, startsOf_cons, List.length_append, List.length_append] at hone
  have hearlier : startsOf earlier = [] := by
    apply List.eq_nil_of_length_eq_zero
    simp only [List.length_singleton] at hone
    omega
  have hkept : later.countP (issues id) = 0 := by
    rw [List.countP_eq_zero]
    intro op hop
    rw [hlater op hop]
    simp [issues]
  refine ⟨now + secToSimMs seconds, ?_⟩
  rw [afterOps, List.foldl_append, List.foldl_cons]
  rw [show List.foldl (afterOp now i gen) _ later = afterOps now i gen _ later from rfl,
    timersOf_afterOps_kept hkept]
  have hrest : timersOf i id (afterOps now i gen m earlier) = 0 :=
    timersOf_afterOps_none (by simp [hearlier]) hnone
  rw [← Multiset.cons_zero, ← hrest]
  exact timersOf_cons_own rfl _

end Bags

/-- A handler takes the timers of its crossing from the old waits to the new
ones; the event of a timer that fires has left the bag already. -/
theorem exact_outcome {cx cx' : Crossing} {event : CrossingEvent} {os : List CxOp}
    (hinv : CxInv cx) (hinv' : CxInv cx') (h : Outcome cx event cx' os) {now : Int} {i : Fin 3}
    {id : TimerId} {m : Multiset SimEvent}
    (hfired : ∀ gen, event = .timer id gen → gen = cx.timerGen id ∧ timersOf i id m = 0)
    (hexact : (∀ gen, event ≠ .timer id gen) → Exact cx i id m) :
    Exact cx' i id (afterOps now i cx'.timerGen m os) := by
  have hidle : ¬ Waiting cx id → timersOf i id m = 0 := by
    intro hwait
    by_cases hown : ∃ gen, event = .timer id gen
    · obtain ⟨gen, hevent⟩ := hown
      exact (hfired gen hevent).2
    · exact (hexact (not_exists.mp hown)).2 ((needed_iff_waiting hinv id).not.mpr hwait)
  rw [Exact, needed_iff_waiting hinv']
  by_cases hstart : id ∈ startsOf os
  · refine ⟨fun _ => ?_, fun hwait => absurd (waiting_of_start h hstart) hwait⟩
    exact timersOf_afterOps_started h hstart (hidle (not_waiting_of_start h hstart))
  · by_cases hcancel : .cancelTimer id ∈ os
    · refine ⟨fun hwait => absurd hwait (not_waiting_of_cancel h hcancel hstart), fun _ => ?_⟩
      exact timersOf_afterOps_canceled hcancel hstart m
    · have hkept : os.countP (issues id) = 0 := by
        rw [List.countP_eq_zero]
        intro op hop hissues
        cases op with
        | startTimer id' seconds =>
            obtain rfl : id' = id := by simpa [issues] using hissues
            exact hstart (mem_startsOf.mpr ⟨seconds, hop⟩)
        | cancelTimer id' =>
            obtain rfl : id' = id := by simpa [issues] using hissues
            exact hcancel hop
        | _ => simp [issues] at hissues
      have hgen : cx'.timerGen id = cx.timerGen id := by
        rw [outcome_timerGen h, hkept]
        exact UInt32.add_zero _
      rw [timersOf_afterOps_kept hkept, hgen]
      by_cases hown : ∃ gen, event = .timer id gen
      · obtain ⟨gen, rfl⟩ := hown
        obtain ⟨hcurrent, hnone⟩ := hfired gen rfl
        exact ⟨fun hwait => absurd hwait (not_waiting_of_fired hinv h hcurrent hkept),
          fun _ => hnone⟩
      · have hev := not_exists.mp hown
        have hiff : Waiting cx' id ↔ Waiting cx id :=
          ⟨waiting_of_kept hinv h hkept, fun hwait => waiting_outcome hinv h hwait hkept (hev _)⟩
        rw [hiff, ← needed_iff_waiting hinv]
        exact hexact hev

end TrafficLight.SimTimers
