import TrafficLight.GateMovement

namespace TrafficLight.TrainTiming

open TrafficLight.Protocol
open TrafficLight.CrossingMachine
open TrafficLight.CrossingOutcomes
open TrafficLight.CrossingInvariant
open TrafficLight.StaleTimers
open TrafficLight.RailSimulator
open TrafficLight.SimTimers
open TrafficLight.TrainRows
open TrafficLight.GateMovement

def warningMs (layout : Layout) : Int := secToSimMs layout.warningSec
def lengthMs (layout : Layout) : Int := secToSimMs layout.trainLengthSec

/-- The longest tick that is never too coarse for the layout: two ticks, the
close delay and the gate movement fit into the warning, and one tick fits
between the length of a train and its timeout. -/
def longestTick (layout : Layout) : Int :=
  min (500 * (layout.warningSec - gateCloseDelaySec - gateMoveSec))
    (1000 * (trainTimeoutSec - layout.trainLengthSec))

theorem two_ticks_fit (layout : Layout) :
    2 * longestTick layout + 8000 ≤ warningMs layout := by
  simp only [longestTick, warningMs, secToSimMs, gateCloseDelaySec, gateMoveSec]
  omega

theorem train_fits (layout : Layout) : lengthMs layout + longestTick layout ≤ 60000 := by
  simp only [longestTick, lengthMs, secToSimMs, trainTimeoutSec]
  omega

theorem longestTick_pos (layout : Layout) : 0 < longestTick layout := by
  have hwarning := layout.warning_bounds.1
  have hlength := layout.trainLength_bounds.2
  simp only [trainWarningMinSec, trainWarningMarginSec] at hwarning
  simp only [longestTick, gateCloseDelaySec, gateMoveSec, trainTimeoutSec] at *
  omega

/-- The gate is shut by the given time, whatever the ticks. -/
def GateReady (layout : Layout) (v : CrossingView) (enter : Int) : Prop :=
  (v.cx.gate = .closing → ∀ due, v.gateDue = some due → due ≤ enter) ∧
    ∀ ev ∈ v.timers .gateCloseDelay, ev.deliverAtMs + longestTick layout + 3000 ≤ enter

/-- The pending train events of a track, by the state of the track. -/
def TrackOnTime (layout : Layout) (i : Fin 3) (v : CrossingView) (dir : TrackDirection) : Prop :=
  match v.cx.track dir with
  | .none => v.trains dir = [] ∨ ∃ warn, v.trains dir =
      [⟨warn, i, .trainApproach dir⟩, ⟨warn + warningMs layout, i, .trainEnter dir⟩,
        ⟨warn + warningMs layout + lengthMs layout, i, .trainExit dir⟩]
  | .approaching => ∃ enter, v.trains dir =
      [⟨enter, i, .trainEnter dir⟩, ⟨enter + lengthMs layout, i, .trainExit dir⟩] ∧
        GateReady layout v enter
  | .onCrossing => ∃ exit, v.trains dir = [⟨exit, i, .trainExit dir⟩] ∧
      ∀ ev ∈ v.timers (trainTimeoutTimer dir), exit + longestTick layout ≤ ev.deliverAtMs
  | .cleared => v.trains dir = []

/-- The gate and its timers run as they were started. -/
structure GateOnTime (v : CrossingView) : Prop where
  noFault : v.cx.fault = .none
  noReset : v.cx.resetPending = false
  opening : v.cx.gate = .opening → ∀ dir, v.cx.track dir = .none
  moving : MovementsDue v
  gateSoon : ∀ due, v.gateDue = some due → due ≤ v.now + 3000
  delaySoon : ∀ ev ∈ v.timers .gateCloseDelay, ev.deliverAtMs ≤ v.now + 5000

structure OnTime (layout : Layout) (i : Fin 3) (v : CrossingView) : Prop where
  gate : GateOnTime v
  tracks : ∀ dir, TrackOnTime layout i v dir

section Outcomes

variable {cx cx' : Crossing} {event : CrossingEvent} {os : List CxOp}

theorem reset_outcome (h : Outcome cx event cx' os) (hfault : cx.fault = .none)
    (hreset : cx.resetPending = false) : cx'.resetPending = false := by
  cases h with
  | reset hfaulted => exact absurd hfault hfaulted
  | closedReset => rfl
  | _ => exact hreset

theorem opening_tracks (h : Outcome cx event cx' os)
    (hopening : cx.gate = .opening → ∀ dir, cx.track dir = .none)
    (hreset : cx.resetPending = false) (hquiet : cx'.fault = .none)
    (hgate : cx'.gate = .opening) (dir : TrackDirection) : cx'.track dir = .none := by
  cases h with
  | enterEarly | timerFault | injected => simp_all [faulted]
  | closedReset _ _ hpending => simp_all
  | exitOpen | exitReleased => rfl
  | _ =>
      simp_all [approached, closeStarted, entered, exited, closedGate, openedGate, resetStarted]

theorem quiet_outcome (h : Outcome cx event cx' os) (hfault : cx.fault = .none)
    (henter : ∀ dir, event = .trainEnter dir → cx.track dir = .approaching → cx.gate = .closed)
    (htimer : ∀ id gen, event = .timer id gen → id = .gateCloseDelay)
    (hinject : event ≠ .injectFault) : cx'.fault = .none := by
  cases h with
  | enterEarly _ htrack hgate => exact absurd (henter _ rfl htrack) hgate
  | timerFault _ _ hid => exact absurd (htimer _ _ rfl) hid
  | injected => exact absurd rfl hinject
  | reset => rfl
  | _ => exact hfault

end Outcomes

theorem GateOnTime.step {v v' : CrossingView} {event : CrossingEvent} {os : List CxOp}
    (h : GateOnTime v) (hinv : CxInv v.cx) (hidle : Idle v)
    (hv : HandledView v v' event os) (hquiet : v'.cx.fault = .none) : GateOnTime v' := by
  constructor
  · exact hquiet
  · exact reset_outcome hv.out h.noFault h.noReset
  · exact opening_tracks hv.out h.opening h.noReset hquiet
  · exact h.moving.step hinv hidle hv
  · intro due hdue
    rw [hv.gateDue] at hdue
    rw [hv.now]
    split at hdue
    · rw [← Option.some.inj hdue]
      simp [secToSimMs, gateMoveSec]
    · exact h.gateSoon due hdue
  · intro ev hev
    rw [hv.now]
    rcases hv.timers _ ev hev with hold | ⟨seconds, hstart, hdue⟩
    · exact h.delaySoon ev hold
    · rw [hdue, outcome_seconds hv.out hstart]
      simp [timerSeconds, secToSimMs, gateCloseDelaySec]

section Tracks

variable {layout : Layout} {i : Fin 3} {v v' : CrossingView} {event : CrossingEvent}
  {os : List CxOp}

theorem TrackOnTime.frame {dir : TrackDirection} (h : TrackOnTime layout i v dir)
    (htrack : v'.cx.track dir = v.cx.track dir) (htrains : v'.trains dir = v.trains dir)
    (hready : v.cx.track dir = .approaching → ∀ enter,
      GateReady layout v enter → GateReady layout v' enter)
    (htimer : ∀ ev ∈ v'.timers (trainTimeoutTimer dir), ev ∈ v.timers (trainTimeoutTimer dir)) :
    TrackOnTime layout i v' dir := by
  unfold TrackOnTime at h ⊢
  rw [htrack]
  cases hstate : v.cx.track dir with
  | none | cleared => simpa only [hstate, htrains] using h
  | approaching =>
      simp only [hstate] at h ⊢
      obtain ⟨enter, hrow, hgate⟩ := h
      exact ⟨enter, htrains.trans hrow, hready hstate enter hgate⟩
  | onCrossing =>
      simp only [hstate] at h ⊢
      obtain ⟨exit, hrow, htimeout⟩ := h
      exact ⟨exit, htrains.trans hrow, fun ev hev => htimeout ev (htimer ev hev)⟩

theorem GateReady.kept {enter : Int} (h : GateReady layout v enter)
    (hv : HandledView v v' event os) (hcommand : commandsGate os = false)
    (hgate : v'.cx.gate = .closing → v.cx.gate = .closing)
    (hstart : .gateCloseDelay ∉ startsOf os) : GateReady layout v' enter := by
  constructor
  · intro hclosing due hdue
    rw [hv.gateDue, hcommand] at hdue
    exact h.1 (hgate hclosing) due hdue
  · exact fun ev hev => h.2 ev (hv.old_timer hstart ev hev)

theorem GateOnTime.ready {warn : Int} (h : GateOnTime v)
    (hnow : v.now ≤ warn + longestTick layout) : GateReady layout v (warn + warningMs layout) := by
  have hfits := two_ticks_fit layout
  have hpos := longestTick_pos layout
  constructor
  · intro _ due hdue
    have hsoon := h.gateSoon due hdue
    omega
  · intro ev hev
    have hsoon := h.delaySoon ev hev
    omega

theorem OnTime.approach {dir : TrackDirection} {warn : Int} (h : OnTime layout i v)
    (hinv : CxInv v.cx) (hgate : GateOnTime v')
    (hv : HandledView v v' (.trainApproach dir) os) (htrack : v.cx.track dir = .none)
    (hrow : v'.trains dir = [⟨warn + warningMs layout, i, .trainEnter dir⟩,
      ⟨warn + warningMs layout + lengthMs layout, i, .trainExit dir⟩])
    (hother : ∀ d ≠ dir, v'.trains d = v.trains d)
    (hnow : v.now ≤ warn + longestTick layout) : OnTime layout i v' := by
  obtain ⟨cx', gateDue', now', trains', timers'⟩ := v'
  have hready := hgate.ready (hv.now.trans_le hnow)
  have hout : Outcome v.cx (.trainApproach dir) cx' os := hv.out
  have hmissed : ∀ d ≠ dir, v.cx.track d = .approaching → v.cx.gate ≠ .opening ∧
      (v.cx.gate = .open → v.cx.closeDelayPending = true) := by
    intro d _ hcoming
    refine ⟨fun hopening => ?_, fun hopen => ?_⟩
    · rw [h.gate.opening hopening d] at hcoming
      cases hcoming
    · exact hinv.closeDelay.mpr ⟨h.gate.noFault, hopen, d, hcoming⟩
  cases hout with
  | ignoredFaulted hfault => exact absurd h.gate.noFault hfault
  | approachIgnored _ hbusy => exact absurd htrack hbusy
  | approachDelay _ _ hopen hpending =>
      refine ⟨hgate, fun d => ?_⟩
      by_cases hd : d = dir
      · subst hd
        simpa [TrackOnTime, approached] using ⟨_, hrow, hready⟩
      · apply (h.tracks d).frame (by simp [approached, hd]) (hother d hd)
        · intro hcoming
          rw [(hmissed d hd hcoming).2 hopen] at hpending
          cases hpending
        · exact hv.old_timer (by cases d <;> simp [trainTimeoutTimer])
  | approachReclose _ _ hopening =>
      refine ⟨hgate, fun d => ?_⟩
      by_cases hd : d = dir
      · subst hd
        simpa [TrackOnTime, approached, closeStarted] using ⟨_, hrow, hready⟩
      · apply (h.tracks d).frame (by simp [approached, closeStarted, hd]) (hother d hd)
        · intro hcoming
          exact absurd hopening (hmissed d hd hcoming).1
        · exact hv.old_timer (by cases d <;> simp [trainTimeoutTimer])
  | approachOther =>
      refine ⟨hgate, fun d => ?_⟩
      by_cases hd : d = dir
      · subst hd
        simpa [TrackOnTime, approached] using ⟨_, hrow, hready⟩
      · apply (h.tracks d).frame (by simp [approached, hd]) (hother d hd)
        · intro _ enter hkept
          exact hkept.kept hv (by simp) id (by simp)
        · exact hv.old_timer (by simp)

theorem warningMs_pos (layout : Layout) : 0 < warningMs layout := by
  have hwarning := layout.warning_bounds.1
  simp only [trainWarningMinSec, trainWarningMarginSec, gateCloseDelaySec, gateMoveSec] at hwarning
  simp only [warningMs, secToSimMs]
  omega

theorem lengthMs_pos (layout : Layout) : 0 < lengthMs layout := by
  have hlength := layout.trainLength_bounds.1
  simp only [lengthMs, secToSimMs]
  omega

section Rows

variable {dir : TrackDirection} {ev : SimEvent} {before after : List SimEvent}

theorem TrackOnTime.at_approach (h : TrackOnTime layout i v dir)
    (hrow : v.trains dir = before ++ ev :: after) (hev : ev.event = .trainApproach dir) :
    v.cx.track dir = .none ∧ before ++ after =
      [⟨ev.deliverAtMs + warningMs layout, i, .trainEnter dir⟩,
        ⟨ev.deliverAtMs + warningMs layout + lengthMs layout, i, .trainExit dir⟩] := by
  unfold TrackOnTime at h
  rw [hrow] at h
  split at h
  · rename_i htrack
    refine ⟨htrack, ?_⟩
    rcases h with hnil | ⟨warn, hall⟩
    · simp at hnil
    · rcases before with _ | ⟨b1, _ | ⟨b2, _ | ⟨b3, before⟩⟩⟩
      · obtain ⟨rfl, rfl⟩ := List.cons.inj hall
        rfl
      all_goals simp at hall <;> grind
  · obtain ⟨enter, hall, -⟩ := h
    rcases before with _ | ⟨b1, _ | ⟨b2, before⟩⟩ <;> simp at hall <;> grind
  · obtain ⟨exit, hall, -⟩ := h
    rcases before with _ | ⟨b1, before⟩ <;> simp at hall
    grind
  · simp at h

theorem TrackOnTime.at_enter (h : TrackOnTime layout i v dir)
    (hrow : v.trains dir = before ++ ev :: after) (hev : ev.event = .trainEnter dir)
    (hbefore : ∀ b ∈ before, v.now < b.deliverAtMs) (hdue : ev.deliverAtMs ≤ v.now) :
    v.cx.track dir = .approaching ∧ GateReady layout v ev.deliverAtMs ∧
      before ++ after = [⟨ev.deliverAtMs + lengthMs layout, i, .trainExit dir⟩] := by
  have hwarning := warningMs_pos layout
  unfold TrackOnTime at h
  rw [hrow] at h
  split at h
  · rcases h with hnil | ⟨warn, hall⟩
    · simp at hnil
    · rcases before with _ | ⟨b1, _ | ⟨b2, _ | ⟨b3, before⟩⟩⟩
      · simp at hall; grind
      · -- the approach would still be to come, but it is due earlier
        have hfirst := hbefore b1 List.mem_cons_self
        simp at hall
        grind
      all_goals simp at hall <;> grind
  · rename_i htrack
    obtain ⟨enter, hall, hready⟩ := h
    rcases before with _ | ⟨b1, _ | ⟨b2, before⟩⟩
    · obtain ⟨rfl, rfl⟩ := List.cons.inj hall
      exact ⟨htrack, hready, rfl⟩
    all_goals simp at hall <;> grind
  · obtain ⟨exit, hall, -⟩ := h
    rcases before with _ | ⟨b1, before⟩ <;> simp at hall
    grind
  · simp at h

theorem TrackOnTime.at_exit (h : TrackOnTime layout i v dir)
    (hrow : v.trains dir = before ++ ev :: after) (hev : ev.event = .trainExit dir)
    (hbefore : ∀ b ∈ before, v.now < b.deliverAtMs) (hdue : ev.deliverAtMs ≤ v.now) :
    v.cx.track dir = .onCrossing ∧ before ++ after = [] := by
  have hwarning := warningMs_pos layout
  have hlength := lengthMs_pos layout
  unfold TrackOnTime at h
  rw [hrow] at h
  split at h
  · rcases h with hnil | ⟨warn, hall⟩
    · simp at hnil
    · rcases before with _ | ⟨b1, before⟩
      · simp at hall; grind
      · have hfirst := hbefore b1 List.mem_cons_self
        rcases before with _ | ⟨b2, _ | ⟨b3, before⟩⟩ <;> simp at hall <;> grind
  · obtain ⟨enter, hall, -⟩ := h
    rcases before with _ | ⟨b1, before⟩
    · simp at hall; grind
    · have hfirst := hbefore b1 List.mem_cons_self
      rcases before with _ | ⟨b2, before⟩ <;> simp at hall
      grind
  · rename_i htrack
    obtain ⟨exit, hall, -⟩ := h
    rcases before with _ | ⟨b1, before⟩
    · obtain ⟨rfl, rfl⟩ := List.cons.inj hall
      exact ⟨htrack, rfl⟩
    · simp at hall
  · simp at h

end Rows

theorem OnTime.closed {dir : TrackDirection} {enter lo : Int} (h : OnTime layout i v)
    (hinv : CxInv v.cx) (hexact : Needed v.cx .gateCloseDelay →
      ∃ ev ∈ v.timers .gateCloseDelay, lo < ev.deliverAtMs)
    (hfresh : v.cx.gate = .closing → ∀ due, v.gateDue = some due → v.now < due)
    (htrack : v.cx.track dir = .approaching) (hready : GateReady layout v enter)
    (hdue : enter ≤ v.now) (hnow : v.now ≤ lo + longestTick layout) :
    v.cx.gate = .closed := by
  cases hgate : v.cx.gate with
  | closed => rfl
  | fault => exact absurd h.gate.noFault (hinv.gate_fault.mp hgate)
  | opening =>
      rw [h.gate.opening hgate dir] at htrack
      cases htrack
  | closing =>
      obtain ⟨due, hgateDue, -⟩ := h.gate.moving .gateCloseTimeout (.inl rfl) hgate
      have hearly := hready.1 hgate due hgateDue
      have hlate := hfresh hgate due hgateDue
      omega
  | «open» =>
      have hpending := hinv.closeDelay.mpr ⟨h.gate.noFault, hgate, dir, htrack⟩
      obtain ⟨ev, hev, hlate⟩ := hexact hpending
      have hearly := hready.2 ev hev
      omega

theorem OnTime.enter {dir : TrackDirection} {enter : Int} (h : OnTime layout i v)
    (hidle : Idle v) (hgate : GateOnTime v') (hv : HandledView v v' (.trainEnter dir) os)
    (htrack : v.cx.track dir = .approaching) (hclosed : v.cx.gate = .closed)
    (hdue : enter ≤ v.now)
    (hrow : v'.trains dir = [⟨enter + lengthMs layout, i, .trainExit dir⟩])
    (hother : ∀ d ≠ dir, v'.trains d = v.trains d) : OnTime layout i v' := by
  have hfits := train_fits layout
  obtain ⟨cx', gateDue', now', trains', timers'⟩ := v'
  have hout : Outcome v.cx (.trainEnter dir) cx' os := hv.out
  cases hout with
  | ignoredFaulted hfault => exact absurd h.gate.noFault hfault
  | enterIgnored _ hmissed => exact absurd htrack hmissed
  | enterEarly _ _ hearly => exact absurd hclosed hearly
  | enterClosed =>
      refine ⟨hgate, fun d => ?_⟩
      by_cases hd : d = dir
      · subst hd
        have htimeout : ∀ ev ∈ timers' (trainTimeoutTimer d),
            enter + lengthMs layout + longestTick layout ≤ ev.deliverAtMs := by
          intro ev hev
          rcases hv.timers _ ev hev with hold | ⟨seconds, hstart, hlate⟩
          · have hnone : v.timers (trainTimeoutTimer d) = 0 := by
              apply hidle
              cases d <;> simp [trainTimeoutTimer, Needed, htrack]
            rw [hnone] at hold
            exact absurd hold (Multiset.notMem_zero ev)
          · have hseconds : secToSimMs seconds = 60000 := by
              rw [outcome_seconds hv.out hstart]
              cases d <;> rfl
            rw [hlate, hseconds]
            omega
        simpa [TrackOnTime, entered] using ⟨_, hrow, htimeout⟩
      · apply (h.tracks d).frame (by simp [entered, hd]) (hother d hd)
        · intro _ enter' hkept
          exact hkept.kept hv (by simp) id (by cases dir <;> simp [trainTimeoutTimer])
        · apply hv.old_timer
          cases d <;> cases dir <;> simp_all [trainTimeoutTimer]

theorem OnTime.exit {dir : TrackDirection} (h : OnTime layout i v) (hinv : CxInv v.cx)
    (hgate : GateOnTime v') (hv : HandledView v v' (.trainExit dir) os)
    (htrack : v.cx.track dir = .onCrossing) (hrow : v'.trains dir = [])
    (hother : ∀ d ≠ dir, v'.trains d = v.trains d) : OnTime layout i v' := by
  have hclosed := hinv.onCrossing_closed dir h.gate.noFault htrack
  obtain ⟨cx', gateDue', now', trains', timers'⟩ := v'
  have hout : Outcome v.cx (.trainExit dir) cx' os := hv.out
  cases hout with
  | ignoredFaulted hfault => exact absurd h.gate.noFault hfault
  | exitIgnored _ hmissed => exact absurd htrack hmissed
  | exitReleased _ _ _ hshut => exact absurd (.inl hclosed) hshut
  | exitBusy =>
      refine ⟨hgate, fun d => ?_⟩
      by_cases hd : d = dir
      · subst hd
        simpa [TrackOnTime, exited] using hrow
      · apply (h.tracks d).frame (by simp [exited, hd]) (hother d hd)
        · intro _ enter hkept
          exact hkept.kept hv (by simp) id (by simp)
        · exact hv.old_timer (by simp)
  | exitOpen _ _ hclear =>
      refine ⟨hgate, fun d => ?_⟩
      by_cases hd : d = dir
      · subst hd
        exact .inl hrow
      · have hd' : d = dir.other := by cases d <;> cases dir <;> simp_all [TrackDirection.other]
        have htrains : trains' d = v.trains d := hother d hd
        have hbefore := h.tracks d
        subst hd'
        -- a track that is free keeps its next train, a cleared one has none
        rcases hclear with hfree | hcleared
        · simpa [TrackOnTime, hfree, htrains, openStarted, released] using hbefore
        · simp only [TrackOnTime, hcleared] at hbefore
          exact .inl (htrains.trans hbefore)

theorem OnTime.delay {gen : UInt32} {lo : Int} {fired : SimEvent} (h : OnTime layout i v)
    (hinv : CxInv v.cx) (hgate : GateOnTime v')
    (hv : HandledView v v' (.timer .gateCloseDelay gen) os)
    (hneeded : Needed v.cx .gateCloseDelay) (hgen : gen = v.cx.timerGen .gateCloseDelay)
    (hfired : fired ∈ v.timers .gateCloseDelay) (hlate : lo < fired.deliverAtMs)
    (hnow : v.now ≤ lo + longestTick layout) (htrains : v'.trains = v.trains) :
    OnTime layout i v' := by
  have hopen := (hinv.closeDelay.mp hneeded).2.1
  obtain ⟨cx', gateDue', now', trains', timers'⟩ := v'
  have hout : Outcome v.cx (.timer .gateCloseDelay gen) cx' os := hv.out
  cases hout with
  | ignoredFaulted hfault => exact absurd h.gate.noFault hfault
  | timerStale _ hstale => exact absurd hgen hstale
  | timerCloseIdle _ _ hshut => exact absurd (.inl hopen) hshut
  | timerFault _ _ hid => exact absurd rfl hid
  | timerClose =>
      refine ⟨hgate, fun d => ?_⟩
      refine (h.tracks d).frame rfl (congrFun htrains d) ?_ ?_
      · intro _ enter hready
        have hearly := hready.2 fired hfired
        refine ⟨fun _ due hdue => ?_, fun ev hev => ?_⟩
        · have hset := hv.gateDue
          rw [commandsGate_closeOps, if_pos rfl, hdue] at hset
          have hsoon : due = v.now + 3000 := Option.some.inj hset
          omega
        · exact hready.2 ev (hv.old_timer (by simp) ev hev)
      · exact hv.old_timer (by cases d <;> simp [trainTimeoutTimer])

theorem OnTime.gateMoved {event : CrossingEvent} (h : OnTime layout i v) (hgate : GateOnTime v')
    (hv : HandledView v v' event os) (hevent : event = .gateClosed ∨ event = .gateOpened)
    (htrains : v'.trains = v.trains) : OnTime layout i v' := by
  obtain ⟨cx', gateDue', now', trains', timers'⟩ := v'
  have hout : Outcome v.cx event cx' os := hv.out
  have hframe : (∀ d, cx'.track d = v.cx.track d) → commandsGate os = false →
      (cx'.gate = .closing → v.cx.gate = .closing) → startsOf os = [] →
      OnTime layout i ⟨cx', gateDue', now', trains', timers'⟩ := by
    intro htrack hcommand hclosing hstarts
    refine ⟨hgate, fun d => (h.tracks d).frame (htrack d) (congrFun htrains d) ?_ ?_⟩
    · intro _ enter hready
      exact hready.kept hv hcommand hclosing (by simp [hstarts])
    · exact hv.old_timer (by simp [hstarts])
  rcases hevent with rfl | rfl
  · cases hout with
    | ignoredFaulted hfault => exact absurd h.gate.noFault hfault
    | closedIgnored => exact hframe (fun _ => rfl) rfl id rfl
    | closedHeld => exact hframe (fun _ => rfl) rfl (by simp [closedGate]) rfl
    | closedReset _ _ hpending =>
        rw [h.gate.noReset] at hpending
        cases hpending
  · cases hout with
    | ignoredFaulted hfault => exact absurd h.gate.noFault hfault
    | openedIgnored => exact hframe (fun _ => rfl) rfl id rfl
    | openedClear => exact hframe (fun _ => rfl) rfl (by simp [openedGate]) rfl
    | openedReclose _ hopening hbusy =>
        rw [bothTracksClear_eq_false] at hbusy
        simp [Busy, h.gate.opening hopening] at hbusy

theorem gateDone_outcome {cx cx' : Crossing} (h : Outcome cx event cx' os)
    (hfault : cx.fault = .none) (hreset : cx.resetPending = false)
    (hopening : cx.gate = .opening → ∀ dir, cx.track dir = .none)
    (hevent : (event = .gateClosed ∧ cx.gate = .closing) ∨
      (event = .gateOpened ∧ cx.gate = .opening)) :
    commandsGate os = false ∧ (cx'.gate = .closed ∨ cx'.gate = .open) ∧ cx'.fault = .none := by
  rcases hevent with ⟨rfl, hgate⟩ | ⟨rfl, hgate⟩
  · cases h with
    | ignoredFaulted hfaulted => exact absurd hfault hfaulted
    | closedIgnored _ hshut => exact absurd hgate hshut
    | closedHeld => exact ⟨rfl, .inl rfl, hfault⟩
    | closedReset _ _ hpending =>
        rw [hreset] at hpending
        cases hpending
  · cases h with
    | ignoredFaulted hfaulted => exact absurd hfault hfaulted
    | openedIgnored _ hshut => exact absurd hgate hshut
    | openedClear => exact ⟨rfl, .inr rfl, hfault⟩
    | openedReclose _ _ hbusy =>
        rw [bothTracksClear_eq_false] at hbusy
        simp [Busy, hopening hgate] at hbusy

theorem OnTime.gateDone {event : CrossingEvent} (h : OnTime layout i v) (hinv : CxInv v.cx)
    (hidle : Idle v) (hv : HandledView { v with gateDue := none } v' event os)
    (hevent : (event = .gateClosed ∧ v.cx.gate = .closing) ∨
      (event = .gateOpened ∧ v.cx.gate = .opening))
    (htrains : v'.trains = v.trains) :
    OnTime layout i v' ∧ (v'.cx.gate = .closed ∨ v'.cx.gate = .open) := by
  obtain ⟨hcommand, hstill, hquiet⟩ :=
    gateDone_outcome hv.out h.gate.noFault h.gate.noReset h.gate.opening hevent
  have hkind : event = .gateClosed ∨ event = .gateOpened := hevent.imp And.left And.left
  have hdue : v'.gateDue = none := by
    rw [hv.gateDue, hcommand]
    rfl
  -- with the old completion time kept, the handler is an ordinary one
  have hkept : HandledView v { v' with gateDue := v.gateDue } event os := by
    refine ⟨hv.out, hv.now, ?_, hv.timers⟩
    rw [hcommand]
    rfl
  have hmoved := h.gateMoved (h.gate.step hinv hidle hkept hquiet) hkept hkind htrains
  have hshut : v'.cx.gate ≠ .closing := by
    rcases hstill with hgate | hgate <;> simp [hgate]
  refine ⟨⟨⟨hquiet, hmoved.gate.noReset, hmoved.gate.opening, ?_, ?_, ?_⟩, ?_⟩, hstill⟩
  · rintro id (rfl | rfl) hneeded
    · exact absurd hneeded hshut
    · rcases hstill with hgate | hgate <;> simp [Needed, hgate] at hneeded
  · simp [hdue]
  · exact hmoved.gate.delaySoon
  · intro d
    refine (hmoved.tracks d).frame rfl rfl ?_ fun _ hev => hev
    intro _ enter hready
    exact ⟨fun hclosing => absurd hclosing hshut, hready.2⟩

theorem OnTime.later (h : OnTime layout i v) (hcx : v'.cx = v.cx) (hgate : v'.gateDue = v.gateDue)
    (htrains : v'.trains = v.trains) (htimers : v'.timers = v.timers) (hnow : v.now ≤ v'.now) :
    OnTime layout i v' := by
  obtain ⟨cx, gateDue, now, trains, timers⟩ := v'
  dsimp only at hcx hgate htrains htimers hnow
  subst hcx hgate htrains htimers
  refine ⟨⟨h.gate.noFault, h.gate.noReset, h.gate.opening, h.gate.moving, ?_, ?_⟩, h.tracks⟩
  · exact fun due hdue => (h.gate.gateSoon due hdue).trans (by dsimp only; omega)
  · exact fun ev hev => (h.gate.delaySoon ev hev).trans (by dsimp only; omega)

end Tracks

end TrafficLight.TrainTiming
