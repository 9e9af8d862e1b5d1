import TrafficLight.TrainRows

namespace TrafficLight.GateMovement

open TrafficLight.Protocol
open TrafficLight.CrossingMachine
open TrafficLight.CrossingOutcomes
open TrafficLight.CrossingInvariant
open TrafficLight.StaleTimers
open TrafficLight.Slots
open TrafficLight.RailSimulator
open TrafficLight.SimPending
open TrafficLight.SimTimers
open TrafficLight.SimInvariant
open TrafficLight.TrainRows

/-- The timeout of a gate movement. -/
def IsGateTimeout (id : TimerId) : Prop := id = .gateCloseTimeout ∨ id = .gateOpenTimeout

theorem moves_iff {cx : Crossing} : Moves cx ↔ ∃ id, IsGateTimeout id ∧ Needed cx id := by
  constructor
  · rintro (hgate | hgate)
    · exact ⟨_, .inl rfl, hgate⟩
    · exact ⟨_, .inr rfl, hgate⟩
  · rintro ⟨id, rfl | rfl, hneeded⟩
    · exact .inl hneeded
    · exact .inr hneeded

section Outcomes

variable {cx cx' : Crossing} {event : CrossingEvent} {os : List CxOp}

/-- The time a timer is started with. -/
def timerSeconds : TimerId → Int
  | .gateCloseDelay => gateCloseDelaySec
  | .gateCloseTimeout => gateCloseTimeoutSec
  | .gateOpenTimeout => gateOpenTimeoutSec
  | .trainTimeoutUp | .trainTimeoutDown => trainTimeoutSec

theorem timerSeconds_pos (id : TimerId) : 0 < timerSeconds id := by
  cases id <;> decide

theorem outcome_seconds (h : Outcome cx event cx' os) {id : TimerId} {seconds : Int}
    (hstart : .startTimer id seconds ∈ os) : seconds = timerSeconds id := by
  cases h with
  | @enterClosed dir | @exitBusy dir | @exitOpen dir | @exitReleased dir =>
      cases dir <;> simp_all [openOps, trainTimeoutTimer, timerSeconds]
  | _ => simp_all [openOps, timerSeconds]

theorem gate_outcome (h : Outcome cx event cx' os) (hinv : CxInv cx) :
    (cx'.gate = cx.gate ∧ commandsGate os = false) ∨
      (cx'.gate ≠ cx.gate ∧ (commandsGate os = true ↔ Moves cx')) := by
  have hgate := hinv.gate_fault
  cases h with
  | enterEarly | timerFault | injected =>
      right
      have hmoved : GateState.fault ≠ cx.gate := fun hsame => by simp_all
      simp_all [faulted, Moves, faultOps, TimerId.all]
  | exitOpen _ _ _ hgate | timerClose _ _ hgate =>
      rcases hgate with hgate | hgate <;>
        simp_all [openStarted, openOps, released, closeStarted, Moves]
  | _ =>
      simp_all [approached, closeStarted, entered, exited, released, closedGate, openedGate,
        resetStarted, openStarted, openOps, Moves]

end Outcomes

/-- When the gate movement of a timeout timer completes. -/
def MovementDue (v : CrossingView) (id : TimerId) : Prop :=
  ∃ due, v.gateDue = some due ∧ ∀ ev ∈ v.timers id, ev.deliverAtMs = due + 7000

/-- A movement that goes on is due seven seconds before its timeout. -/
def MovementsDue (v : CrossingView) : Prop :=
  ∀ id, IsGateTimeout id → Needed v.cx id → MovementDue v id

/-- A gate that still moves is not due yet. -/
def GateFresh (v : CrossingView) : Prop :=
  Moves v.cx → ∀ due, v.gateDue = some due → v.now < due

/-- Timers that are not needed are not there. -/
def Idle (v : CrossingView) : Prop := ∀ id, ¬ Needed v.cx id → v.timers id = 0

theorem idle_view {sim : RailSim} (hinv : SimInv sim) (i : Fin 3) : Idle (view sim i) :=
  fun id hidle => (hinv.timers i id).2 hidle

section Views

variable {v v' : CrossingView} {event : CrossingEvent} {os : List CxOp}

theorem MovementsDue.step (h : MovementsDue v) (hinv : CxInv v.cx) (hidle : Idle v)
    (hv : HandledView v v' event os) : MovementsDue v' := by
  intro id hid hneeded
  rcases gate_outcome hv.out hinv with ⟨hsame, hcommand⟩ | ⟨hchanged, hcommand⟩
  · -- the movement goes on, so its timer was running before
    have hbefore : Needed v.cx id := by
      rcases hid with rfl | rfl
      · exact hsame.symm.trans hneeded
      · exact hsame.symm.trans hneeded
    obtain ⟨due, hdue, htimers⟩ := h id hid hbefore
    refine ⟨due, ?_, ?_⟩
    · rw [hv.gateDue, hcommand]
      exact hdue
    · intro ev hev
      rcases hv.timers id ev hev with hold | ⟨seconds, hstart, -⟩
      · exact htimers ev hold
      · exact absurd ((needed_iff_waiting hinv id).mp hbefore)
          (not_waiting_of_start hv.out (mem_startsOf.mpr ⟨seconds, hstart⟩))
  · -- a new movement: the gate and the timer are set at the same moment
    have hbefore : ¬ Needed v.cx id := by
      rcases hid with rfl | rfl
      · exact fun hgate => hchanged (hneeded.trans hgate.symm)
      · exact fun hgate => hchanged (hneeded.trans hgate.symm)
    have hcommanded : commandsGate os = true := hcommand.mpr (moves_iff.mpr ⟨id, hid, hneeded⟩)
    refine ⟨v.now + secToSimMs gateMoveSec, ?_, ?_⟩
    · rw [hv.gateDue, if_pos hcommanded]
    · intro ev hev
      rcases hv.timers id ev hev with hold | ⟨seconds, hstart, hdue⟩
      · rw [hidle id hbefore] at hold
        exact absurd hold (Multiset.notMem_zero ev)
      · rw [hdue, outcome_seconds hv.out hstart]
        rcases hid with rfl | rfl <;>
          simp [timerSeconds, secToSimMs, gateCloseTimeoutSec, gateOpenTimeoutSec, gateMoveSec] <;>
          omega

theorem GateFresh.step (h : GateFresh v) (hinv : CxInv v.cx) (hv : HandledView v v' event os) :
    GateFresh v' := by
  intro hmoves due hdue
  rw [hv.gateDue] at hdue
  rw [hv.now]
  rcases gate_outcome hv.out hinv with ⟨hsame, hcommand⟩ | ⟨-, hcommand⟩
  · rw [hcommand] at hdue
    apply h _ due hdue
    rwa [Moves, hsame] at hmoves
  · rw [if_pos (hcommand.mpr hmoves)] at hdue
    rw [← Option.some.inj hdue]
    simp [secToSimMs, gateMoveSec]

theorem report_commands (hinv : CxInv v.cx)
    (hv : HandledView { v with gateDue := none } v' event os) (hends : v'.cx.gate ≠ v.cx.gate)
    (hmoves : Moves v'.cx) : commandsGate os = true := by
  rcases gate_outcome hv.out hinv with ⟨hsame, -⟩ | ⟨-, hcommand⟩
  · exact absurd hsame hends
  · exact hcommand.mpr hmoves

theorem MovementsDue.report (h : MovementsDue v) (hinv : CxInv v.cx) (hidle : Idle v)
    (hv : HandledView { v with gateDue := none } v' event os)
    (hends : v'.cx.gate ≠ v.cx.gate) : MovementsDue v' := by
  intro id hid hneeded
  have hcommand := report_commands hinv hv hends (moves_iff.mpr ⟨id, hid, hneeded⟩)
  have hgateDue : v'.gateDue = if commandsGate os then some (v.now + secToSimMs gateMoveSec)
      else v.gateDue := by
    rw [hv.gateDue, if_pos hcommand, if_pos hcommand]
  exact h.step hinv hidle ⟨hv.out, hv.now, hgateDue, hv.timers⟩ id hid hneeded

end Views

section Gate

variable {sim : RailSim} {i : Fin 3}

theorem view_gateTaken (sim : RailSim) (i : Fin 3) :
    view (gateTaken sim i) i = { view sim i with gateDue := none } := by
  have hgate : (gateTaken sim i).gates i = none := Function.update_self _ _ _
  rw [view, hgate]
  rfl

theorem view_gateTaken_other {j : Fin 3} (hj : j ≠ i) :
    view (gateTaken sim i) j = view sim j := by
  have hgate : (gateTaken sim i).gates j = sim.gates j := Function.update_of_ne hj _ _
  rw [view, hgate]
  rfl

variable {event : CrossingEvent}

theorem afterHandle_gate (hinv : SimInv sim) (i : Fin 3) (event : CrossingEvent) :
    AfterHandle (gateTaken sim i) (handle (gateTaken sim i) i event) i event (pending sim) := by
  have htaken : SimInv (gateTaken sim i) := hinv.congr rfl rfl rfl
  exact ⟨rfl, rfl, (handle_frame (gateTaken sim i) i event).2.2.1,
    (handle_pending (htaken.room_outcome i event)).2, le_rfl⟩

theorem gateReport_own (hinv : SimInv sim) :
    HandledView { view sim i with gateDue := none } (view (handle (gateTaken sim i) i event) i)
      event (ops (crossingHandleEvent (sim.crossings i) event)) := by
  rw [← view_gateTaken]
  have htaken : SimInv (gateTaken sim i) := hinv.congr rfl rfl rfl
  exact (afterHandle_gate hinv i event).own htaken

theorem gateReport_other (hinv : SimInv sim) {j : Fin 3} (hj : j ≠ i) :
    view (handle (gateTaken sim i) i event) j = view sim j := by
  have htaken : SimInv (gateTaken sim i) := hinv.congr rfl rfl rfl
  refine ((afterHandle_gate hinv i event).other htaken hj ?_ ?_).trans (view_gateTaken_other hj)
  · funext dir
    exact handle_row (gateTaken sim i) i j event dir
  · exact fun _ => rfl

theorem gateReport_fresh (hinv : SimInv sim) :
    GateFresh (view (handle (gateTaken sim i) i event) i) := by
  have hnone : GateFresh { view sim i with gateDue := none } := by
    intro _ due hdue
    cases hdue
  exact hnone.step (hinv.crossings i) (gateReport_own hinv)

end Gate

/-- The slots below the given one hold no event that is due. -/
def Passed (k : Nat) (sim : RailSim) : Prop :=
  ∀ j : Fin maxPendingEvents, j.val < k → ∀ ev, sim.events j = some ev →
    sim.simTimeMs < ev.deliverAtMs

theorem Passed.afterSlot {sim : RailSim} {k : Fin maxPendingEvents} {ev : SimEvent}
    (h : Passed k sim) : Passed (k + 1) (afterSlot sim k ev) := by
  intro j hj ev' hev'
  have htime : (TrainRows.afterSlot sim k ev).simTimeMs = sim.simTimeMs :=
    (handle_frame sim ev.crossing ev.event).2.2.1
  rw [htime]
  by_cases hjk : j = k
  · rw [hjk, TrainRows.afterSlot] at hev'
    simp [setSlot] at hev'
  · have hhandled : (handle sim ev.crossing ev.event).events j = some ev' := by
      have hother : (TrainRows.afterSlot sim k ev).events j =
          (handle sim ev.crossing ev.event).events j := Function.update_of_ne hjk _ _
      rw [← hother]
      exact hev'
    rcases applyCalls_slot hhandled with hold | ⟨id, seconds, -, hstart, hdue⟩
    · exact h j (by have := Fin.val_ne_of_ne hjk; omega) ev' hold
    · have hpos := timerSeconds_pos id
      have hseconds := outcome_seconds (outcome (sim.crossings ev.crossing) ev.event) hstart
      rw [hseconds, secToSimMs] at hdue
      change ev'.deliverAtMs = sim.simTimeMs + _ at hdue
      omega

theorem Passed.visitSlot {sim : RailSim} {k : Fin maxPendingEvents} (h : Passed k sim) :
    Passed (k + 1) (visitSlot sim k) := by
  rcases visitSlot_cases sim k with ⟨hlater, hvisit⟩ | ⟨ev, hk, hdue, hvisit⟩
  · rw [hvisit]
    intro j hj ev hev
    by_cases hjk : j = k
    · rw [hjk] at hev
      exact hlater ev hev
    · exact h j (by have := Fin.val_ne_of_ne hjk; omega) ev hev
  · rw [hvisit]
    exact h.afterSlot

section Slot

variable {sim : RailSim} {k : Fin maxPendingEvents} {ev : SimEvent}

theorem row_slot (hpassed : Passed k sim) (hk : sim.events k = some ev)
    {dir : TrackDirection} (hdir : trainDir ev.event = some dir) :
    ∃ before after, (view sim ev.crossing).trains dir = before ++ ev :: after ∧
      (view (afterSlot sim k ev) ev.crossing).trains dir = before ++ after ∧
      (∀ b ∈ before, sim.simTimeMs < b.deliverAtMs) ∧
      ∀ d ≠ dir, (view (afterSlot sim k ev) ev.crossing).trains d =
        (view sim ev.crossing).trains d := by
  have hown : isTrainAt ev.crossing dir ev = true := by simp [isTrainAt, hdir]
  obtain ⟨before, after, hrow, hrow', hbefore⟩ := trainRow_afterSlot_own hk hown
  refine ⟨before, after, hrow, hrow', ?_, ?_⟩
  · intro b hb
    obtain ⟨j, hjk, hj⟩ := hbefore b hb
    exact hpassed j hjk b hj
  · intro d hd
    apply trainRow_afterSlot_other hk
    simp [isTrainAt, hdir, hd.symm]

end Slot

end TrafficLight.GateMovement
