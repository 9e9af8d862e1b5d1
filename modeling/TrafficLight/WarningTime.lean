import TrafficLight.TrackAdmission
import TrafficLight.TrainTiming

namespace TrafficLight.WarningTime

open TrafficLight.Runs
open TrafficLight.Protocol
open TrafficLight.CrossingMachine
open TrafficLight.CrossingOutcomes
open TrafficLight.CrossingInvariant
open TrafficLight.Slots
open TrafficLight.RailSimulator
open TrafficLight.SimCommands
open TrafficLight.Decimal
open TrafficLight.SimPending
open TrafficLight.SimTimers
open TrafficLight.SimTrains
open TrafficLight.SimInvariant
open TrafficLight.TrackAdmission
open TrafficLight.TrainRows
open TrafficLight.GateMovement
open TrafficLight.TrainTiming

/-- No crossing is in a fault, and every train so far found its gate closed when
it entered and had not been timed out when it left. -/
def TrainsSafe (sim : RailSim) : Prop :=
  (∀ i, (sim.crossings i).fault = .none) ∧
    ∀ d ∈ sim.delivered, d.before.fault = .none ∧
      ∀ dir, (d.event = .trainEnter dir →
          d.before.track dir = .approaching ∧ d.before.gate = .closed) ∧
        (d.event = .trainExit dir → d.before.track dir = .onCrossing)

instance (sim : RailSim) : Decidable (TrainsSafe sim) :=
  inferInstanceAs (Decidable ((∀ _, _) ∧ ∀ _ ∈ _, _ ∧ ∀ _, (_ → _ ∧ _) ∧ (_ → _)))

/-- The invariant in a tick that began at `lo`. -/
structure Timely (lo : Int) (sim : RailSim) : Prop where
  inv : SimInv sim
  clock : lo ≤ sim.simTimeMs ∧ sim.simTimeMs ≤ lo + longestTick sim.layout
  scale : 1 ≤ sim.timeScale
  due : ∀ ev ∈ pending sim, lo ≤ ev.deliverAtMs
  late : ∀ ev ∈ pending sim, (∀ dir, ev.event ≠ .trainApproach dir) → lo < ev.deliverAtMs
  onTime : ∀ i, OnTime sim.layout i (view sim i)
  past : TrainsSafe sim

theorem onTime_idle {layout : Layout} {i : Fin 3} {v : CrossingView} (hfault : v.cx.fault = .none)
    (hreset : v.cx.resetPending = false) (hgate : v.cx.gate = .open) (hdue : v.gateDue = none)
    (htrack : ∀ dir, v.cx.track dir = .none) (htrains : ∀ dir, v.trains dir = [])
    (htimers : ∀ id, v.timers id = 0) : OnTime layout i v := by
  refine ⟨⟨hfault, hreset, ?_, ?_, ?_, ?_⟩, ?_⟩
  · exact fun _ => htrack
  · rintro id (rfl | rfl) hneeded <;> simp [Needed, hgate] at hneeded
  · simp [hdue]
  · simp [htimers]
  · intro dir
    simp only [TrackOnTime, htrack]
    exact .inl (htrains dir)

theorem timely_start {sim : RailSim} (h : SimStart sim) : Timely sim.simTimeMs sim := by
  have hinv := siminv_start h
  have hnone := pending_start h
  have htimers : ∀ i id, timersOf i id (pending sim) = 0 := by
    intro i id
    rw [hnone]
    rfl
  have htrains : ∀ i dir, trainRow sim i dir = [] := by
    intro i dir
    apply row_eq_nil.mpr
    intro ev hev
    rw [show bag sim.events = 0 from hnone] at hev
    exact absurd hev (Multiset.notMem_zero ev)
  have hpos := longestTick_pos sim.layout
  obtain ⟨names, locals, timeScale, layout, rfl⟩ := h
  constructor
  · exact hinv
  · exact ⟨le_rfl, (le_add_iff_nonneg_right _).mpr hpos.le⟩
  · simp only [railSimInit]
    split <;> omega
  · rw [hnone]
    exact fun ev hev => absurd hev (Multiset.notMem_zero ev)
  · rw [hnone]
    exact fun ev hev => absurd hev (Multiset.notMem_zero ev)
  · intro i
    apply onTime_idle
    · rfl
    · rfl
    · rfl
    · rfl
    · exact fun _ => rfl
    · exact htrains i
    · intro id
      rw [view_timers, htimers]
  · exact ⟨fun _ => rfl, fun d hd => absurd hd List.not_mem_nil⟩

theorem Timely.handled {lo : Int} {sim sim' : RailSim} {i : Fin 3} {event : CrossingEvent}
    {m : Multiset SimEvent} (h : Timely lo sim) (hinv : SimInv sim')
    (hclock : sim'.simTimeMs = sim.simTimeMs ∧ sim'.timeScale = sim.timeScale ∧
      sim'.layout = sim.layout)
    (hdelivered : sim'.delivered = sim.delivered ++ [⟨i, event, sim.crossings i⟩])
    (hpending : pending sim' = afterHandler sim i event m) (hle : m ≤ pending sim)
    (hother : ∀ j ≠ i, view sim' j = view sim j)
    (hown : OnTime sim.layout i (view sim' i))
    (hpast : ∀ dir, (event = .trainEnter dir →
        (sim.crossings i).track dir = .approaching ∧ (sim.crossings i).gate = .closed) ∧
      (event = .trainExit dir → (sim.crossings i).track dir = .onCrossing)) :
    Timely lo sim' := by
  obtain ⟨htime, hscale, hlayout⟩ := hclock
  have hdue : ∀ ev ∈ pending sim', ev ∈ pending sim ∨ sim.simTimeMs < ev.deliverAtMs := by
    intro ev hev
    rw [hpending] at hev
    rcases mem_afterHandler hev with hold | ⟨id, seconds, hstart, hlate⟩
    · exact .inl (Multiset.mem_of_le hle hold)
    · have hpos := timerSeconds_pos id
      rw [outcome_seconds (outcome (sim.crossings i) event) hstart, secToSimMs] at hlate
      exact .inr (by omega)
  have honTime : ∀ j, OnTime sim.layout j (view sim' j) := by
    intro j
    by_cases hj : j = i
    · rw [hj]
      exact hown
    · rw [hother j hj]
      exact h.onTime j
  constructor
  · exact hinv
  · rw [htime, hlayout]
    exact h.clock
  · rw [hscale]
    exact h.scale
  · intro ev hev
    rcases hdue ev hev with hold | hlate
    · exact h.due ev hold
    · exact (h.clock.1.trans_lt hlate).le
  · intro ev hev hevent
    rcases hdue ev hev with hold | hlate
    · exact h.late ev hold hevent
    · exact h.clock.1.trans_lt hlate
  · rw [hlayout]
    exact honTime
  · refine ⟨fun j => (honTime j).gate.noFault, ?_⟩
    rw [hdelivered]
    intro d hd
    rcases List.mem_append.mp hd with hold | hnew
    · exact h.past.2 d hold
    · obtain rfl := List.mem_singleton.mp hnew
      exact ⟨h.past.1 i, hpast⟩

section Slot

variable {lo : Int} {sim : RailSim} {k : Fin maxPendingEvents} {ev : SimEvent}

theorem Timely.delay_late (h : Timely lo sim) (i : Fin 3)
    (hneeded : Needed (view sim i).cx .gateCloseDelay) :
    ∃ ev ∈ (view sim i).timers .gateCloseDelay, lo < ev.deliverAtMs := by
  obtain ⟨due, hdue⟩ := (h.inv.timers i .gateCloseDelay).1 hneeded
  refine ⟨_, hdue ▸ Multiset.mem_singleton_self _, ?_⟩
  apply h.late _ (Multiset.mem_of_mem_filter (hdue ▸ Multiset.mem_singleton_self _))
  intro dir hevent
  cases hevent

theorem Timely.timer_slot (h : Timely lo sim) (hfresh : GateFresh (view sim ev.crossing))
    (hev : ev ∈ pending sim) (hdue : ev.deliverAtMs ≤ sim.simTimeMs) {id : TimerId}
    {gen : UInt32} (hevent : ev.event = .timer id gen) : id = .gateCloseDelay := by
  obtain ⟨-, hneeded, -⟩ := h.inv.timer_current hev hevent
  have hon := h.onTime ev.crossing
  have hmem : ev ∈ (view sim ev.crossing).timers id := by
    rw [view_timers]
    exact Multiset.mem_filter.mpr ⟨hev, by simp [timerOf, hevent]⟩
  have hnow := h.clock.2
  have hgate : id = .gateCloseTimeout ∨ id = .gateOpenTimeout → False := by
    intro hid
    obtain ⟨due, hgateDue, htimers⟩ := hon.gate.moving id hid hneeded
    have hlate := htimers ev hmem
    have hmoving : (view sim ev.crossing).cx.gate = .closing ∨
        (view sim ev.crossing).cx.gate = .opening := by
      rcases hid with rfl | rfl
      · exact .inl hneeded
      · exact .inr hneeded
    have hfuture : sim.simTimeMs < due := hfresh hmoving due hgateDue
    omega
  have htrain : ∀ dir, id = trainTimeoutTimer dir → False := by
    intro dir hid
    have htrack : (view sim ev.crossing).cx.track dir = .onCrossing := by
      subst hid
      cases dir
      · exact hneeded.1
      · exact hneeded.1
    have htime := hon.tracks dir
    simp only [TrackOnTime, htrack] at htime
    obtain ⟨exit, hrow, htimeout⟩ := htime
    have hexit : (⟨exit, ev.crossing, .trainExit dir⟩ : SimEvent) ∈ pending sim := by
      have hmem' : (⟨exit, ev.crossing, .trainExit dir⟩ : SimEvent) ∈
          trainRow sim ev.crossing dir := by
        rw [← view_trains, hrow]
        exact List.mem_singleton_self _
      exact mem_bag.mpr (mem_row.mp hmem').1
    have hlate : lo < exit := h.late _ hexit (by simp)
    have hout := htimeout ev (hid ▸ hmem)
    omega
  cases id with
  | gateCloseDelay => rfl
  | gateCloseTimeout => exact (hgate (.inl rfl)).elim
  | gateOpenTimeout => exact (hgate (.inr rfl)).elim
  | trainTimeoutUp => exact (htrain .up rfl).elim
  | trainTimeoutDown => exact (htrain .down rfl).elim

theorem Timely.train_found (h : Timely lo sim) (hfresh : GateFresh (view sim ev.crossing))
    (hpassed : Passed k sim) (hk : sim.events k = some ev) (hdue : ev.deliverAtMs ≤ sim.simTimeMs)
    (dir : TrackDirection) :
    (ev.event = .trainEnter dir →
        (sim.crossings ev.crossing).track dir = .approaching ∧
          (sim.crossings ev.crossing).gate = .closed) ∧
      (ev.event = .trainExit dir → (sim.crossings ev.crossing).track dir = .onCrossing) := by
  have hon := h.onTime ev.crossing
  constructor
  · intro hevent
    obtain ⟨before, after, hrow, -, hbefore, -⟩ :=
      row_slot hpassed hk (by rw [hevent]; rfl)
    obtain ⟨htrack, hready, -⟩ := (hon.tracks dir).at_enter hrow hevent hbefore hdue
    refine ⟨htrack, ?_⟩
    exact hon.closed (h.inv.crossings ev.crossing) (h.delay_late ev.crossing)
      (fun hclosing => hfresh (.inl hclosing)) htrack hready hdue h.clock.2
  · intro hevent
    obtain ⟨before, after, hrow, -, hbefore, -⟩ :=
      row_slot hpassed hk (by rw [hevent]; rfl)
    exact ((hon.tracks dir).at_exit hrow hevent hbefore hdue).1

theorem Timely.own_slot (h : Timely lo sim) (hfresh : GateFresh (view sim ev.crossing))
    (hpassed : Passed k sim) (hk : sim.events k = some ev)
    (hdue : ev.deliverAtMs ≤ sim.simTimeMs) :
    OnTime sim.layout ev.crossing (view (afterSlot sim k ev) ev.crossing) ∧
      GateFresh (view (afterSlot sim k ev) ev.crossing) := by
  have hev : ev ∈ pending sim := mem_bag.mpr ⟨k, hk⟩
  have hinv := h.inv
  have hcx := hinv.crossings ev.crossing
  have hon := h.onTime ev.crossing
  have hnow : sim.simTimeMs ≤ ev.deliverAtMs + longestTick sim.layout := by
    have hlo := h.due ev hev
    have hclock := h.clock.2
    omega
  obtain ⟨rest, -, hafter⟩ := afterHandle_slot hinv hk
  have hv := hafter.own hinv
  have hidle := idle_view hinv ev.crossing
  have hfound := h.train_found hfresh hpassed hk hdue
  have hquiet : (view (afterSlot sim k ev) ev.crossing).cx.fault = .none := by
    apply quiet_outcome hv.out hon.gate.noFault
    · intro dir hevent _
      exact ((hfound dir).1 hevent).2
    · intro id gen hevent
      exact h.timer_slot hfresh hev hdue hevent
    · intro hevent
      rcases hinv.kinds ev hev with hkind | hkind <;>
        simp [hevent, timerOf, isTrain, trainDir] at hkind
  have hgate := hon.gate.step hcx hidle hv hquiet
  refine ⟨?_, hfresh.step hcx hv⟩
  cases hevent : ev.event with
  | trainApproach dir =>
      rw [hevent] at hv
      obtain ⟨before, after, hrow, hrow', -, hother⟩ :=
        row_slot hpassed hk (by rw [hevent]; rfl)
      obtain ⟨htrack, hlist⟩ := (hon.tracks dir).at_approach hrow hevent
      exact hon.approach hcx hgate hv htrack (hrow'.trans hlist) hother hnow
  | trainEnter dir =>
      rw [hevent] at hv
      obtain ⟨before, after, hrow, hrow', hbefore, hother⟩ :=
        row_slot hpassed hk (by rw [hevent]; rfl)
      obtain ⟨htrack, -, hlist⟩ := (hon.tracks dir).at_enter hrow hevent hbefore hdue
      obtain ⟨-, hclosed⟩ := (hfound dir).1 hevent
      exact hon.enter hidle hgate hv htrack hclosed hdue (hrow'.trans hlist) hother
  | trainExit dir =>
      rw [hevent] at hv
      obtain ⟨before, after, hrow, hrow', hbefore, hother⟩ :=
        row_slot hpassed hk (by rw [hevent]; rfl)
      obtain ⟨htrack, hlist⟩ := (hon.tracks dir).at_exit hrow hevent hbefore hdue
      exact hon.exit hcx hgate hv htrack (hrow'.trans hlist) hother
  | timer id gen =>
      rw [hevent] at hv
      obtain rfl := h.timer_slot hfresh hev hdue hevent
      obtain ⟨hgen, hneeded, -⟩ := hinv.timer_current hev hevent
      have hfired : ev ∈ (view sim ev.crossing).timers .gateCloseDelay := by
        rw [view_timers]
        exact Multiset.mem_filter.mpr ⟨hev, by simp [timerOf, hevent]⟩
      have hlate : lo < ev.deliverAtMs := h.late ev hev (by simp [hevent])
      have htrains : (view (afterSlot sim k ev) ev.crossing).trains =
          (view sim ev.crossing).trains := by
        funext dir
        apply trainRow_afterSlot_other hk
        simp [isTrainAt, hevent, trainDir]
      exact hon.delay hcx hgate hv hneeded hgen hfired hlate h.clock.2 htrains
  | gateClosed | gateOpened | injectFault | resetFault =>
      rcases hinv.kinds ev hev with hkind | hkind <;>
        simp [hevent, timerOf, isTrain, trainDir] at hkind

theorem Timely.afterSlot (h : Timely lo sim) (hfresh : ∀ i, GateFresh (view sim i))
    (hpassed : Passed k sim) (hk : sim.events k = some ev)
    (hdue : ev.deliverAtMs ≤ sim.simTimeMs) :
    Timely lo (afterSlot sim k ev) ∧ ∀ i, GateFresh (view (afterSlot sim k ev) i) := by
  have hinv := h.inv
  obtain ⟨rest, hrest, hafter⟩ := afterHandle_slot hinv hk
  have hframe := handle_frame sim ev.crossing ev.event
  obtain ⟨hown, hownFresh⟩ := h.own_slot (hfresh _) hpassed hk hdue
  have hother : ∀ j ≠ ev.crossing, view (TrainRows.afterSlot sim k ev) j = view sim j :=
    fun j hj => afterSlot_other hinv hk hj
  constructor
  · exact h.handled (simInv_afterSlot hinv hk hdue) ⟨hframe.2.2.1, hframe.2.1, hframe.2.2.2.1⟩
      hframe.2.2.2.2 hafter.pending_eq hafter.le hother hown
      (h.train_found (hfresh _) hpassed hk hdue)
  · intro i
    by_cases hi : i = ev.crossing
    · rw [hi]
      exact hownFresh
    · rw [hother i hi]
      exact hfresh i

theorem Timely.visitSlot (h : Timely lo sim) (hfresh : ∀ i, GateFresh (view sim i))
    (hpassed : Passed k sim) :
    Timely lo (visitSlot sim k) ∧ ∀ i, GateFresh (view (visitSlot sim k) i) := by
  rcases visitSlot_cases sim k with ⟨-, hvisit⟩ | ⟨ev, hk, hdue, hvisit⟩
  · rw [hvisit]
    exact ⟨h, hfresh⟩
  · rw [hvisit]
    exact h.afterSlot hfresh hpassed hk hdue

end Slot

section Gate

variable {lo : Int} {sim : RailSim} {i : Fin 3}

theorem Timely.gateStill (h : Timely lo sim)
    (hstill : ¬ Moves (sim.crossings i)) :
    Timely lo (gateTaken sim i) := by
  have hon := h.onTime i
  have hown : OnTime sim.layout i (view (gateTaken sim i) i) := by
    rw [view_gateTaken]
    refine ⟨⟨hon.gate.noFault, hon.gate.noReset, hon.gate.opening, ?_, ?_, hon.gate.delaySoon⟩, ?_⟩
    · exact fun id hid hneeded => absurd (moves_iff.mpr ⟨id, hid, hneeded⟩) hstill
    · exact fun due hdue => nomatch hdue
    · intro dir
      refine (hon.tracks dir).frame rfl rfl ?_ fun _ hev => hev
      exact fun _ enter hready => ⟨fun hclosing => absurd (.inl hclosing) hstill, hready.2⟩
  refine ⟨h.inv.congr rfl rfl rfl, h.clock, h.scale, h.due, h.late, ?_, h.past⟩
  intro j
  by_cases hj : j = i
  · rw [hj]
    exact hown
  · rw [view_gateTaken_other hj]
    exact h.onTime j

theorem Timely.gateReport (h : Timely lo sim) {event : CrossingEvent}
    (hevent : Reports (sim.crossings i) event) :
    Timely lo (handle (gateTaken sim i) i event) ∧
      GateFresh (view (handle (gateTaken sim i) i event) i) ∧
      ∀ j ≠ i, view (handle (gateTaken sim i) i event) j = view sim j := by
  have htaken : SimInv (gateTaken sim i) := h.inv.congr rfl rfl rfl
  have hnotimer : ∀ id gen, event ≠ .timer id gen := by
    rcases hevent.kind with rfl | rfl <;> simp
  have hframe := handle_frame (gateTaken sim i) i event
  have hafter := afterHandle_gate h.inv i event
  obtain ⟨hown, -⟩ := (h.onTime i).gateDone (h.inv.crossings i) (idle_view h.inv i)
    (gateReport_own h.inv) hevent (funext fun dir => handle_row (gateTaken sim i) i i event dir)
  have hother : ∀ j ≠ i, view (handle (gateTaken sim i) i event) j = view sim j :=
    fun j hj => gateReport_other h.inv hj
  refine ⟨?_, gateReport_fresh h.inv, hother⟩
  refine h.handled (htaken.handle i hnotimer) ⟨hframe.2.2.1, hframe.2.1, hframe.2.2.2.1⟩
    hframe.2.2.2.2 hafter.pending_eq le_rfl hother hown ?_
  intro dir
  rcases hevent.kind with rfl | rfl <;> simp

theorem Timely.visitGate (h : Timely lo sim) (i : Fin 3) :
    Timely lo (visitGate sim i) ∧ GateFresh (view (visitGate sim i) i) ∧
      ∀ j ≠ i, view (visitGate sim i) j = view sim j := by
  rcases visitGate_cases sim i with ⟨hfresh, hvisit⟩ | ⟨hstill, hvisit⟩ | ⟨event, hevent, hvisit⟩
  · rw [hvisit]
    exact ⟨h, fun _ => hfresh, fun _ _ => rfl⟩
  · rw [hvisit]
    exact ⟨h.gateStill hstill, fun hmoves => absurd hmoves hstill,
      fun j hj => view_gateTaken_other hj⟩
  · rw [hvisit]
    exact h.gateReport hevent

end Gate

/-- The length of the next tick. -/
def tickMs (sim : RailSim) : Int := simTickMs * sim.timeScale

/-- The ticks of the time scale fit the layout, or there is nothing to wait for. -/
def TickFits (sim : RailSim) : Prop :=
  tickMs sim ≤ longestTick sim.layout ∨ ∀ k, sim.events k = none

theorem Timely.advance {sim : RailSim} (h : Timely sim.simTimeMs sim) (hfits : TickFits sim) :
    ∃ lo, Timely lo (advance sim) := by
  have htick : (RailSimulator.advance sim).simTimeMs = sim.simTimeMs + tickMs sim := rfl
  have hscale := h.scale
  have hpos : 0 ≤ tickMs sim := by
    simp only [tickMs, simTickMs]
    omega
  have honTime : ∀ i, OnTime sim.layout i (view (RailSimulator.advance sim) i) := by
    intro i
    refine @OnTime.later _ _ _ (view (RailSimulator.advance sim) i) (h.onTime i) rfl rfl rfl rfl ?_
    change sim.simTimeMs ≤ (RailSimulator.advance sim).simTimeMs
    omega
  rcases hfits with hlong | hnone
  · refine ⟨sim.simTimeMs, h.inv.congr rfl rfl rfl, ?_, h.scale, h.due, h.late, honTime, h.past⟩
    rw [htick]
    exact ⟨by omega, (Int.add_le_add_iff_left _).mpr hlong⟩
  · have hempty : ∀ ev, ev ∉ pending (RailSimulator.advance sim) := by
      intro ev hev
      obtain ⟨k, hk⟩ := mem_bag.mp hev
      rw [show (RailSimulator.advance sim).events k = none from hnone k] at hk
      cases hk
    have hlongest := longestTick_pos sim.layout
    exact ⟨(RailSimulator.advance sim).simTimeMs, h.inv.congr rfl rfl rfl,
      ⟨le_rfl, (le_add_iff_nonneg_right _).mpr hlongest.le⟩, h.scale,
      fun ev hev => absurd hev (hempty ev), fun ev hev => absurd hev (hempty ev), honTime, h.past⟩

theorem Timely.gates {lo : Int} {sim : RailSim} (h : Timely lo sim) :
    Timely lo (sweep RailSimulator.visitGate sim) ∧
      ∀ i, GateFresh (view (sweep RailSimulator.visitGate sim) i) := by
  have hall := @sweep_upto 3 RailSim RailSimulator.visitGate
    (fun k s => Timely lo s ∧ ∀ i : Fin 3, i.val < k → GateFresh (view s i))
    (fun s i hs => by
      obtain ⟨htimely, hfresh, hother⟩ := hs.1.visitGate i
      refine ⟨htimely, ?_⟩
      intro j hj
      by_cases hji : j = i
      · rw [hji]
        exact hfresh
      · rw [hother j hji]
        exact hs.2 j (by have := Fin.val_ne_of_ne hji; omega))
    sim ⟨h, fun _ hi => absurd hi (Nat.not_lt_zero _)⟩
  exact ⟨hall.1, fun i => hall.2 i i.isLt⟩

theorem Timely.slots {lo : Int} {sim : RailSim} (h : Timely lo sim)
    (hfresh : ∀ i, GateFresh (view sim i)) :
    Timely lo (sweep RailSimulator.visitSlot sim) ∧
      Passed maxPendingEvents (sweep RailSimulator.visitSlot sim) := by
  have hall := @sweep_upto maxPendingEvents RailSim RailSimulator.visitSlot
    (fun k s => Timely lo s ∧ (∀ i, GateFresh (view s i)) ∧ Passed k s)
    (fun s k hs => by
      obtain ⟨htimely, hs'⟩ := hs.1.visitSlot hs.2.1 hs.2.2
      exact ⟨htimely, hs', hs.2.2.visitSlot⟩)
    sim ⟨h, hfresh, fun _ hj => absurd hj (Nat.not_lt_zero _)⟩
  exact ⟨hall.1, hall.2.2⟩

theorem Timely.tick {sim : RailSim} (h : Timely sim.simTimeMs sim) (hfits : TickFits sim) :
    Timely (railSimTick sim).simTimeMs (railSimTick sim) := by
  obtain ⟨lo, hadvance⟩ := h.advance hfits
  obtain ⟨hgates, hfresh⟩ := hadvance.gates
  obtain ⟨hslots, hpassed⟩ := hgates.slots hfresh
  have hlater : ∀ ev ∈ pending (railSimTick sim), (railSimTick sim).simTimeMs < ev.deliverAtMs := by
    intro ev hev
    obtain ⟨k, hk⟩ := mem_bag.mp hev
    exact hpassed k k.isLt ev hk
  have hpos := longestTick_pos (railSimTick sim).layout
  exact ⟨hslots.inv, ⟨le_rfl, by omega⟩, hslots.scale, fun ev hev => (hlater ev hev).le,
    fun ev hev _ => hlater ev hev, hslots.onTime, hslots.past⟩

/-- The commands of ordinary operation. -/
def Ordinary : SimRequest → Prop
  | .trainBoth | .trainLine _ | .status | .help => True
  | .trainAt _ _ noExit => noExit = false
  | .scale n => 1 ≤ n ∧ n ≤ 100
  | _ => False

instance : DecidablePred Ordinary
  | .trainBoth | .trainLine _ | .status | .help => .isTrue trivial
  | .trainAt _ _ noExit => inferInstanceAs (Decidable (noExit = false))
  | .scale n => inferInstanceAs (Decidable (1 ≤ n ∧ n ≤ 100))
  | .empty | .faultNumbered _ | .fault _ | .reset _ | .unknown _ => .isFalse id

theorem exits_ordinary {sim : RailSim} {request : SimRequest} (h : Ordinary request) {i : Fin 3}
    {dir : TrackDirection} {noExit : Bool} (hstarts : noExit ∈ requestTrains sim request i dir) :
    noExit = false := by
  cases request with
  | trainBoth => exact List.mem_singleton.mp hstarts
  | trainLine d =>
      rw [requestTrains] at hstarts
      split at hstarts
      · exact List.mem_singleton.mp hstarts
      · cases hstarts
  | trainAt arg1 d noExit' =>
      rw [requestTrains] at hstarts
      split at hstarts
      · exact (List.mem_singleton.mp hstarts).trans h
      · cases hstarts
  | _ => cases hstarts

theorem Timely.queueAll {sim : RailSim} (h : Timely sim.simTimeMs sim) {request : SimRequest}
    (hordinary : Ordinary request)
    (hroom : (requestPlan sim request).length + timerEventReserve ≤ freeSlots sim.events)
    (hfree : PlanFree sim (requestPlan sim request))
    (htracks : ∀ p ∈ requestPlan sim request, ∀ dir, trainDir p.event = some dir →
      TrackFree (sim.crossings p.crossing) dir) :
    Timely (queueAll sim (requestPlan sim request)).simTimeMs
      (queueAll sim (requestPlan sim request)) := by
  have hclock := sameClock_queueAll (requestPlan sim request) sim
  have hpos := longestTick_pos sim.layout
  have hwarning := warningMs_pos sim.layout
  have hlength := lengthMs_pos sim.layout
  -- each track has its old row or the events of a new train
  have hrow : ∀ i dir, trainRow (SimTrains.queueAll sim (requestPlan sim request)) i dir =
        trainRow sim i dir ∨
      (sim.crossings i).track dir = .none ∧ ∃ warn, sim.simTimeMs ≤ warn ∧
        trainRow (SimTrains.queueAll sim (requestPlan sim request)) i dir =
          [⟨warn, i, .trainApproach dir⟩, ⟨warn + warningMs sim.layout, i, .trainEnter dir⟩,
            ⟨warn + warningMs sim.layout + lengthMs sim.layout, i, .trainExit dir⟩] := by
    intro i dir
    rcases queueAll_trains hroom hfree i dir with ⟨hold, -⟩ | hnew
    · exact .inl hold
    · obtain ⟨arrive, noExit, harrive, hstarts, -, hnew, p, hp, rfl, hdir⟩ := hnew
      have hexits : noExit = false := exits_ordinary hordinary (hstarts ▸ List.mem_singleton_self _)
      rw [hexits] at hnew
      refine .inr ⟨(htracks p hp dir hdir).resolve_left ?_, ?_⟩
      · exact not_not_intro (h.past.1 p.crossing)
      · refine ⟨sim.simTimeMs + secToSimMs (arrive - sim.layout.warningSec), ?_, ?_⟩
        · simp only [secToSimMs]
          omega
        · rw [hnew]
          simp only [trainEvents, trainPlan, Planned.toEvent, secToSimMs, warningMs, lengthMs,
            Bool.false_eq_true, if_false, List.take_succ_cons, List.take_zero, List.map_cons,
            List.map_nil, List.cons.injEq, SimEvent.mk.injEq, and_true, true_and]
          omega
  have hinv := h.inv.queueAll hroom
  have hevents : ∀ ev ∈ pending (SimTrains.queueAll sim (requestPlan sim request)),
      ev ∈ pending sim ∨ sim.simTimeMs ≤ ev.deliverAtMs ∧
        ((∀ dir, ev.event ≠ .trainApproach dir) → sim.simTimeMs < ev.deliverAtMs) := by
    intro ev hev
    rcases hinv.kinds ev hev with htimer | htrain
    · obtain ⟨⟨i, id⟩, hkey⟩ := Option.isSome_iff_exists.mp htimer
      left
      apply Multiset.mem_of_mem_filter (p := fun ev => timerOf ev = some (i, id))
      change ev ∈ timersOf i id (pending sim)
      rw [← timersOf_queueAll hroom]
      exact Multiset.mem_filter.mpr ⟨hev, hkey⟩
    · obtain ⟨dir, hdir⟩ := Option.isSome_iff_exists.mp htrain
      have hmem : ev ∈ trainRow (SimTrains.queueAll sim (requestPlan sim request))
          ev.crossing dir :=
        mem_row.mpr ⟨mem_bag.mp hev, decide_eq_true ⟨rfl, hdir⟩⟩
      rcases hrow ev.crossing dir with hold | ⟨-, warn, hwarn, hnew⟩
      · rw [hold] at hmem
        exact .inl (mem_bag.mpr (mem_row.mp hmem).1)
      · right
        rw [hnew] at hmem
        simp only [List.mem_cons, List.not_mem_nil, or_false] at hmem
        rcases hmem with hev | hev | hev <;> rw [hev]
        · exact ⟨hwarn, fun hnot => absurd rfl (hnot dir)⟩
        · exact ⟨by dsimp only; omega, fun _ => by dsimp only; omega⟩
        · exact ⟨by dsimp only; omega, fun _ => by dsimp only; omega⟩
  rw [hclock.simTimeMs]
  constructor
  · exact hinv
  · rw [hclock.simTimeMs, hclock.layout]
    exact h.clock
  · rw [hclock.timeScale]
    exact h.scale
  · intro ev hev
    rcases hevents ev hev with hold | hnew
    · exact h.due ev hold
    · exact hnew.1
  · intro ev hev happroach
    rcases hevents ev hev with hold | hnew
    · exact h.late ev hold happroach
    · exact hnew.2 happroach
  · intro i
    rw [hclock.layout, view_queueAll hroom]
    refine ⟨⟨(h.onTime i).gate.noFault, (h.onTime i).gate.noReset, (h.onTime i).gate.opening,
      (h.onTime i).gate.moving, (h.onTime i).gate.gateSoon, (h.onTime i).gate.delaySoon⟩, ?_⟩
    intro dir
    rcases hrow i dir with hold | ⟨htrack, warn, -, hnew⟩
    · exact ((h.onTime i).tracks dir).frame rfl hold (fun _ _ hready => hready) fun _ hev => hev
    · have hstate : (view sim i).cx.track dir = .none := htrack
      simp only [TrackOnTime, hstate]
      exact .inr ⟨warn, hnew⟩
  · rw [TrainsSafe, hclock.crossings, hclock.delivered]
    exact h.past

/-- The commands of a run in ordinary operation. -/
def OrdinaryStep : SimStep → Prop
  | .tick => True
  | .command cmd => Ordinary (requestOf cmd)

instance : DecidablePred OrdinaryStep
  | .tick => .isTrue trivial
  | .command cmd => inferInstanceAs (Decidable (Ordinary (requestOf cmd)))

/-- What keeps the warning long enough: ticks that fit the layout, and free
tracks for the trains that are admitted. -/
def WarningKept (sim : RailSim) : SimStep → Prop
  | .tick => TickFits sim
  | .command cmd => TracksFree sim (.command cmd)

instance (sim : RailSim) : Decidable (TickFits sim) :=
  inferInstanceAs (Decidable (_ ∨ ∀ _, _))

instance (sim : RailSim) : DecidablePred (WarningKept sim)
  | .tick => inferInstanceAs (Decidable (TickFits sim))
  | .command cmd => inferInstanceAs (Decidable (TracksFree sim (.command cmd)))

theorem Timely.command {sim sim' : RailSim} {cmd : List UInt8} {ok : Bool}
    (h : Timely sim.simTimeMs sim) (hordinary : Ordinary (requestOf cmd))
    (hkept : TracksFree sim (.command cmd))
    (heffect : CommandEffect sim (requestOf cmd) sim' ok) : Timely sim'.simTimeMs sim' := by
  cases heffect with
  | unchanged => exact h
  | event i hrequest =>
      revert hordinary hrequest
      cases requestOf cmd <;> simp [Ordinary, requestEvent]
  | scale n hn =>
      exact ⟨h.inv.congr rfl rfl rfl, h.clock, hn.1, h.due, h.late, h.onTime, h.past⟩
  | trains _ hroom hfree => exact h.queueAll hordinary hroom hfree (hkept ⟨hfree, hroom⟩)

theorem Timely.step {sim : RailSim} {step : SimStep} (h : Timely sim.simTimeMs sim)
    (hordinary : OrdinaryStep step) (hkept : WarningKept sim step) :
    Timely (simStep sim step).simTimeMs (simStep sim step) := by
  cases step with
  | tick => exact h.tick hkept
  | command cmd => exact h.command hordinary hkept (commandEffect sim (requestOf cmd))

/-- In ordinary operation no crossing enters a fault, as long as the ticks fit
the layout and admitted trains find their tracks free. -/
theorem warning_enough {sim : RailSim} (hstart : SimStart sim) {steps : List SimStep}
    (hordinary : ∀ step ∈ steps, OrdinaryStep step)
    (hkept : Along simStep WarningKept sim steps) :
    Throughout simStep TrainsSafe sim steps := by
  have hboth : Along simStep (fun s step => OrdinaryStep step ∧ WarningKept s step) sim steps :=
    (along_and simStep _ _ sim steps).mpr ⟨(along_forall simStep _ sim steps).mpr hordinary, hkept⟩
  apply Along.throughout (J := fun s => Timely s.simTimeMs s) _ (fun _ hs => hs.past)
    (timely_start hstart) hboth
  rintro s step hs ⟨hord, hkeep⟩
  exact hs.step hord hkeep

theorem warning_enough_following :
    Throughout simStep TrainsSafe trainControllerStart trainAfterTrain :=
  warning_enough simStart_trainController (by decide +kernel) (by decide +kernel)

/-- At scale 20 a tick is two seconds: the train comes before the gate is shut. -/
def trainAtScaleTwenty : List SimStep :=
  .command (ascii ['s', 'c', 'a', 'l', 'e', ' ', '2', '0']) :: .command trainUpAtP1 ::
    List.replicate 10 .tick

theorem warning_short_scale :
    SimStart trainControllerStart ∧ (∀ step ∈ trainAtScaleTwenty, OrdinaryStep step) ∧
      ¬ Throughout simStep TrainsSafe trainControllerStart trainAtScaleTwenty :=
  ⟨simStart_trainController, by decide +kernel, by decide +kernel⟩

end TrafficLight.WarningTime
