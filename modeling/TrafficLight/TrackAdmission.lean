import Mathlib.Tactic.FinCases
import TrafficLight.SimInvariant

namespace TrafficLight.TrackAdmission

open TrafficLight.Runs
open TrafficLight.Protocol
open TrafficLight.CrossingMachine
open TrafficLight.CrossingOutcomes
open TrafficLight.Slots
open TrafficLight.RailSimulator
open TrafficLight.SimCommands
open TrafficLight.Decimal
open TrafficLight.SimPending
open TrafficLight.SimTimers
open TrafficLight.SimTrains
open TrafficLight.SimInvariant

/-- Every approach delivered to a crossing without a fault found its track free,
and was registered. -/
def ApproachesRegistered (sim : RailSim) : Prop :=
  ∀ d ∈ sim.delivered, ∀ dir, d.event = .trainApproach dir → d.before.fault = .none →
    d.before.track dir = .none ∧
      (crossingHandleEvent d.before d.event).cx.track dir = .approaching

instance (sim : RailSim) : Decidable (ApproachesRegistered sim) :=
  inferInstanceAs (Decidable (∀ _ ∈ _, ∀ _, _))

/-- The track has no train, or none that counts until the fault is reset. -/
def TrackFree (cx : Crossing) (dir : TrackDirection) : Prop :=
  cx.fault ≠ .none ∨ cx.track dir = .none

instance (cx : Crossing) (dir : TrackDirection) : Decidable (TrackFree cx dir) :=
  inferInstanceAs (Decidable (_ ∨ _))

/-- The admission test lets the plan pass. -/
def Admitted (sim : RailSim) (plan : List Planned) : Prop :=
  PlanFree sim plan ∧ plan.length + timerEventReserve ≤ freeSlots sim.events

/-- A train that is admitted finds its tracks free. -/
def TracksFree (sim : RailSim) : SimStep → Prop
  | .tick => True
  | .command cmd =>
      Admitted sim (requestPlan sim (requestOf cmd)) →
        ∀ p ∈ requestPlan sim (requestOf cmd), ∀ dir, trainDir p.event = some dir →
          TrackFree (sim.crossings p.crossing) dir

instance (sim : RailSim) (plan : List Planned) : Decidable (PlanFree sim plan) :=
  inferInstanceAs (Decidable (∀ _ ∈ _, ∀ _, _))

instance (sim : RailSim) (step : SimStep) : Decidable (TracksFree sim step) :=
  match step with
  | .tick => inferInstanceAs (Decidable True)
  | .command _ => inferInstanceAs (Decidable (_ ∧ _ → ∀ _ ∈ _, ∀ _, _))

theorem trackFree_outcome {cx cx' : Crossing} {event : CrossingEvent} {os : List CxOp}
    (h : Outcome cx event cx' os) {dir : TrackDirection} (hfree : TrackFree cx dir)
    (hevent : event ≠ .trainApproach dir) : TrackFree cx' dir := by
  cases h with
  | @approachDelay d | @approachReclose d | @approachOther d | @enterClosed d | @exitBusy d
  | @exitOpen d | @exitReleased d =>
      cases d <;> cases dir <;>
        simp_all [TrackFree, approached, closeStarted, entered, exited, released, openStarted]
  | _ =>
      simp_all [TrackFree, faulted, closedGate, openedGate, closeStarted, openStarted,
        resetStarted]

theorem approach_registered {cx : Crossing} {dir : TrackDirection} (hfault : cx.fault = .none)
    (hfree : cx.track dir = .none) :
    (crossingHandleEvent cx (.trainApproach dir)).cx.track dir = .approaching := by
  have hout := outcome cx (.trainApproach dir)
  generalize ops (crossingHandleEvent cx (.trainApproach dir)) = os at hout
  generalize (crossingHandleEvent cx (.trainApproach dir)).cx = cx' at hout
  cases hout with
  | ignoredFaulted hfaulted => exact absurd hfault hfaulted
  | approachIgnored _ htrack => exact absurd hfree htrack
  | approachDelay | approachReclose | approachOther => simp [approached, closeStarted]

def isApproach (i : Fin 3) (dir : TrackDirection) (ev : SimEvent) : Prop :=
  ev.crossing = i ∧ ev.event = .trainApproach dir

instance (i : Fin 3) (dir : TrackDirection) (ev : SimEvent) : Decidable (isApproach i dir ev) :=
  inferInstanceAs (Decidable (_ ∧ _))

structure ApproachInv (sim : RailSim) : Prop where
  once : ∀ i dir, (pending sim).countP (isApproach i dir) ≤ 1
  free : ∀ i dir, 0 < (pending sim).countP (isApproach i dir) → TrackFree (sim.crossings i) dir
  past : ApproachesRegistered sim

theorem approachInv_start {sim : RailSim} (h : SimStart sim) : ApproachInv sim := by
  have hnone := pending_start h
  obtain ⟨names, locals, timeScale, layout, rfl⟩ := h
  constructor
  · intro i dir
    rw [hnone]
    exact Nat.zero_le _
  · intro i dir hpos
    rw [hnone] at hpos
    exact absurd hpos (Nat.lt_irrefl 0)
  · exact fun d hd => absurd hd List.not_mem_nil

theorem countP_afterOps {now : Int} {i : Fin 3} {gen : TimerId → UInt32} {os : List CxOp}
    (i' : Fin 3) (dir : TrackDirection) (m : Multiset SimEvent) :
    (afterOps now i gen m os).countP (isApproach i' dir) = m.countP (isApproach i' dir) := by
  rw [Multiset.countP_eq_card_filter, Multiset.countP_eq_card_filter, filter_afterOps]
  intro op _ id _ ev hev happroach
  simp [timerOf, happroach.2] at hev

theorem ApproachInv.handled {sim sim' : RailSim} (h : ApproachInv sim) {i : Fin 3}
    {event : CrossingEvent} {m : Multiset SimEvent}
    (hcrossings : sim'.crossings =
      Function.update sim.crossings i (crossingHandleEvent (sim.crossings i) event).cx)
    (hdelivered : sim'.delivered = sim.delivered ++ [⟨i, event, sim.crossings i⟩])
    (hpending : pending sim' = afterHandler sim i event m) (hle : m ≤ pending sim)
    (hown : ∀ dir, event = .trainApproach dir → m.countP (isApproach i dir) = 0 ∧
      TrackFree (sim.crossings i) dir) :
    ApproachInv sim' := by
  have hcount : ∀ i' dir, (pending sim').countP (isApproach i' dir) =
      m.countP (isApproach i' dir) := by
    intro i' dir
    rw [hpending]
    exact countP_afterOps i' dir m
  constructor
  · intro i' dir
    rw [hcount]
    exact (Multiset.countP_le_of_le _ hle).trans (h.once i' dir)
  · intro i' dir hpos
    rw [hcount] at hpos
    have hfree := h.free i' dir (hpos.trans_le (Multiset.countP_le_of_le _ hle))
    rw [hcrossings]
    by_cases hi : i' = i
    · subst hi
      rw [Function.update_self]
      apply trackFree_outcome (outcome (sim.crossings i') event) hfree
      intro hevent
      have hzero := (hown dir hevent).1
      omega
    · rw [Function.update_of_ne hi]
      exact hfree
  · rw [ApproachesRegistered, hdelivered]
    intro d hd dir hevent hfault
    rcases List.mem_append.mp hd with hold | hnew
    · exact h.past d hold dir hevent hfault
    · obtain rfl := List.mem_singleton.mp hnew
      obtain rfl : event = .trainApproach dir := hevent
      have hfree : (sim.crossings i).track dir = .none :=
        (hown dir rfl).2.resolve_left (not_not_intro hfault)
      exact ⟨hfree, approach_registered hfault hfree⟩

theorem ApproachInv.handle {sim : RailSim} (h : ApproachInv sim) (hinv : SimInv sim) (i : Fin 3)
    {event : CrossingEvent} (hevent : ∀ dir, event ≠ .trainApproach dir) :
    ApproachInv (handle sim i event) := by
  obtain ⟨hcrossings, -, -, -, hdelivered⟩ := handle_frame sim i event
  have hpending := (handle_pending (hinv.room_outcome i event)).2
  exact h.handled hcrossings hdelivered hpending le_rfl fun dir hown => absurd hown (hevent dir)

theorem ApproachInv.congr {sim sim' : RailSim} (h : ApproachInv sim)
    (hcrossings : sim'.crossings = sim.crossings) (hevents : sim'.events = sim.events)
    (hdelivered : sim'.delivered = sim.delivered) : ApproachInv sim' := by
  have hpending : pending sim' = pending sim := congrArg bag hevents
  constructor
  · rw [hpending]
    exact h.once
  · rw [hpending, hcrossings]
    exact h.free
  · rw [ApproachesRegistered, hdelivered]
    exact h.past

theorem ApproachInv.visitGate {sim : RailSim} (h : ApproachInv sim) (hinv : SimInv sim)
    (i : Fin 3) : ApproachInv (visitGate sim i) := by
  have htaken : ApproachInv (gateTaken sim i) := h.congr rfl rfl rfl
  have hinv' : SimInv (gateTaken sim i) := hinv.congr rfl rfl rfl
  rcases visitGate_cases sim i with ⟨-, hvisit⟩ | ⟨-, hvisit⟩ | ⟨event, hreports, hvisit⟩
  · rw [hvisit]
    exact h
  · rw [hvisit]
    exact htaken
  · rw [hvisit]
    apply htaken.handle hinv' i
    rcases hreports.kind with rfl | rfl <;> simp

theorem ApproachInv.visitSlot {sim : RailSim} (h : ApproachInv sim) (hinv : SimInv sim)
    (k : Fin maxPendingEvents) : ApproachInv (visitSlot sim k) := by
  unfold RailSimulator.visitSlot
  split
  · rename_i ev hk
    split
    · obtain ⟨rest, hrest, hbag⟩ := deliver_pending hk (hinv.room_outcome ev.crossing ev.event)
      obtain ⟨hcrossings, -, -, -, hdelivered⟩ := handle_frame sim ev.crossing ev.event
      refine @ApproachInv.handled sim _ h ev.crossing ev.event rest hcrossings hdelivered hbag
        ?_ ?_
      · rw [hrest]
        exact Multiset.le_cons_self rest ev
      · intro dir hevent
        have hone := h.once ev.crossing dir
        have hcount : (pending sim).countP (isApproach ev.crossing dir) =
            rest.countP (isApproach ev.crossing dir) + 1 := by
          rw [hrest]
          exact Multiset.countP_cons_of_pos _ ⟨rfl, hevent⟩
        exact ⟨by omega, h.free ev.crossing dir (by omega)⟩
    · exact h
  · exact h

theorem countP_trainPlan (layout : Layout) (i i' : Fin 3) (dir dir' : TrackDirection)
    (arrive now : Int) :
    ((trainPlan layout i dir arrive).map (Planned.toEvent now)).countP (isApproach i' dir') =
      if i = i' ∧ dir = dir' then 1 else 0 := by
  simp [trainPlan, Planned.toEvent, isApproach, List.countP_cons]

theorem countP_linePlan (layout : Layout) (i : Fin 3) (dir dir' : TrackDirection) (now : Int) :
    ((linePlan layout dir).map (Planned.toEvent now)).countP (isApproach i dir') =
      if dir = dir' then 1 else 0 := by
  cases dir <;>
    simp only [linePlan, lineArrivals, List.flatMap_cons, List.flatMap_nil, List.append_nil,
      List.map_append, List.countP_append, countP_trainPlan] <;>
    cases dir' <;> fin_cases i <;> rfl

theorem countP_requestPlan (sim : RailSim) (request : SimRequest) (i : Fin 3)
    (dir : TrackDirection) (now : Int) :
    ((requestPlan sim request).map (Planned.toEvent now)).countP (isApproach i dir) ≤ 1 := by
  cases request with
  | trainBoth =>
      rw [requestPlan, List.map_append, List.countP_append, countP_linePlan, countP_linePlan]
      cases dir <;> simp
  | trainLine d =>
      rw [requestPlan, countP_linePlan]
      split <;> omega
  | trainAt arg1 d noExit =>
      rw [requestPlan]
      split
      · rename_i j _
        have hsub : ((crossingPlan sim.layout j d noExit).map (Planned.toEvent now)).Sublist
            ((trainPlan sim.layout j d sim.layout.warningSec).map (Planned.toEvent now)) :=
          (List.take_sublist _ _).map _
        have hle := hsub.countP_le (p := isApproach i dir)
        rw [countP_trainPlan] at hle
        split at hle <;> omega
      · exact Nat.zero_le _
  | _ => exact Nat.zero_le _

theorem ApproachInv.command {sim sim' : RailSim} {cmd : List UInt8} {ok : Bool}
    (h : ApproachInv sim) (hinv : SimInv sim) (hfree : TracksFree sim (.command cmd))
    (heffect : CommandEffect sim (requestOf cmd) sim' ok) : ApproachInv sim' := by
  cases heffect with
  | unchanged => exact h
  | event i hrequest =>
      apply h.handle hinv i
      rcases (requestEvent_cases hrequest).1 with rfl | rfl <;> simp
  | scale => exact h.congr rfl rfl rfl
  | trains _ hroom hclear =>
      have hpending := (pending_queueAll hroom).2
      have hclock := sameClock_queueAll (requestPlan sim (requestOf cmd)) sim
      -- a track of the plan has no pending events, any other gets no new ones
      have hcount : ∀ i dir,
          (pending (queueAll sim (requestPlan sim (requestOf cmd)))).countP (isApproach i dir) =
            ((requestPlan sim (requestOf cmd)).map
              (Planned.toEvent sim.simTimeMs)).countP (isApproach i dir) +
            (pending sim).countP (isApproach i dir) := by
        intro i dir
        rw [hpending, Multiset.countP_add, Multiset.coe_countP]
      have hplanned : ∀ i dir, 0 < ((requestPlan sim (requestOf cmd)).map
          (Planned.toEvent sim.simTimeMs)).countP (isApproach i dir) →
          (pending sim).countP (isApproach i dir) = 0 ∧ TrackFree (sim.crossings i) dir := by
        intro i dir hpos
        obtain ⟨ev, hev, happroach⟩ := List.countP_pos_iff.mp hpos
        obtain ⟨p, hp, rfl⟩ := List.mem_map.mp hev
        obtain ⟨rfl, hevent⟩ := of_decide_eq_true happroach
        have hdir : trainDir p.event = some dir := by
          rw [show p.event = .trainApproach dir from hevent]
          rfl
        refine ⟨?_, hfree ⟨hclear, hroom⟩ p hp dir hdir⟩
        rw [Multiset.countP_eq_zero]
        intro ev hev happroach
        have hbusy : trainPending sim p.crossing dir = true :=
          trainPending_iff.mpr ⟨ev, hev, happroach.1, by rw [happroach.2]; rfl⟩
        rw [hclear p hp dir hdir] at hbusy
        cases hbusy
      constructor
      · intro i dir
        rw [hcount]
        have hone := h.once i dir
        have hnew := countP_requestPlan sim (requestOf cmd) i dir sim.simTimeMs
        by_cases hpos : 0 < ((requestPlan sim (requestOf cmd)).map
            (Planned.toEvent sim.simTimeMs)).countP (isApproach i dir)
        · have hzero := (hplanned i dir hpos).1
          omega
        · omega
      · intro i dir hpos
        rw [hclock.crossings]
        rw [hcount] at hpos
        by_cases hnew : 0 < ((requestPlan sim (requestOf cmd)).map
            (Planned.toEvent sim.simTimeMs)).countP (isApproach i dir)
        · exact (hplanned i dir hnew).2
        · exact h.free i dir (by omega)
      · rw [ApproachesRegistered, hclock.delivered]
        exact h.past

theorem ApproachInv.tick {sim : RailSim} (h : ApproachInv sim) (hinv : SimInv sim) :
    ApproachInv (railSimTick sim) := by
  have hadvance : SimInv (advance sim) ∧ ApproachInv (advance sim) :=
    ⟨hinv.congr rfl rfl rfl, h.congr rfl rfl rfl⟩
  have hgates := sweep_invariant (I := fun s => SimInv s ∧ ApproachInv s)
    (fun _ i hs => ⟨hs.1.visitGate i, hs.2.visitGate hs.1 i⟩) hadvance
  exact (sweep_invariant (I := fun s => SimInv s ∧ ApproachInv s)
    (fun _ k hs => ⟨hs.1.visitSlot k, hs.2.visitSlot hs.1 k⟩) hgates).2

theorem ApproachInv.step {sim : RailSim} (h : ApproachInv sim) (hinv : SimInv sim)
    {step : SimStep} (hfree : TracksFree sim step) : ApproachInv (simStep sim step) := by
  cases step with
  | tick => exact h.tick hinv
  | command cmd => exact h.command hinv hfree (commandEffect sim (requestOf cmd))

/-- As long as every admitted train finds its tracks free, no approach is
ignored. -/
theorem approaches_registered {sim : RailSim} (hstart : SimStart sim) {steps : List SimStep}
    (hfree : Along simStep TracksFree sim steps) :
    Throughout simStep ApproachesRegistered sim steps := by
  have hinit : SimInv sim ∧ ApproachInv sim := ⟨siminv_start hstart, approachInv_start hstart⟩
  apply Along.throughout (J := fun s => SimInv s ∧ ApproachInv s) _ (fun s hs => hs.2.past)
    hinit hfree
  rintro s step ⟨hinv, happroach⟩ hstep
  exact ⟨hinv.step step, happroach.step hinv hstep⟩

def trainUpAtP1 : List UInt8 :=
  ascii ['t', 'r', 'a', 'i', 'n', ' ', 'P', '1', ' ', 'u', 'p']

/-- A second train follows once the first has left. -/
def trainAfterTrain : List SimStep :=
  .command trainUpAtP1 :: List.replicate 18 .tick ++ [.command trainUpAtP1, .tick]

theorem approaches_registered_following :
    Throughout simStep ApproachesRegistered trainControllerStart trainAfterTrain :=
  approaches_registered simStart_trainController (by decide +kernel)

/-- A train that never exits is on the crossing when another one is admitted. -/
def trainAfterNoExit : List SimStep :=
  .command (ascii ['n', 'o', 'e', 'x', 'i', 't', ' ', 'P', '1', ' ', 'u', 'p']) ::
    List.replicate 10 .tick ++ [.command trainUpAtP1, .tick]

theorem approach_ignored_noexit :
    SimStart trainControllerStart ∧
      ¬ Throughout simStep ApproachesRegistered trainControllerStart trainAfterNoExit :=
  ⟨simStart_trainController, by decide +kernel⟩

end TrafficLight.TrackAdmission
