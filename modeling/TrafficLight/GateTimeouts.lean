import TrafficLight.GateMovement

namespace TrafficLight.GateTimeouts

open TrafficLight.Runs
open TrafficLight.Protocol
open TrafficLight.CrossingMachine
open TrafficLight.CrossingOutcomes
open TrafficLight.CrossingInvariant
open TrafficLight.Slots
open TrafficLight.RailSimulator
open TrafficLight.SimCommands
open TrafficLight.Decimal
open TrafficLight.SimPending
open TrafficLight.SimTimers
open TrafficLight.SimTrains
open TrafficLight.SimInvariant
open TrafficLight.TrainRows
open TrafficLight.GateMovement

/-- The faults of a gate that does not complete its movement. -/
def TimedOut (fault : CxFault) : Prop := fault = .gateCloseTimeout ∨ fault = .gateOpenTimeout

instance (fault : CxFault) : Decidable (TimedOut fault) := inferInstanceAs (Decidable (_ ∨ _))

/-- The crossing after a delivery. -/
def after (d : Delivered) : Crossing := (crossingHandleEvent d.before d.event).cx

/-- The deliveries since an earlier state. -/
def since (base sim : RailSim) : List Delivered := sim.delivered.drop base.delivered.length

/-- The delivery made the crossing command its gate. -/
def commandedBy (i : Fin 3) (d : Delivered) : Bool :=
  d.crossing = i && commandsGate (ops (crossingHandleEvent d.before d.event))

/-- The time of each crossing's latest gate command, after a step. -/
def latestCommand (sim sim' : RailSim) (latest : Fin 3 → Option Int) (i : Fin 3) : Option Int :=
  if (since sim sim').any (commandedBy i) then some sim'.simTimeMs else latest i

/-- The simulator with the times of the latest gate commands. -/
def gateWatch : RailSim × (Fin 3 → Option Int) → SimStep → RailSim × (Fin 3 → Option Int) :=
  watch simStep fun sim _ sim' latest => latestCommand sim sim' latest

/-- No gate has timed out, and a gate that moves was commanded less than its
travel time ago. -/
def MovesInTime (s : RailSim × (Fin 3 → Option Int)) : Prop :=
  (∀ i, ¬ TimedOut (s.1.crossings i).fault) ∧ (∀ d ∈ s.1.delivered, ¬ TimedOut (after d).fault) ∧
    ∀ i, Moves (s.1.crossings i) →
      ∃ commanded, s.2 i = some commanded ∧ s.1.simTimeMs < commanded + secToSimMs gateMoveSec

/-- A gate that a tick finds due reports in that tick, and its movement ends. -/
def CompletesInTime (s : RailSim × (Fin 3 → Option Int)) : SimStep → Prop
  | .tick => ∀ i commanded, Moves (s.1.crossings i) → s.2 i = some commanded →
      commanded + secToSimMs gateMoveSec ≤ (advance s.1).simTimeMs →
        ∃ event, Reports (s.1.crossings i) event ∧
          (⟨i, event, s.1.crossings i⟩ : Delivered) ∈ since s.1 (railSimTick s.1) ∧
          (crossingHandleEvent (s.1.crossings i) event).cx.gate ≠ (s.1.crossings i).gate
  | .command _ => True

theorem timedOut_timer {cx : Crossing} {id : TimerId} {gen : UInt32} (hcx : ¬ TimedOut cx.fault)
    (hid : ¬ IsGateTimeout id) : ¬ TimedOut (handleTimer ⟨cx, []⟩ id gen).cx.fault := by
  unfold handleTimer
  split
  · exact hcx
  · cases id with
    | gateCloseTimeout => exact absurd (.inl rfl) hid
    | gateOpenTimeout => exact absurd (.inr rfl) hid
    | trainTimeoutUp | trainTimeoutDown => simp [faulted, TimedOut]
    | gateCloseDelay =>
        simp only [startGateClose_cx]
        split <;> exact hcx

theorem timedOut_outcome {cx : Crossing} {event : CrossingEvent} (hcx : ¬ TimedOut cx.fault)
    (htimer : ∀ id gen, event = .timer id gen → ¬ IsGateTimeout id) :
    ¬ TimedOut (crossingHandleEvent cx event).cx.fault := by
  by_cases hevent : ∃ id gen, event = .timer id gen
  · obtain ⟨id, gen, rfl⟩ := hevent
    unfold crossingHandleEvent
    split
    · exact hcx
    · exact timedOut_timer hcx (htimer id gen rfl)
  · have hout := outcome cx event
    generalize ops (crossingHandleEvent cx event) = os at hout
    generalize (crossingHandleEvent cx event).cx = cx' at hout ⊢
    cases hout with
    | enterEarly | injected | reset => simp [TimedOut, faulted, resetStarted, Crossing.bumpTimer]
    | timerFault => exact absurd ⟨_, _, rfl⟩ hevent
    | _ => exact hcx

theorem moves_noFault {cx : Crossing} (hinv : CxInv cx) (h : Moves cx) : cx.fault = .none := by
  by_contra hfault
  have hgate := hinv.gate_fault.mpr hfault
  rcases h with h | h <;> rw [h] at hgate <;> cases hgate

theorem report_ends {cx : Crossing} (hinv : CxInv cx) {event : CrossingEvent}
    (h : Reports cx event) : (crossingHandleEvent cx event).cx.gate ≠ cx.gate := by
  have hfault : cx.fault = .none := moves_noFault hinv (h.imp And.right And.right)
  have hout := outcome cx event
  generalize ops (crossingHandleEvent cx event) = os at hout
  generalize (crossingHandleEvent cx event).cx = cx' at hout ⊢
  rcases h with ⟨rfl, hgate⟩ | ⟨rfl, hgate⟩ <;> cases hout <;>
    simp_all [closedGate, openedGate, openStarted, closeStarted]

/-- The invariant in a step that began in `base`. -/
structure GatesTimed (base : RailSim) (latest : Fin 3 → Option Int) (sim : RailSim) : Prop where
  inv : SimInv sim
  noTimeout : ∀ i, ¬ TimedOut (sim.crossings i).fault
  past : ∀ d ∈ sim.delivered, ¬ TimedOut (after d).fault
  due : ∀ i, MovementsDue (view sim i)
  grown : base.delivered.length ≤ sim.delivered.length
  commanded : ∀ i, Moves (sim.crossings i) → ∃ commanded,
    latestCommand base sim latest i = some commanded ∧
      sim.gates i = some (commanded + secToSimMs gateMoveSec)

section Handled

variable {base sim sim' : RailSim} {latest : Fin 3 → Option Int} {i : Fin 3}
  {event : CrossingEvent}

theorem latestCommand_handled (hgrown : base.delivered.length ≤ sim.delivered.length)
    (hclock : sim'.simTimeMs = sim.simTimeMs)
    (hdelivered : sim'.delivered = sim.delivered ++ [⟨i, event, sim.crossings i⟩]) (j : Fin 3) :
    latestCommand base sim' latest j =
      if commandedBy j ⟨i, event, sim.crossings i⟩ then some sim.simTimeMs
      else latestCommand base sim latest j := by
  have hsince : since base sim' = since base sim ++ [⟨i, event, sim.crossings i⟩] := by
    rw [since, hdelivered, List.drop_append_of_le_length hgrown]
    rfl
  rw [latestCommand, hsince, List.any_append, hclock, latestCommand]
  by_cases hlast : commandedBy j ⟨i, event, sim.crossings i⟩ <;> simp [hlast]

theorem GatesTimed.handled (h : GatesTimed base latest sim) (hinv : SimInv sim')
    (hclock : sim'.simTimeMs = sim.simTimeMs)
    (hdelivered : sim'.delivered = sim.delivered ++ [⟨i, event, sim.crossings i⟩])
    (hother : ∀ j ≠ i, view sim' j = view sim j)
    (hcx : sim'.crossings i = (crossingHandleEvent (sim.crossings i) event).cx)
    (hsafe : ¬ TimedOut (crossingHandleEvent (sim.crossings i) event).cx.fault)
    (hdue : MovementsDue (view sim' i))
    (hgate : Moves (sim'.crossings i) → sim'.gates i =
      if commandsGate (ops (crossingHandleEvent (sim.crossings i) event)) then
        some (sim.simTimeMs + secToSimMs gateMoveSec)
      else sim.gates i)
    (hkept : Moves (sim'.crossings i) →
      commandsGate (ops (crossingHandleEvent (sim.crossings i) event)) = false →
        Moves (sim.crossings i)) :
    GatesTimed base latest sim' := by
  have hcrossing : ∀ j ≠ i, sim'.crossings j = sim.crossings j :=
    fun j hj => congrArg CrossingView.cx (hother j hj)
  have hlatest := @latestCommand_handled base sim sim' latest i event h.grown hclock hdelivered
  constructor
  · exact hinv
  · intro j
    by_cases hj : j = i
    · rw [hj, hcx]
      exact hsafe
    · rw [hcrossing j hj]
      exact h.noTimeout j
  · rw [hdelivered]
    intro d hd
    rcases List.mem_append.mp hd with hold | hnew
    · exact h.past d hold
    · obtain rfl := List.mem_singleton.mp hnew
      exact hsafe
  · intro j
    by_cases hj : j = i
    · rw [hj]
      exact hdue
    · rw [hother j hj]
      exact h.due j
  · rw [hdelivered, List.length_append]
    exact h.grown.trans (Nat.le_add_right _ _)
  · intro j hmoves
    rw [hlatest]
    by_cases hj : j = i
    · subst hj
      rw [hgate hmoves]
      by_cases hcommand :
          commandsGate (ops (crossingHandleEvent (sim.crossings j) event)) = true
      · refine ⟨sim.simTimeMs, ?_, if_pos hcommand⟩
        simp [commandedBy, hcommand]
      · obtain ⟨commanded, hsome, hdue⟩ :=
          h.commanded j (hkept hmoves (Bool.not_eq_true _ ▸ hcommand))
        refine ⟨commanded, ?_, ?_⟩
        · simp [commandedBy, hcommand, hsome]
        · rw [if_neg hcommand, hdue]
    · rw [hcrossing j hj] at hmoves
      obtain ⟨commanded, hsome, hdue⟩ := h.commanded j hmoves
      have hgates : sim'.gates j = sim.gates j := congrArg CrossingView.gateDue (hother j hj)
      refine ⟨commanded, ?_, hgates.trans hdue⟩
      simp [commandedBy, Ne.symm hj, hsome]

theorem GatesTimed.afterHandle {m : Multiset SimEvent} (h : GatesTimed base latest sim)
    (hinv : SimInv sim') (hafter : AfterHandle sim sim' i event m)
    (hdelivered : sim'.delivered = sim.delivered ++ [⟨i, event, sim.crossings i⟩])
    (hother : ∀ j ≠ i, view sim' j = view sim j)
    (hsafe : ∀ id gen, event = .timer id gen → ¬ IsGateTimeout id) :
    GatesTimed base latest sim' := by
  have hv := hafter.own h.inv
  have hcx : sim'.crossings i = (crossingHandleEvent (sim.crossings i) event).cx := by
    rw [hafter.crossings, (handle_frame sim i event).1, Function.update_self]
  refine h.handled hinv hafter.simTimeMs hdelivered hother hcx ?_ ?_ ?_ ?_
  · exact timedOut_outcome (h.noTimeout i) hsafe
  · exact (h.due i).step (h.inv.crossings i) (idle_view h.inv i) hv
  · exact fun _ => hv.gateDue
  · intro hmoves hcommand
    rcases gate_outcome hv.out (h.inv.crossings i) with ⟨hsame, -⟩ | ⟨-, hcommanded⟩
    · rw [Moves] at hmoves
      rwa [show (sim'.crossings i).gate = (sim.crossings i).gate from hsame] at hmoves
    · rw [hcommanded.mpr hmoves] at hcommand
      cases hcommand

end Handled

theorem GatesTimed.visitGate {base sim : RailSim} {latest : Fin 3 → Option Int}
    (h : GatesTimed base latest sim) (i : Fin 3) :
    GatesTimed base latest (visitGate sim i) ∧ GateFresh (view (visitGate sim i) i) ∧
      (∀ j ≠ i, view (visitGate sim i) j = view sim j) ∧
      sim.delivered <+: (visitGate sim i).delivered ∧
      (Moves (sim.crossings i) → (∃ due, sim.gates i = some due ∧ due ≤ sim.simTimeMs) →
        ∃ event, Reports (sim.crossings i) event ∧
          (visitGate sim i).delivered = sim.delivered ++ [⟨i, event, sim.crossings i⟩]) := by
  rcases visitGate_cases sim i with ⟨hfresh, hvisit⟩ | ⟨hstill, hvisit⟩ | ⟨event, hreports, hvisit⟩
  · rw [hvisit]
    refine ⟨h, fun _ => hfresh, fun _ _ => rfl, List.prefix_rfl, ?_⟩
    rintro - ⟨due, hdue, hlate⟩
    exact absurd (hfresh due hdue) (not_lt.mpr hlate)
  · rw [hvisit]
    have hidle : ∀ id, IsGateTimeout id → ¬ Needed (sim.crossings i) id :=
      fun id hid hneeded => hstill (moves_iff.mpr ⟨id, hid, hneeded⟩)
    refine ⟨⟨h.inv.congr rfl rfl rfl, h.noTimeout, h.past, ?_, h.grown, ?_⟩, ?_,
      fun j hj => view_gateTaken_other hj, List.prefix_rfl, fun hmoves => absurd hmoves hstill⟩
    · intro j
      by_cases hj : j = i
      · rw [hj, view_gateTaken]
        exact fun id hid hneeded => absurd hneeded (hidle id hid)
      · rw [view_gateTaken_other hj]
        exact h.due j
    · intro j hmoves
      have hj : j ≠ i := by
        rintro rfl
        exact hstill hmoves
      obtain ⟨commanded, hsome, hdue⟩ := h.commanded j hmoves
      exact ⟨commanded, hsome, (Function.update_of_ne hj _ _).trans hdue⟩
    · exact fun hmoves => absurd hmoves hstill
  · rw [hvisit]
    have htaken : SimInv (gateTaken sim i) := h.inv.congr rfl rfl rfl
    have hnotimer : ∀ id gen, event ≠ .timer id gen := by
      rcases hreports.kind with rfl | rfl <;> simp
    obtain ⟨hcrossings, -, hclock, -, hdelivered⟩ := handle_frame (gateTaken sim i) i event
    have hcx := congrFun hcrossings i
    rw [Function.update_self] at hcx
    have hv := @gateReport_own sim i event h.inv
    have hends : (view (handle (gateTaken sim i) i event) i).cx.gate ≠ (view sim i).cx.gate := by
      rw [show (view (handle (gateTaken sim i) i event) i).cx = _ from hcx]
      exact report_ends (h.inv.crossings i) hreports
    have hinv := h.inv.crossings i
    refine ⟨?_, gateReport_fresh h.inv, fun j hj => gateReport_other h.inv hj, ?_, ?_⟩
    · refine h.handled (htaken.handle i hnotimer) hclock hdelivered
        (fun j hj => gateReport_other h.inv hj) hcx ?_ ?_ ?_ ?_
      · exact timedOut_outcome (h.noTimeout i) fun id gen htimer => absurd htimer (hnotimer id gen)
      · exact (h.due i).report hinv (idle_view h.inv i) hv hends
      · intro hmoves
        have hcommand := report_commands hinv hv hends hmoves
        have hgate := hv.gateDue
        rw [if_pos hcommand] at hgate ⊢
        exact hgate
      · intro hmoves hcommand
        rw [report_commands hinv hv hends hmoves] at hcommand
        cases hcommand
    · rw [hdelivered]
      exact List.prefix_append _ _
    · exact fun _ _ => ⟨event, hreports, hdelivered⟩

theorem GatesTimed.gates {base sim : RailSim} {latest : Fin 3 → Option Int}
    (h : GatesTimed base latest sim) :
    GatesTimed base latest (sweep RailSimulator.visitGate sim) ∧
      (∀ i, GateFresh (view (sweep RailSimulator.visitGate sim) i)) ∧
      ∀ i, Moves (sim.crossings i) → (∃ due, sim.gates i = some due ∧ due ≤ sim.simTimeMs) →
        ∃ event, Reports (sim.crossings i) event ∧ (⟨i, event, sim.crossings i⟩ : Delivered) ∈
          (sweep RailSimulator.visitGate sim).delivered.drop sim.delivered.length := by
  have hall := @sweep_upto 3 RailSim RailSimulator.visitGate
    (fun k s => GatesTimed base latest s ∧ sim.delivered <+: s.delivered ∧
      (∀ i : Fin 3, k ≤ i.val → view s i = view sim i) ∧
      ∀ i : Fin 3, i.val < k → GateFresh (view s i) ∧
        (Moves (sim.crossings i) → (∃ due, sim.gates i = some due ∧ due ≤ sim.simTimeMs) →
          ∃ event, Reports (sim.crossings i) event ∧ (⟨i, event, sim.crossings i⟩ : Delivered) ∈
            s.delivered.drop sim.delivered.length))
    ?_ sim ⟨h, List.prefix_rfl, fun _ _ => rfl, fun _ hi => absurd hi (Nat.not_lt_zero _)⟩
  · exact ⟨hall.1, fun i => (hall.2.2.2 i i.isLt).1, fun i => (hall.2.2.2 i i.isLt).2⟩
  · rintro s i ⟨htimed, hprefix, hahead, hbehind⟩
    obtain ⟨hvisited, hfresh, hother, hgrown, hreport⟩ := htimed.visitGate i
    have hhere := hahead i le_rfl
    refine ⟨hvisited, hprefix.trans hgrown, ?_, ?_⟩
    · intro j hj
      have hne : j ≠ i := by
        rintro rfl
        omega
      rw [hother j hne]
      exact hahead j (by omega)
    · intro j hj
      by_cases hji : j = i
      · subst hji
        refine ⟨hfresh, ?_⟩
        intro hmoves hdue
        have hcx : s.crossings j = sim.crossings j := congrArg CrossingView.cx hhere
        have hgate : s.gates j = sim.gates j := congrArg CrossingView.gateDue hhere
        have hnow : s.simTimeMs = sim.simTimeMs := congrArg CrossingView.now hhere
        rw [hcx, hgate, hnow] at hreport
        obtain ⟨event, hevent, hdelivered⟩ := hreport hmoves hdue
        refine ⟨event, hevent, ?_⟩
        rw [hdelivered, List.drop_append_of_le_length hprefix.length_le]
        exact List.mem_append_right _ (List.mem_singleton_self _)
      · have hlt : j.val < i.val := by
          have := Fin.val_ne_of_ne hji
          omega
        obtain ⟨hold, hreported⟩ := hbehind j hlt
        refine ⟨?_, ?_⟩
        · rw [hother j hji]
          exact hold
        · intro hmoves hdue
          obtain ⟨event, hevent, hmem⟩ := hreported hmoves hdue
          exact ⟨event, hevent, (hgrown.drop _).subset hmem⟩

section Slot

variable {base sim : RailSim} {latest : Fin 3 → Option Int} {k : Fin maxPendingEvents}

theorem GatesTimed.timer_late {ev : SimEvent} (h : GatesTimed base latest sim)
    (hfresh : ∀ i, GateFresh (view sim i)) (hk : sim.events k = some ev)
    (hdue : ev.deliverAtMs ≤ sim.simTimeMs) {id : TimerId} {gen : UInt32}
    (hevent : ev.event = .timer id gen) : ¬ IsGateTimeout id := by
  intro hid
  have hev : ev ∈ pending sim := mem_bag.mpr ⟨k, hk⟩
  obtain ⟨-, hneeded, -⟩ := h.inv.timer_current hev hevent
  obtain ⟨due, hgateDue, htimers⟩ := h.due ev.crossing id hid hneeded
  have hlate := htimers ev (Multiset.mem_filter.mpr ⟨hev, by simp [timerOf, hevent]⟩)
  have hfuture : sim.simTimeMs < due :=
    hfresh ev.crossing (moves_iff.mpr ⟨id, hid, hneeded⟩) due hgateDue
  omega

theorem GatesTimed.visitSlot (h : GatesTimed base latest sim)
    (hfresh : ∀ i, GateFresh (view sim i)) :
    GatesTimed base latest (visitSlot sim k) ∧ (∀ i, GateFresh (view (visitSlot sim k) i)) ∧
      sim.delivered <+: (visitSlot sim k).delivered := by
  rcases visitSlot_cases sim k with ⟨-, hvisit⟩ | ⟨ev, hk, hdue, hvisit⟩
  · rw [hvisit]
    exact ⟨h, hfresh, List.prefix_rfl⟩
  · rw [hvisit]
    obtain ⟨rest, -, hafter⟩ := afterHandle_slot h.inv hk
    have hdelivered : (afterSlot sim k ev).delivered =
        sim.delivered ++ [⟨ev.crossing, ev.event, sim.crossings ev.crossing⟩] :=
      (handle_frame sim ev.crossing ev.event).2.2.2.2
    have hother : ∀ j ≠ ev.crossing, view (afterSlot sim k ev) j = view sim j :=
      fun j hj => afterSlot_other h.inv hk hj
    refine ⟨?_, ?_, ?_⟩
    · exact h.afterHandle (simInv_afterSlot h.inv hk hdue) hafter hdelivered hother
        fun id gen hevent => h.timer_late hfresh hk hdue hevent
    · intro i
      by_cases hi : i = ev.crossing
      · rw [hi]
        exact (hfresh _).step (h.inv.crossings _) (hafter.own h.inv)
      · rw [hother i hi]
        exact hfresh i
    · rw [hdelivered]
      exact List.prefix_append _ _

end Slot

theorem GatesTimed.slots {base sim : RailSim} {latest : Fin 3 → Option Int}
    (h : GatesTimed base latest sim) (hfresh : ∀ i, GateFresh (view sim i)) :
    GatesTimed base latest (sweep RailSimulator.visitSlot sim) ∧
      (∀ i, GateFresh (view (sweep RailSimulator.visitSlot sim) i)) ∧
      sim.delivered <+: (sweep RailSimulator.visitSlot sim).delivered := by
  apply sweep_invariant (I := fun s => GatesTimed base latest s ∧
    (∀ i, GateFresh (view s i)) ∧ sim.delivered <+: s.delivered)
  · rintro s k ⟨htimed, hs, hprefix⟩
    obtain ⟨hvisited, hfresh', hgrown⟩ := htimed.visitSlot hs
    exact ⟨hvisited, hfresh', hprefix.trans hgrown⟩
  · exact ⟨h, hfresh, List.prefix_rfl⟩

/-- The invariant between steps. -/
def InTime (sim : RailSim) (latest : Fin 3 → Option Int) : Prop :=
  GatesTimed sim latest sim ∧ ∀ i, GateFresh (view sim i)

theorem latestCommand_self (sim : RailSim) (latest : Fin 3 → Option Int) :
    latestCommand sim sim latest = latest := by
  funext i
  simp [latestCommand, since]

theorem GatesTimed.done {base sim : RailSim} {latest : Fin 3 → Option Int}
    (h : GatesTimed base latest sim) (hfresh : ∀ i, GateFresh (view sim i)) :
    InTime sim (latestCommand base sim latest) := by
  refine ⟨⟨h.inv, h.noTimeout, h.past, h.due, le_rfl, ?_⟩, hfresh⟩
  rw [latestCommand_self]
  exact h.commanded

theorem InTime.movesInTime {sim : RailSim} {latest : Fin 3 → Option Int} (h : InTime sim latest) :
    MovesInTime (sim, latest) := by
  refine ⟨h.1.noTimeout, h.1.past, ?_⟩
  intro i hmoves
  obtain ⟨commanded, hsome, hdue⟩ := h.1.commanded i hmoves
  rw [latestCommand_self] at hsome
  exact ⟨commanded, hsome, h.2 i hmoves _ hdue⟩

theorem InTime.advance {sim : RailSim} {latest : Fin 3 → Option Int} (h : InTime sim latest) :
    GatesTimed sim latest (advance sim) := by
  refine ⟨h.1.inv.congr rfl rfl rfl, h.1.noTimeout, h.1.past, h.1.due, le_rfl, ?_⟩
  intro i hmoves
  obtain ⟨commanded, hsome, hdue⟩ := h.1.commanded i hmoves
  rw [latestCommand_self] at hsome
  refine ⟨commanded, ?_, hdue⟩
  have hnone : since sim (RailSimulator.advance sim) = [] := List.drop_length
  rw [latestCommand, hnone]
  exact hsome

theorem InTime.tick {sim : RailSim} {latest : Fin 3 → Option Int} (h : InTime sim latest) :
    InTime (railSimTick sim) (latestCommand sim (railSimTick sim) latest) ∧
      CompletesInTime (sim, latest) .tick := by
  obtain ⟨hgates, hfresh, hreports⟩ := h.advance.gates
  obtain ⟨hslots, hfresh', hgrown⟩ := hgates.slots hfresh
  refine ⟨hslots.done hfresh', ?_⟩
  intro i commanded hmoves hlatest hdue
  obtain ⟨commanded', hsome, hgate⟩ := h.1.commanded i hmoves
  rw [latestCommand_self] at hsome
  have hsame : commanded = commanded' := Option.some.inj (hlatest.symm.trans hsome)
  rw [← hsame] at hgate
  obtain ⟨event, hevent, hmem⟩ := hreports i hmoves ⟨_, hgate, hdue⟩
  exact ⟨event, hevent, (hgrown.drop _).subset hmem, report_ends (h.1.inv.crossings i) hevent⟩

theorem InTime.frame {sim sim' : RailSim} {latest : Fin 3 → Option Int} (h : InTime sim latest)
    (hinv : SimInv sim') (hdelivered : sim'.delivered = sim.delivered)
    (hcx : sim'.crossings = sim.crossings) (hgates : sim'.gates = sim.gates)
    (hnow : sim'.simTimeMs = sim.simTimeMs)
    (htimers : ∀ i id, timersOf i id (pending sim') = timersOf i id (pending sim)) :
    InTime sim' (latestCommand sim sim' latest) := by
  have hsince : since sim sim' = [] := by
    rw [since, hdelivered]
    exact List.drop_length
  have hlatest : latestCommand sim sim' latest = latest := by
    funext i
    rw [latestCommand, hsince]
    rfl
  rw [hlatest]
  refine ⟨⟨hinv, ?_, ?_, ?_, le_rfl, ?_⟩, ?_⟩
  · rw [hcx]
    exact h.1.noTimeout
  · rw [hdelivered]
    exact h.1.past
  · intro i id hid hneeded
    change Needed (sim'.crossings i) id at hneeded
    rw [hcx] at hneeded
    obtain ⟨due, hdue, hevents⟩ := h.1.due i id hid hneeded
    refine ⟨due, ?_, ?_⟩
    · change sim'.gates i = some due
      rw [hgates]
      exact hdue
    · rw [view_timers, htimers]
      exact hevents
  · intro i hmoves
    rw [hcx] at hmoves
    rw [latestCommand_self, hgates]
    simpa only [latestCommand_self] using h.1.commanded i hmoves
  · intro i hmoves due hdue
    change Moves (sim'.crossings i) at hmoves
    change sim'.gates i = some due at hdue
    change sim'.simTimeMs < due
    rw [hcx] at hmoves
    rw [hgates] at hdue
    rw [hnow]
    exact h.2 i hmoves due hdue

theorem InTime.command {sim sim' : RailSim} {request : SimRequest} {ok : Bool}
    {latest : Fin 3 → Option Int} (h : InTime sim latest)
    (heffect : CommandEffect sim request sim' ok) :
    InTime sim' (latestCommand sim sim' latest) := by
  cases heffect with
  | unchanged =>
      rw [latestCommand_self]
      exact h
  | @event i event hrequest =>
      have hnotimer : ∀ id gen, event ≠ .timer id gen := by
        rcases (requestEvent_cases hrequest).1 with rfl | rfl <;> simp
      have hframe := handle_frame sim i event
      have hafter : AfterHandle sim (handle sim i event) i event (pending sim) :=
        ⟨rfl, rfl, hframe.2.2.1, (handle_pending (h.1.inv.room_outcome i event)).2, le_rfl⟩
      have hother : ∀ j ≠ i, view (handle sim i event) j = view sim j := by
        intro j hj
        apply hafter.other h.1.inv hj
        · funext dir
          exact handle_row sim i j event dir
        · exact fun _ => rfl
      apply GatesTimed.done
      · exact h.1.afterHandle (h.1.inv.handle i hnotimer) hafter hframe.2.2.2.2 hother
          fun id gen htimer => absurd htimer (hnotimer id gen)
      · intro j
        by_cases hj : j = i
        · rw [hj]
          exact (h.2 i).step (h.1.inv.crossings i) (hafter.own h.1.inv)
        · rw [hother j hj]
          exact h.2 j
  | scale => exact h.frame (h.1.inv.congr rfl rfl rfl) rfl rfl rfl rfl fun _ _ => rfl
  | trains _ hroom =>
      have hclock := sameClock_queueAll (requestPlan sim request) sim
      exact h.frame (h.1.inv.queueAll hroom) hclock.delivered hclock.crossings
        (queueAll_gates _ _) hclock.simTimeMs (timersOf_queueAll hroom)

theorem inTime_start {sim : RailSim} (h : SimStart sim) : InTime sim fun _ => none := by
  have hinv := siminv_start h
  obtain ⟨names, locals, timeScale, layout, rfl⟩ := h
  have hstill : ∀ i, ¬ Moves ((railSimInit (fun i => crossingInit (UInt8.ofNat (i + 1)) (names i)
      (locals i).1 (locals i).2) timeScale layout).crossings i) := by
    rintro i (hgate | hgate) <;> cases hgate
  refine ⟨⟨hinv, ?_, ?_, ?_, le_rfl, fun i hmoves => absurd hmoves (hstill i)⟩,
    fun i hmoves => absurd hmoves (hstill i)⟩
  · rintro i (hfault | hfault) <;> cases hfault
  · exact fun d hd => absurd hd List.not_mem_nil
  · exact fun i id hid hneeded => absurd (moves_iff.mpr ⟨id, hid, hneeded⟩) (hstill i)

theorem InTime.step {s : RailSim × (Fin 3 → Option Int)} (h : InTime s.1 s.2) (step : SimStep) :
    InTime (gateWatch s step).1 (gateWatch s step).2 ∧ CompletesInTime s step := by
  cases step with
  | tick => exact h.tick
  | command cmd => exact ⟨h.command (commandEffect s.1 (requestOf cmd)), trivial⟩

/-- In every run no gate times out, a gate that moves was commanded less than
its travel time ago, and a movement ends in the first tick that finds it due. -/
theorem gates_never_time_out {sim : RailSim} (hstart : SimStart sim) (steps : List SimStep) :
    Throughout gateWatch MovesInTime (sim, fun _ => none) steps ∧
      Along gateWatch CompletesInTime (sim, fun _ => none) steps := by
  constructor
  · apply throughout_of_invariant (J := fun s => InTime s.1 s.2)
    · exact fun s step h => (h.step step).1
    · exact fun s h => h.movesInTime
    · exact inTime_start hstart
  · have hany : Along gateWatch (fun _ _ => True) (sim, fun _ => none) steps :=
      (along_forall gateWatch (fun _ => True) _ steps).mpr fun _ _ => trivial
    apply Along.of_invariant (I := fun s => InTime s.1 s.2) _ _ (inTime_start hstart) hany
    · exact fun s step h _ => (h.step step).1
    · exact fun s step h _ => (h.step step).2

/-- A fault while the gate of P1 closes, a reset at once, and one long tick. -/
theorem gates_never_time_out_reset :
    Throughout gateWatch MovesInTime (trainControllerStart, fun _ => none)
      ([.command (ascii ['n', 'o', 'e', 'x', 'i', 't', ' ', 'P', '1', ' ', 'u', 'p']),
          .command (ascii ['s', 'c', 'a', 'l', 'e', ' ', '1', '0'])] ++
        List.replicate 7 .tick ++
        [.command (ascii ['p', '1', '-', 'f', 'a', 'u', 'l', 't']),
          .command (ascii ['r', 'e', 's', 'e', 't', ' ', 'P', '1']),
          .command (ascii ['s', 'c', 'a', 'l', 'e', ' ', '1', '0', '0']), .tick]) :=
  (gates_never_time_out simStart_trainController _).1

end TrafficLight.GateTimeouts
