import TrafficLight.FreeRun
import TrafficLight.LocalProfile
import TrafficLight.SignalFrame

namespace TrafficLight.SensorIndependence

open TrafficLight.Runs
open TrafficLight.Protocol
open TrafficLight.LocalData
open TrafficLight.LocalTraffic
open TrafficLight.LocalMessages
open TrafficLight.LocalCore
open TrafficLight.SignalMachine
open TrafficLight.SignalView
open TrafficLight.SignalRefinement
open TrafficLight.SignalInvariant
open TrafficLight.SignalChanges
open TrafficLight.LocalSafety
open TrafficLight.LocalCommands
open TrafficLight.LocalProfile
open TrafficLight.SignalFrame
open TrafficLight.GreenPlan
open TrafficLight.GreenTransfer
open TrafficLight.FreeRun

variable {s t : LocalState} {σ : Signal}

/-- What the road users see and what is stored about it. -/
structure Outputs where
  phase : Phase
  phaseDuration : Int
  timeRemaining : Int
  nsLight : LightState
  ewLight : LightState
  pedNsWalk : Bool
  pedEwWalk : Bool
  pedNsRequest : Bool
  pedEwRequest : Bool
  pedExtraNsGreen : Int
  pedExtraEwGreen : Int
  trainPending : Bool
  trainActive : Bool
  trainDirection : Int
  trainPassRemaining : Int
  trainWaitingForClear : Bool
  trainRecoveryRemaining : Int

def outputsOf (s : LocalState) : Outputs where
  phase := s.phase
  phaseDuration := s.phaseDuration
  timeRemaining := s.timeRemaining
  nsLight := s.nsLight
  ewLight := s.ewLight
  pedNsWalk := s.pedNsWalk
  pedEwWalk := s.pedEwWalk
  pedNsRequest := s.pedNsRequest
  pedEwRequest := s.pedEwRequest
  pedExtraNsGreen := s.pedExtraNsGreen
  pedExtraEwGreen := s.pedExtraEwGreen
  trainPending := s.trainPending
  trainActive := s.trainActive
  trainDirection := s.trainDirection
  trainPassRemaining := s.trainPassRemaining
  trainWaitingForClear := s.trainWaitingForClear
  trainRecoveryRemaining := s.trainRecoveryRemaining

/-- A sensor update or a change of the mode, by message, by key or by the simulated
traffic. -/
def sensorOrMode : LocalOp → Bool
  | .frame msg _ => handlerOf msg = some .sensor ∨ handlerOf msg = some .mode
  | .input command _ => command ∈ [['m'], ['x'], ['z']]
  | .vehicleCounts _ | .temporaryMode => true
  | _ => false

/-- A pedestrian request, a train, its CLEAR or a coordination command. -/
def sharedRequest : LocalOp → Bool
  | .frame msg _ => handlerOf msg ∈ [some .ped, some .railway, some .coordination]
  | .input command _ => command ∈ [['n'], ['e'], ['1'], ['2'], ['c']]
  | _ => false

/-- One thing that happens to both runs, or to one of them. -/
inductive TwinOp
  | tick (left right : Draws)
  | request (op : LocalOp)
  | left (op : LocalOp)
  | right (op : LocalOp)

def twinStep (p : LocalState × LocalState) : TwinOp → LocalState × LocalState
  | .tick left right => (localStep p.1 (.trafficTick left), localStep p.2 (.trafficTick right))
  | .request op => (localStep p.1 op, localStep p.2 op)
  | .left op => (localStep p.1 op, p.2)
  | .right op => (p.1, localStep p.2 op)

/-- The runs differ in sensors and modes only. -/
def permitted : TwinOp → Bool
  | .tick _ _ => true
  | .request op => sharedRequest op
  | .left op | .right op => sensorOrMode op

/-- A step of the running pair: it does not start the Green of the initial phase. -/
def WithinPair (p : LocalState × LocalState) (op : TwinOp) : Prop :=
  permitted op = true ∧
    ¬ (p.1.phase ≠ p.1.initialPhase ∧ (twinStep p op).1.phase = (twinStep p op).1.initialPhase)

instance (p : LocalState × LocalState) (op : TwinOp) : Decidable (WithinPair p op) :=
  inferInstanceAs (Decidable (_ ∧ _))

theorem outputs_of_signals (hsignals : signalOf s = signalOf t)
    (hdirection : s.trainDirection = t.trainDirection) : outputsOf s = outputsOf t := by
  have hphase : s.phase = t.phase := stageOf_injective (congrArg Signal.stage hsignals)
  have hns := congrArg (fun σ : Signal => (σ.light .ns, σ.walk .ns, σ.request .ns, σ.extra .ns))
    hsignals
  have hew := congrArg (fun σ : Signal => (σ.light .ew, σ.walk .ew, σ.request .ew, σ.extra .ew))
    hsignals
  simp only [Prod.mk.injEq] at hns hew
  obtain ⟨hnsLight, hnsWalk, hnsRequest, hnsExtra⟩ := hns
  obtain ⟨hewLight, hewWalk, hewRequest, hewExtra⟩ := hew
  unfold outputsOf
  rw [Outputs.mk.injEq]
  exact ⟨hphase, congrArg Signal.duration hsignals,
    congrArg Signal.remaining hsignals, hnsLight, hewLight, hnsWalk, hewWalk, hnsRequest,
    hewRequest, hnsExtra, hewExtra, congrArg Signal.pending hsignals,
    congrArg Signal.active hsignals, hdirection, congrArg Signal.pass hsignals,
    congrArg Signal.waiting hsignals, congrArg Signal.recovery hsignals⟩

theorem startGreen_agree (hplanned : σ.planned = true) {d : Direction} (hne : d ≠ σ.initial)
    (nsGreen nsGreen' : Int) : σ.startGreen nsGreen d = σ.startGreen nsGreen' d := by
  have hplan : ∀ nsGreen, σ.planFor nsGreen d = σ := by
    intro nsGreen
    unfold Signal.planFor
    rw [if_neg (by simp [hplanned, hne])]
  unfold Signal.startGreen
  rw [hplan, hplan]

theorem elapse_planned (σ : Signal) : (elapse σ).planned = σ.planned := by
  unfold elapse Signal.serveWalk
  split <;> rfl

theorem tick_agree (hsafe : SignalSafe σ) (hplanned : σ.planned = true) {nsGreen : Int}
    (hwithin : ¬ (σ.stage ≠ .green σ.initial ∧ (σ.tick nsGreen).stage = .green σ.initial))
    (nsGreen' : Int) : σ.tick nsGreen = σ.tick nsGreen' := by
  unfold Signal.tick at hwithin ⊢
  split_ifs at hwithin ⊢ with hpending hactive hrecovery
  · rfl
  · rfl
  · have hhold := hsafe.hold.mpr (.inr hrecovery)
    unfold Signal.recoveryTick at hwithin ⊢
    dsimp only at hwithin ⊢
    split_ifs at hwithin ⊢
    · refine absurd ⟨?_, ?_⟩ hwithin
      · rw [hhold]
        exact nofun
      · rw [(started_startGreen ..).stage, showLights_initial]
    · rfl
  · have hinactive : σ.active = false := by simpa using hactive
    obtain ⟨hstage, -, -, -, -, hinitial, -, -, -, hcoordination⟩ := elapse_frame σ
    rw [runTick_eq hsafe hinactive hrecovery] at hwithin ⊢
    rw [runTick_eq hsafe hinactive hrecovery]
    split_ifs at hwithin ⊢
    · unfold Signal.advance at hwithin ⊢
      rw [hstage, hcoordination] at hwithin ⊢
      cases hs : σ.stage with
      | hold => exact absurd hs (hsafe.running hinactive hrecovery)
      | green d => rfl
      | yellow d =>
          cases hc : σ.coordination with
          | some point => rfl
          | none =>
              rw [hs, hc] at hwithin
              refine startGreen_agree ((elapse_planned σ).trans hplanned) (fun heq => ?_) _ _
              refine hwithin ⟨nofun, ?_⟩
              dsimp only
              rw [(started_startGreen ..).stage, heq, hinitial]
    · rfl

/-- The simulated train has passed with this tick. -/
def passes (σ : Signal) : Bool :=
  σ.pending = false ∧ σ.active ∧ σ.waiting = false ∧ σ.pass ≤ 1

theorem direction_trafficTick (h : LocalSafe s) (draws : Draws) :
    (trafficTickLocked s draws).trainDirection =
      if passes (signalOf s) = true then 0 else s.trainDirection := by
  have hpasses : passes (signalOf s) = true ↔ s.trainPending = false ∧ s.trainActive = true ∧
      s.trainWaitingForClear = false ∧ s.trainPassRemaining ≤ 1 := decide_eq_true_iff
  rw [(frame_trafficTick s draws h.lights).direction]
  simp only [hpasses, ne_eq, h.settings.mode, not_false_eq_true, true_and]

theorem targetMatches_congr (hid : s.intersectionId = t.intersectionId) (target : UInt8) :
    targetMatchesLocal s target = targetMatchesLocal t target := by
  unfold targetMatchesLocal
  rw [hid]

theorem railwayMatches_congr (hid : s.intersectionId = t.intersectionId) (id : UInt8) :
    railwayMatchesLocal s id = railwayMatchesLocal t id := by
  unfold railwayMatchesLocal
  rw [hid]

theorem signalOp_request {op : LocalOp} (hop : sharedRequest op = true)
    (hid : s.intersectionId = t.intersectionId) (hs : Settings s) (ht : Settings t) :
    signalOp s op = signalOp t op := by
  cases op with
  | frame msg draws =>
      have hvalid : ∀ command, coordinationCommandValid s msg command =
          coordinationCommandValid t msg command := by
        intro command
        unfold coordinationCommandValid localFixedCycleSecondsLocked
        simp only [targetMatches_congr hid, configuredGreen_eq hs, configuredGreen_eq ht]
      show frameSignalOp s msg = frameSignalOp t msg
      unfold frameSignalOp railwaySignalOp coordinationSignalOp pedSignalOp
      simp only [targetMatches_congr hid, railwayMatches_congr hid, hvalid]
  | input command draws => rfl
  | _ => cases hop

theorem direction_pedRequest (s : LocalState) (msg : TestMessage) (reply : Reply) :
    (handlePedRequest s msg reply).1.trainDirection = s.trainDirection := by
  unfold handlePedRequest
  dsimp only
  split
  · exact (frame_addPedestrianRequest s _).direction
  · rfl

theorem direction_coordination (s : LocalState) (msg : TestMessage) (reply : Reply) :
    (handleCoordinationCommand s msg reply).1.trainDirection = s.trainDirection := by
  unfold handleCoordinationCommand
  dsimp only
  split
  · rfl
  · rfl

theorem direction_railway (s : LocalState) (msg : TestMessage) (reply : Reply) :
    (handleRailwayMessage s msg reply).1.trainDirection =
      match railwaySignalOp s msg with
      | .preempt _ => railwayDisplayLine (RailwayMsg.ofData msg.data).intersectionId
      | .clear => if s.trainActive ∨ s.trainPending then 0 else s.trainDirection
      | _ => s.trainDirection := by
  unfold handleRailwayMessage railwaySignalOp
  dsimp only
  generalize RailwayMsg.ofData msg.data = railway
  by_cases hroute : msg.header.src = controllerTrain ∧
      railwayMatchesLocal s railway.intersectionId
  · rw [if_pos hroute, if_pos hroute]
    by_cases hpreempt : msg.header.type = msgRailwayPreempt ∧ railway.active ≠ 0
    · rw [if_pos hpreempt, if_pos hpreempt]
      exact (frame_startTrainMessage s _ _).direction
    · rw [if_neg hpreempt, if_neg hpreempt]
      by_cases hclear : msg.header.type = msgTrainClear
      · rw [if_pos hclear, if_pos hclear]
        exact (frame_clearTrain s).direction
      · rw [if_neg hclear, if_neg hclear]
  · rw [if_neg hroute, if_neg hroute]

theorem direction_request {op : LocalOp} (hop : sharedRequest op = true)
    (hid : s.intersectionId = t.intersectionId) (hsignals : signalOf s = signalOf t)
    (hdirection : s.trainDirection = t.trainDirection) :
    (localStep s op).trainDirection = (localStep t op).trainDirection := by
  have hactive : s.trainActive = t.trainActive := congrArg Signal.active hsignals
  have hpending : s.trainPending = t.trainPending := congrArg Signal.pending hsignals
  cases op with
  | frame msg draws =>
      have hhandlers : handlerOf msg ∈ [some .ped, some .railway, some .coordination] :=
        of_decide_eq_true hop
      simp only [List.mem_cons, List.not_mem_nil, or_false] at hhandlers
      show (localDispatchMessage s msg draws).1.trainDirection =
        (localDispatchMessage t msg draws).1.trainDirection
      rw [dispatch_eq, dispatch_eq]
      obtain hhandler | hhandler | hhandler := hhandlers
      · rw [hhandler]
        exact (direction_pedRequest s msg _).trans
          (hdirection.trans (direction_pedRequest t msg _).symm)
      · rw [hhandler]
        refine (direction_railway s msg _).trans (Eq.trans ?_ (direction_railway t msg _).symm)
        have hsame : railwaySignalOp s msg = railwaySignalOp t msg := by
          unfold railwaySignalOp
          simp only [railwayMatches_congr hid]
        rw [hsame, hactive, hpending, hdirection]
      · rw [hhandler]
        exact (direction_coordination s msg _).trans
          (hdirection.trans (direction_coordination t msg _).symm)
  | input command draws =>
      have hkeys : command ∈ [['n'], ['e'], ['1'], ['2'], ['c']] := of_decide_eq_true hop
      simp only [List.mem_cons, List.not_mem_nil, or_false] at hkeys
      have htrain : ∀ direction, (startTrainLocked s direction).trainDirection =
          (startTrainLocked t direction).trainDirection := by
        intro direction
        unfold startTrainLocked
        rw [(frame_startTrainCommon s ..).direction, (frame_startTrainCommon t ..).direction,
          hactive, hpending, hdirection]
      obtain rfl | rfl | rfl | rfl | rfl := hkeys
      · exact (frame_addPedestrianRequest s .ns).direction.trans
          (hdirection.trans (frame_addPedestrianRequest t .ns).direction.symm)
      · exact (frame_addPedestrianRequest s .ew).direction.trans
          (hdirection.trans (frame_addPedestrianRequest t .ew).direction.symm)
      · exact htrain 1
      · exact htrain 2
      · show (clearTrainLocked s).trainDirection = (clearTrainLocked t).trainDirection
        rw [(frame_clearTrain s).direction, (frame_clearTrain t).direction, hactive, hpending,
          hdirection]
  | _ => cases hop

theorem signalOp_private {op : LocalOp} (hop : sensorOrMode op = true) :
    signalOp s op = .idle := by
  cases op with
  | vehicleCounts | temporaryMode => rfl
  | frame msg draws =>
      show frameSignalOp s msg = .idle
      unfold frameSignalOp
      obtain hhandler | hhandler : handlerOf msg = some .sensor ∨ handlerOf msg = some .mode :=
        of_decide_eq_true hop
      · rw [hhandler]
      · rw [hhandler]
  | input command draws =>
      have hkeys : command ∈ [['m'], ['x'], ['z']] := of_decide_eq_true hop
      simp only [List.mem_cons, List.not_mem_nil, or_false] at hkeys
      obtain rfl | rfl | rfl := hkeys <;> rfl
  | _ => cases hop

theorem direction_modeCommand (s : LocalState) (msg : TestMessage) (reply : Reply) :
    (handleModeCommand s msg reply).1.trainDirection = s.trainDirection := by
  have haction : ∀ command s', modeActionLocked s command = some s' →
      s'.trainDirection = s.trainDirection := by
    intro command s' h
    unfold modeActionLocked at h
    dsimp only at h
    split_ifs at h
    all_goals
      obtain rfl := Option.some.inj h
      rfl
  unfold handleModeCommand
  dsimp only
  split
  · cases haccepted : modeActionLocked s (ModeCmdMsg.ofData msg.data) with
    | none => rfl
    | some s' => exact haction _ s' haccepted
  · rfl

theorem direction_vehicleCounts (s : LocalState) (draws : Draws) :
    (updateVehicleCountsLocked s draws).trainDirection = s.trainDirection := by
  obtain ⟨ns, ew, next, hcars⟩ := carsOnly_updateVehicleCounts s draws
  rw [hcars]

theorem direction_private {op : LocalOp} (hop : sensorOrMode op = true) :
    (localStep s op).trainDirection = s.trainDirection := by
  cases op with
  | vehicleCounts draws => exact direction_vehicleCounts s draws
  | temporaryMode =>
      show (updateTemporaryModeLocked s).trainDirection = _
      unfold updateTemporaryModeLocked applyTimeSettingsLocked
      dsimp only
      split_ifs <;> rfl
  | frame msg draws =>
      show (localDispatchMessage s msg draws).1.trainDirection = s.trainDirection
      rw [dispatch_eq]
      obtain hhandler | hhandler : handlerOf msg = some .sensor ∨ handlerOf msg = some .mode :=
        of_decide_eq_true hop
      · rw [hhandler]
        show (handleSensorUpdate s msg _).1.trainDirection = _
        unfold handleSensorUpdate
        dsimp only
        split_ifs <;> rfl
      · rw [hhandler]
        exact direction_modeCommand s msg _
  | input command draws =>
      have hkeys : command ∈ [['m'], ['x'], ['z']] := of_decide_eq_true hop
      simp only [List.mem_cons, List.not_mem_nil, or_false] at hkeys
      obtain rfl | rfl | rfl := hkeys <;> rfl
  | _ => cases hop

/-- Two states that differ in their sensors and modes only. -/
structure Twins (p : LocalState × LocalState) : Prop where
  left : LocalSafe p.1
  right : LocalSafe p.2
  plan : PlanSafe (signalOf p.1)
  signals : signalOf p.1 = signalOf p.2
  direction : p.1.trainDirection = p.2.trainDirection
  id : p.1.intersectionId = p.2.intersectionId

theorem Twins.tick {s t : LocalState} (h : Twins (s, t)) {left right : Draws}
    (hwithin : WithinPair (s, t) (.tick left right)) :
    Twins (twinStep (s, t) (.tick left right)) := by
  have hstepped := h.left.step (.trafficTick left)
  have hsignal : signalOf (localStep s (.trafficTick left)) = (signalOf s).tick _ :=
    h.left.signalOf_step (.trafficTick left)
  have hother : signalOf (localStep t (.trafficTick right)) = (signalOf t).tick _ :=
    h.right.signalOf_step (.trafficTick right)
  have hinitial : (localStep s (.trafficTick left)).initialPhase = s.initialPhase :=
    congrArg Surroundings.initialPhase (frame_trafficTick s left h.left.lights).surroundings
  have hstays : ¬ ((signalOf s).stage ≠ .green (signalOf s).initial ∧
      (signalOf (localStep s (.trafficTick left))).stage = .green (signalOf s).initial) := by
    intro hstarts
    refine hwithin.2 ⟨mt (phase_eq_initial h.left.settings _).mp hstarts.1, ?_⟩
    exact ((phase_eq_initial h.left.settings _).mpr hstarts.2).trans hinitial.symm
  rw [hsignal] at hstays
  have hagree := tick_agree h.left.signal h.plan.planned hstays
  have hdirection := direction_trafficTick h.left left
  have hdirection' := direction_trafficTick h.right right
  have hsame : signalOf s = signalOf t := h.signals
  have htrain : s.trainDirection = t.trainDirection := h.direction
  refine ⟨hstepped, h.right.step (.trafficTick right), ?_, ?_, ?_, ?_⟩
  · show PlanSafe (signalOf (localStep s (.trafficTick left)))
    rw [hsignal]
    exact h.plan.tick h.left.signal _
  · show signalOf (localStep s _) = signalOf (localStep t _)
    rw [hsignal, hother, ← hsame]
    exact hagree _
  · show (trafficTickLocked s left).trainDirection = (trafficTickLocked t right).trainDirection
    rw [hdirection, hdirection', hsame, htrain]
  · exact (localStep_id s _).trans (h.id.trans (localStep_id t _).symm)

theorem Twins.request {s t : LocalState} (h : Twins (s, t)) {op : LocalOp}
    (hop : sharedRequest op = true) : Twins (twinStep (s, t) (.request op)) := by
  have hsame : signalOf s = signalOf t := h.signals
  have hops : signalOp s op = signalOp t op :=
    signalOp_request hop h.id h.left.settings h.right.settings
  have hsignal := h.left.signalOf_step op
  have hother := h.right.signalOf_step op
  refine ⟨h.left.step op, h.right.step op, ?_, ?_, ?_, ?_⟩
  · show PlanSafe (signalOf (localStep s op))
    rw [hsignal]
    exact h.plan.step h.left.signal _
  · show signalOf (localStep s op) = signalOf (localStep t op)
    rw [hsignal, hother, hsame, hops]
  · exact direction_request hop h.id h.signals h.direction
  · exact (localStep_id s op).trans (h.id.trans (localStep_id t op).symm)

theorem private_step (h : LocalSafe s) {op : LocalOp} (hop : sensorOrMode op = true) :
    signalOf (localStep s op) = signalOf s ∧
      (localStep s op).trainDirection = s.trainDirection ∧
        (localStep s op).intersectionId = s.intersectionId := by
  refine ⟨?_, direction_private hop, localStep_id s op⟩
  rw [h.signalOf_step, signalOp_private hop]
  rfl

theorem Twins.left_step {s t : LocalState} (h : Twins (s, t)) {op : LocalOp}
    (hop : sensorOrMode op = true) : Twins (localStep s op, t) := by
  obtain ⟨hsignal, hdirection, hid⟩ := private_step h.left hop
  refine ⟨h.left.step op, h.right, ?_, hsignal.trans h.signals, hdirection.trans h.direction,
    hid.trans h.id⟩
  show PlanSafe (signalOf (localStep s op))
  rw [hsignal]
  exact h.plan

theorem Twins.right_step {s t : LocalState} (h : Twins (s, t)) {op : LocalOp}
    (hop : sensorOrMode op = true) : Twins (s, localStep t op) := by
  obtain ⟨hsignal, hdirection, hid⟩ := private_step h.right hop
  exact ⟨h.left, h.right.step op, h.plan, h.signals.trans hsignal.symm,
    h.direction.trans hdirection.symm, h.id.trans hid.symm⟩

theorem Twins.step {p : LocalState × LocalState} {op : TwinOp} (h : Twins p)
    (hop : WithinPair p op) : Twins (twinStep p op) := by
  obtain ⟨s, t⟩ := p
  cases op with
  | tick left right => exact h.tick hop
  | request op => exact h.request hop.1
  | left op => exact h.left_step hop.1
  | right op => exact h.right_step hop.1

/-- Two runs from one state that receive the same ticks, pedestrians, trains and
coordination commands show the same, whatever their sensors and modes are, until the
Green of the initial phase starts again. -/
theorem outputs_agree (hs : Reachable Booted localStep s) {ops : List TwinOp}
    (hops : Along twinStep WithinPair (s, s) ops) :
    Throughout twinStep (fun p => outputsOf p.1 = outputsOf p.2) (s, s) ops := by
  have hsafe := localSafe_reachable hs
  refine hops.throughout (J := Twins) (fun p op h hop => h.step hop)
    (fun p h => outputs_of_signals h.signals h.direction) ?_
  exact ⟨hsafe, hsafe, planSafe_reachable hs, rfl, rfl, rfl⟩

/-- One of two Locals turns to its sensors and the other one counts cars. Both serve
the same pedestrian through the rest of the pair. -/
theorem outputs_agree_boot :
    let s := localStateInit 0 Draws.zero
    let ops := [TwinOp.left (.input ['m'] Draws.zero), .left (.input ['x'] Draws.zero),
      .right (.vehicleCounts Draws.zero), .tick Draws.zero Draws.zero,
      .request (.input ['n'] Draws.zero)] ++ List.replicate 42 (.tick Draws.zero Draws.zero)
    Throughout twinStep (fun p => outputsOf p.1 = outputsOf p.2) (s, s) ops :=
  outputs_agree (.init ⟨0, Draws.zero, rfl⟩) (by decide +kernel)

end TrafficLight.SensorIndependence
