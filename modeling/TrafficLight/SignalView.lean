import TrafficLight.SignalMachine

namespace TrafficLight.SignalView

open TrafficLight.Protocol
open TrafficLight.LocalData
open TrafficLight.LocalTraffic
open TrafficLight.SignalMachine

def stageOf : Phase → Stage
  | .nsGreen => .green .ns
  | .nsYellow => .yellow .ns
  | .ewGreen => .green .ew
  | .ewYellow => .yellow .ew
  | .railwayHold => .hold

/-- The direction a coordination command starts with. -/
def baseOf (p : Phase) : Direction :=
  if p = .nsGreen then .ns else .ew

def signalOf (s : LocalState) : Signal where
  stage := stageOf s.phase
  initial := if s.initialPhase = .ewGreen then .ew else .ns
  light := s.light
  walk := s.walk
  request
    | .ns => s.pedNsRequest
    | .ew => s.pedEwRequest
  remaining := s.timeRemaining
  duration := s.phaseDuration
  cycle := s.cycleGreen
  extra := s.pedExtra
  planned := s.cyclePlanValid
  pending := s.trainPending
  active := s.trainActive
  waiting := s.trainWaitingForClear
  pass := s.trainPassRemaining
  recovery := s.trainRecoveryRemaining
  coordination :=
    if s.coordinationPending then
      some (baseOf s.coordinationPhase, s.coordinationOffsetSec)
    else none

/-- What every command keeps: the configured Greens, phases that name a Green,
and no mode that was reached by a conflict of the lamps. -/
structure Settings (s : LocalState) : Prop where
  nsGreen : s.nsGreenSec = 20
  ewGreen : s.ewGreenSec = 20
  initial : s.initialPhase = .nsGreen ∨ s.initialPhase = .ewGreen
  coordination : s.coordinationPending = true →
    s.coordinationPhase = .nsGreen ∨ s.coordinationPhase = .ewGreen
  mode : s.trafficMode ≠ .failsafe
  returnMode : s.tempReturnMode ≠ .failsafe

/-- The fields that only commands, modes and sensors write. -/
structure Inputs where
  nsGreenSec : Int
  ewGreenSec : Int
  initialPhase : Phase
  coordinationPending : Bool
  coordinationPhase : Phase
  coordinationOffsetSec : Int
  trafficMode : TrafficLightMode
  tempReturnMode : TrafficLightMode
  sensorNsCount : Int
  sensorEwCount : Int

def inputsOf (s : LocalState) : Inputs where
  nsGreenSec := s.nsGreenSec
  ewGreenSec := s.ewGreenSec
  initialPhase := s.initialPhase
  coordinationPending := s.coordinationPending
  coordinationPhase := s.coordinationPhase
  coordinationOffsetSec := s.coordinationOffsetSec
  trafficMode := s.trafficMode
  tempReturnMode := s.tempReturnMode
  sensorNsCount := s.sensorNsCount
  sensorEwCount := s.sensorEwCount

theorem Settings.congr {s s' : LocalState} (hs : Settings s) (h : inputsOf s' = inputsOf s) :
    Settings s' := by
  simp only [inputsOf, Inputs.mk.injEq] at h
  obtain ⟨hns, hew, hinitial, hpending, hphase, -, hmode, hreturn, -⟩ := h
  exact ⟨hns.trans hs.nsGreen, hew.trans hs.ewGreen, hinitial ▸ hs.initial,
    hpending ▸ hphase ▸ hs.coordination, hmode ▸ hs.mode, hreturn ▸ hs.returnMode⟩

theorem greenTime_congr {s s' : LocalState} (h : inputsOf s' = inputsOf s) (d : Direction) :
    greenTimeForDirection s' d = greenTimeForDirection s d := by
  simp only [inputsOf, Inputs.mk.injEq] at h
  obtain ⟨hns, hew, -, -, -, -, hmode, -, hsensorNs, hsensorEw⟩ := h
  simp only [greenTimeForDirection, configuredGreenTimeForDirection, hns, hew, hmode, hsensorNs,
    hsensorEw]

@[simp] theorem stageOf_eq_hold (p : Phase) : stageOf p = .hold ↔ p = .railwayHold := by
  cases p <;> simp [stageOf]

@[simp] theorem stageOf_greenOf (d : Direction) : stageOf (greenOf d) = .green d := by
  cases d <;> rfl

theorem stageOf_injective : Function.Injective stageOf := by
  intro p q h
  cases p <;> cases q <;> simp_all [stageOf]

theorem stageOf_eq_green (p : Phase) (d : Direction) : stageOf p = .green d ↔ p = greenOf d := by
  rw [← stageOf_greenOf]
  exact stageOf_injective.eq_iff

@[simp] theorem signalOf_markStatusDirty (s : LocalState) :
    signalOf (markStatusDirtyLocked s) = signalOf s := rfl

@[simp] theorem signalOf_clearFault (s : LocalState) :
    signalOf (clearFaultLocked s) = signalOf s := rfl

theorem pair_ext {α : Type*} {f g : Direction → α} (hns : f .ns = g .ns)
    (hew : f .ew = g .ew) : f = g := by
  funext d
  cases d
  · exact hns
  · exact hew

theorem signalOf_updateLights (s : LocalState) :
    signalOf (updateLightsLocked s) = (signalOf s).showLights := by
  unfold updateLightsLocked Signal.showLights
  by_cases hheld : s.trainActive ∨ s.trainRecoveryRemaining > 0 ∨ s.phase = .railwayHold
  · rw [if_pos hheld, if_pos (by simpa [signalOf] using hheld)]
    ext : 1 <;> first | rfl | exact pair_ext rfl rfl
  · rw [if_neg hheld, if_neg (by simpa [signalOf] using hheld)]
    split
    all_goals
      rename_i hphase
      ext : 1 <;> first | rfl | (simp only [signalOf, hphase]; exact pair_ext rfl rfl)

theorem signalOf_setPhase (s : LocalState) (phase : Phase) (duration : Int) :
    signalOf (setPhaseLocked s phase duration) =
      (signalOf s).startStage (stageOf phase) duration := by
  unfold setPhaseLocked Signal.startStage
  rw [signalOf_markStatusDirty, signalOf_updateLights]
  congr 1
  ext : 1 <;> first | rfl | exact pair_ext rfl rfl

theorem signalOf_planCycle (s : LocalState) :
    signalOf (localPlanCycleLocked s) = (signalOf s).plan (greenTimeForDirection s .ns) := by
  have hns : ∀ n a b : Int,
      (if (if n < a then a else n) > b then b else if n < a then a else n) =
        min (max n a) b := by
    intro n a b
    split_ifs <;> omega
  ext : 1
  case cycle =>
    refine pair_ext (hns _ _ _) ?_
    exact congrArg (2 * greenBaseSec - ·) (hns _ _ _)
  all_goals rfl

theorem signalOf_initial {s : LocalState} (hs : Settings s) :
    s.initialPhase = greenOf (signalOf s).initial := by
  rcases hs.initial with h | h <;> simp [signalOf, h, greenOf]

theorem greenOf_eq_initial {s : LocalState} (hs : Settings s) (d : Direction) :
    greenOf d = s.initialPhase ↔ d = (signalOf s).initial := by
  rw [signalOf_initial hs]
  constructor
  · intro h
    cases d <;> cases hi : (signalOf s).initial <;> simp_all [greenOf]
  · exact congrArg greenOf

theorem nextGreenTime_eq {s : LocalState} (hs : Settings s) (d : Direction) :
    let σ := (signalOf s).planFor (greenTimeForDirection s .ns) d
    (nextGreenTimeForDirection s d).1 = clampGreenTime (σ.cycle d + σ.extra d) ∧
      signalOf (nextGreenTimeForDirection s d).2 =
        { σ with extra := Function.update σ.extra d 0 } := by
  have hplan : signalOf (if s.cyclePlanValid = false ∨ greenOf d = s.initialPhase
      then localPlanCycleLocked s else s) =
        (signalOf s).planFor (greenTimeForDirection s .ns) d := by
    unfold Signal.planFor
    by_cases hcond : s.cyclePlanValid = false ∨ greenOf d = s.initialPhase
    · rw [if_pos hcond, signalOf_planCycle, if_pos]
      exact hcond.imp_right (greenOf_eq_initial hs d).mp
    · rw [if_neg hcond, if_neg]
      exact fun h => hcond (h.imp_right (greenOf_eq_initial hs d).mpr)
  intro σ
  simp only [σ, ← hplan]
  cases d
  all_goals
    refine ⟨rfl, ?_⟩
    ext : 1
    case extra => exact pair_ext rfl rfl
    all_goals rfl

theorem signalOf_startGreen {s : LocalState} (hs : Settings s) (d : Direction) :
    signalOf (setPhaseLocked (nextGreenTimeForDirection s d).2 (greenOf d)
        (nextGreenTimeForDirection s d).1) =
      (signalOf s).startGreen (greenTimeForDirection s .ns) d := by
  obtain ⟨hseconds, hstate⟩ := nextGreenTime_eq hs d
  rw [signalOf_setPhase, hseconds, hstate, stageOf_greenOf]
  rfl

theorem nextGreenTime_initialPhase (s : LocalState) (d : Direction) :
    (nextGreenTimeForDirection s d).2.initialPhase = s.initialPhase := by
  cases d <;> simp only [nextGreenTimeForDirection] <;> split_ifs <;> rfl

theorem signalOf_setInitialPhase {s : LocalState} (hs : Settings s) :
    signalOf (setInitialPhaseLocked s) =
      (signalOf s).startGreen (greenTimeForDirection s .ns) (signalOf s).initial := by
  have hkeep := nextGreenTime_initialPhase s (signalOf s).initial
  rw [signalOf_initial hs] at hkeep
  rw [← signalOf_startGreen hs, ← hkeep]
  rfl

theorem configuredGreen_eq {s : LocalState} (hs : Settings s) (d : Direction) :
    configuredGreenTimeForDirection s d = 20 := by
  cases d <;> simp [configuredGreenTimeForDirection, hs.nsGreen, hs.ewGreen, clampGreenTime,
    greenMinSec, greenMaxSec]

theorem signalOf_setCoordinationPhase {s : LocalState} (hs : Settings s) {base : Phase}
    (hbase : base = .nsGreen ∨ base = .ewGreen) (offset : Int) :
    signalOf (setCoordinationPhaseLocked s base offset) =
      { signalOf s with extra := fun _ => 0, cycle := fun _ => 20, planned := true }.startStage
        (cyclePosition (baseOf base) (offset.tmod 44)).1
        (cyclePosition (baseOf base) (offset.tmod 44)).2 := by
  obtain ⟨s', hs'⟩ : ∃ s', s' =
      { s with
        pedExtraNsGreen := 0
        pedExtraEwGreen := 0
        cycleNsGreen := 20
        cycleEwGreen := 20
        cyclePlanValid := true } := ⟨_, rfl⟩
  have hgreen : ∀ d, configuredGreenTimeForDirection s' d = 20 := by
    intro d
    rw [hs']
    exact configuredGreen_eq hs d
  have hsignal : signalOf s' =
      { signalOf s with extra := fun _ => 0, cycle := fun _ => 20, planned := true } := by
    rw [hs']
    ext : 1 <;> first | rfl | exact pair_ext rfl rfl
  rw [← hsignal]
  generalize hposition : offset.tmod 44 = position
  unfold setCoordinationPhaseLocked cyclePosition baseOf
  rcases hbase with rfl | rfl
  all_goals
    simp only [configuredGreen_eq hs, ← hs', hgreen, yellowSec, reduceCtorEq, if_true, if_false,
      Int.reduceMul, Int.reduceAdd, hposition]
    split_ifs <;> rw [signalOf_setPhase] <;> rfl

theorem startStage_dropCoordination (σ : Signal) (stage : Stage) (duration : Int) :
    { σ.startStage stage duration with coordination := none } =
      { σ with coordination := none }.startStage stage duration := by
  unfold Signal.startStage Signal.showLights
  dsimp only
  split <;> rfl

theorem signalOf_advancePhase {s : LocalState} (hs : Settings s) :
    signalOf (advancePhaseLocked s) = (signalOf s).advance (greenTimeForDirection s .ns) := by
  unfold advancePhaseLocked
  by_cases hpending : s.coordinationPending ∧ (s.phase = .nsYellow ∨ s.phase = .ewYellow)
  · rw [if_pos hpending]
    have hcoord : (signalOf s).coordination = some
        (baseOf s.coordinationPhase, s.coordinationOffsetSec) := by
      simp [signalOf, hpending.1]
    obtain ⟨d, hstage⟩ : ∃ d, (signalOf s).stage = .yellow d := by
      rcases hpending.2 with h | h
      · exact ⟨.ns, by simp [signalOf, h, stageOf]⟩
      · exact ⟨.ew, by simp [signalOf, h, stageOf]⟩
    have hclear : ∀ t : LocalState, signalOf { t with coordinationPending := false } =
        { signalOf t with coordination := none } := fun _ => rfl
    rw [hclear, signalOf_setCoordinationPhase hs (hs.coordination hpending.1),
      startStage_dropCoordination]
    simp only [Signal.advance, hstage, hcoord, Signal.coordinate]
  · rw [if_neg hpending]
    have hnone : s.phase = .nsYellow ∨ s.phase = .ewYellow →
        (signalOf s).coordination = none := by
      intro h
      simp only [signalOf]
      rw [if_neg fun hp => hpending ⟨hp, h⟩]
    cases hphase : s.phase with
    | nsGreen | ewGreen =>
        dsimp only
        rw [signalOf_setPhase]
        simp only [Signal.advance, signalOf, hphase, stageOf, yellowSec]
    | nsYellow =>
        have hstage : (signalOf s).stage = .yellow .ns := by simp [signalOf, hphase, stageOf]
        simp only [Signal.advance, hstage, hnone (.inl hphase)]
        exact signalOf_startGreen hs .ew
    | ewYellow =>
        have hstage : (signalOf s).stage = .yellow .ew := by simp [signalOf, hphase, stageOf]
        simp only [Signal.advance, hstage, hnone (.inr hphase)]
        exact signalOf_startGreen hs .ns
    | railwayHold =>
        have hstage : (signalOf s).stage = .hold := by simp [signalOf, hphase, stageOf]
        simp only [Signal.advance, hstage]
        exact signalOf_startGreen hs .ns

theorem pedestrianServicePhase_iff (s : LocalState) (d : Direction) :
    pedestrianServicePhase s.phase d = true ↔ (signalOf s).stage = .green d.other := by
  cases hphase : s.phase <;> cases d <;>
    simp [pedestrianServicePhase, signalOf, hphase, stageOf, Direction.other]

theorem serves_iff (s : LocalState) (d : Direction) :
    (signalOf s).serves d = true ↔
      pedestrianServicePhase s.phase d = true ∧
        s.phaseDuration - s.timeRemaining ≥ pedWalkStartSec ∧
          s.timeRemaining > pedWalkEndSec := by
  rw [pedestrianServicePhase_iff]
  simp only [Signal.serves, decide_eq_true_eq]
  rfl

theorem signalOf_updatePedestrian (s : LocalState) :
    signalOf (updatePedestrianLocked s) = (signalOf s).serveWalk := by
  unfold updatePedestrianLocked Signal.serveWalk
  by_cases hheld : s.trainActive ∨ s.trainRecoveryRemaining > 0
  · have hheld' : (signalOf s).active ∨ 0 < (signalOf s).recovery := hheld
    rw [if_pos hheld, if_pos hheld']
    ext : 1 <;> first | rfl | exact pair_ext rfl rfl
  · have hheld' : ¬ ((signalOf s).active ∨ 0 < (signalOf s).recovery) := hheld
    rw [if_neg hheld, if_neg hheld']
    have hns := serves_iff s .ns
    have hew := serves_iff s .ew
    cases hn : (signalOf s).serves .ns <;> cases he : (signalOf s).serves .ew
    all_goals
      rw [hn] at hns
      rw [he] at hew
      simp only [true_iff, Bool.false_eq_true, false_iff] at hns hew
      dsimp only
      first | rw [if_pos hns] | rw [if_neg hns]
      dsimp only
      first | rw [if_pos hew] | rw [if_neg hew]
      ext : 1
      case walk => exact pair_ext hn.symm he.symm
      case request => exact pair_ext (by dsimp only; rw [hn]; rfl) (by dsimp only; rw [he]; rfl)
      all_goals rfl

theorem transfer_eq (removed capacity : Int) :
    (if removed > (if capacity < 0 then 0 else capacity)
      then (if capacity < 0 then 0 else capacity) else removed) =
      min removed (max capacity 0) := by
  split_ifs <;> omega

theorem signalOf_cap {s : LocalState} (hs : Settings s) (d : Direction) :
    signalOf (capGreenForPedestrianLocked s d) = (signalOf s).cap d := by
  unfold capGreenForPedestrianLocked Signal.cap
  by_cases hskip : pedestrianServicePhase s.phase d = false ∨ s.timeRemaining ≤ pedGreenCapSec
  · have hskip' : (signalOf s).stage ≠ .green d.other ∨ (signalOf s).remaining ≤ 10 := by
      refine hskip.imp_left fun h => ?_
      rw [← Bool.not_eq_true, pedestrianServicePhase_iff] at h
      exact h
    rw [if_pos hskip, if_pos hskip']
  · have hskip' : ¬ ((signalOf s).stage ≠ .green d.other ∨ (signalOf s).remaining ≤ 10) := by
      intro h
      refine hskip (h.imp_left fun h => ?_)
      rw [← Bool.not_eq_true, pedestrianServicePhase_iff]
      exact h
    rw [if_neg hskip, if_neg hskip']
    have hstage : (signalOf s).stage = .green d.other := by
      by_contra h
      exact hskip' (.inl h)
    have hphase : s.phase = s.initialPhase ↔ d.other = (signalOf s).initial := by
      rw [(stageOf_eq_green _ _).mp hstage]
      exact greenOf_eq_initial hs d.other
    dsimp only
    simp only [transfer_eq, hphase]
    cases d
    all_goals
      ext : 1
      case duration => exact sub_add_sub_cancel _ _ _
      case extra => exact pair_ext rfl rfl
      all_goals rfl

theorem signalOf_addPedestrianRequest {s : LocalState} (hs : Settings s) (d : Direction) :
    signalOf (addPedestrianRequestLocked s d) = (signalOf s).press d := by
  have hnew : ∀ s' : LocalState, s' = (if d = .ns then { s with pedNsRequest := true }
      else { s with pedEwRequest := true }) → Settings s' ∧ signalOf s' =
        { signalOf s with request := Function.update (signalOf s).request d true } := by
    rintro s' rfl
    cases d
    all_goals
      refine ⟨⟨hs.nsGreen, hs.ewGreen, hs.initial, hs.coordination, hs.mode, hs.returnMode⟩, ?_⟩
      ext : 1
      case request => exact pair_ext rfl rfl
      all_goals rfl
  obtain ⟨hset, hsignal⟩ := hnew _ rfl
  unfold addPedestrianRequestLocked Signal.press
  have hrequest :
      (if d = .ns then s.pedNsRequest else s.pedEwRequest) = (signalOf s).request d := by
    cases d <;> rfl
  dsimp only
  rw [signalOf_markStatusDirty, hrequest]
  by_cases halready : (signalOf s).request d = true
  · rw [if_pos halready, if_pos halready, hsignal]
    have hsame : Function.update (signalOf s).request d true = (signalOf s).request := by
      rw [← halready, Function.update_eq_self]
    rw [hsame]
  · rw [if_neg halready, if_neg halready, signalOf_cap hset, hsignal]

theorem signalOf_giveWay (s : LocalState) :
    signalOf
        (if s.phase = .nsGreen then setPhaseLocked s .nsYellow yellowSec
        else if s.phase = .ewGreen then setPhaseLocked s .ewYellow yellowSec
        else if s.phase ≠ .nsYellow ∧ s.phase ≠ .ewYellow then
          setPhaseLocked { s with trainPending := false, trainActive := true } .railwayHold 0
        else s) =
      match (signalOf s).stage with
      | .green d => (signalOf s).startStage (.yellow d) 2
      | .yellow _ => signalOf s
      | .hold =>
          { signalOf s with pending := false, active := true }.startStage .hold 0 := by
  have hstage : (signalOf s).stage = stageOf s.phase := rfl
  rw [hstage]
  cases s.phase with
  | nsGreen => rw [if_pos rfl, signalOf_setPhase]; rfl
  | ewGreen => rw [if_neg (by decide), if_pos rfl, signalOf_setPhase]; rfl
  | nsYellow | ewYellow =>
      rw [if_neg (by decide), if_neg (by decide), if_neg (by decide)]
      rfl
  | railwayHold =>
      rw [if_neg (by decide), if_neg (by decide), if_pos (by decide), signalOf_setPhase]
      rfl

theorem signalOf_startTrainCommon (s : LocalState) (direction : Int) (wait : Bool)
    (eta : Int) :
    signalOf (startTrainCommonLocked s direction wait eta) =
      (signalOf s).startTrain wait (if wait then eta else trainPassingSeconds) := by
  unfold startTrainCommonLocked Signal.startTrain
  by_cases hbusy : s.trainActive ∨ s.trainPending
  · have hbusy' : (signalOf s).active ∨ (signalOf s).pending := hbusy
    rw [if_pos hbusy, if_pos hbusy']
  · have hbusy' : ¬ ((signalOf s).active ∨ (signalOf s).pending) := hbusy
    rw [if_neg hbusy, if_neg hbusy']
    obtain ⟨s₁, hs₁⟩ : ∃ s₁, s₁ =
        { s with
          trainPending := true
          trainDirection := direction
          trainPassRemaining := if wait then eta else trainPassingSeconds
          trainWaitingForClear := wait
          trainRecoveryRemaining := 0
          nextTrainInSeconds := 0
          pedExtraNsGreen := 0
          pedExtraEwGreen := 0 } := ⟨_, rfl⟩
    have hsignal : signalOf s₁ =
        { signalOf s with
          pending := true, waiting := wait
          pass := if wait then eta else trainPassingSeconds
          recovery := 0, extra := fun _ => 0 } := by
      rw [hs₁]
      ext : 1
      case extra => exact pair_ext rfl rfl
      all_goals rfl
    have hgive := signalOf_giveWay s₁
    rw [hsignal] at hgive
    subst hs₁
    exact hgive

theorem signalOf_startTrainMessage (s : LocalState) (direction : Int) (eta : Nat) :
    signalOf (startTrainMessageLocked s direction eta) = (signalOf s).preempt eta := by
  have hnat : (if (eta : Int) < 0 then 0 else (eta : Int)) = eta := if_neg (by omega)
  unfold startTrainMessageLocked Signal.preempt
  dsimp only
  rw [hnat]
  by_cases hbusy : s.trainActive ∨ s.trainPending
  · have hbusy' : (signalOf s).active ∨ (signalOf s).pending := hbusy
    rw [if_pos hbusy, if_pos hbusy', signalOf_markStatusDirty]
    by_cases hactive : s.trainActive = true
    · have hactive' : (signalOf s).active = true := hactive
      rw [if_pos hactive, if_pos hactive', signalOf_setPhase]
      rfl
    · have hactive' : ¬ (signalOf s).active = true := hactive
      rw [if_neg hactive, if_neg hactive']
      rfl
  · have hbusy' : ¬ ((signalOf s).active ∨ (signalOf s).pending) := hbusy
    rw [if_neg hbusy, if_neg hbusy', signalOf_startTrainCommon]
    rfl

theorem signalOf_clearTrain (s : LocalState) :
    signalOf (clearTrainLocked s) = (signalOf s).clear := by
  unfold clearTrainLocked Signal.clear
  by_cases hbusy : s.trainActive ∨ s.trainPending
  · have hbusy' : (signalOf s).active ∨ (signalOf s).pending := hbusy
    rw [if_pos hbusy, if_pos hbusy']
    dsimp only
    rw [signalOf_markStatusDirty, signalOf_setPhase]
    congr 1
    ext : 1
    case extra => exact pair_ext rfl rfl
    all_goals rfl
  · have hbusy' : ¬ ((signalOf s).active ∨ (signalOf s).pending) := hbusy
    rw [if_neg hbusy, if_neg hbusy']

@[simp] theorem inputsOf_markStatusDirty (s : LocalState) :
    inputsOf (markStatusDirtyLocked s) = inputsOf s := rfl

@[simp] theorem inputsOf_clearFault (s : LocalState) :
    inputsOf (clearFaultLocked s) = inputsOf s := rfl

@[simp] theorem inputsOf_updateLights (s : LocalState) :
    inputsOf (updateLightsLocked s) = inputsOf s := by
  unfold updateLightsLocked
  split
  · rfl
  · split <;> rfl

@[simp] theorem inputsOf_setPhase (s : LocalState) (phase : Phase) (duration : Int) :
    inputsOf (setPhaseLocked s phase duration) = inputsOf s := by
  unfold setPhaseLocked
  rw [inputsOf_markStatusDirty, inputsOf_updateLights]
  rfl

@[simp] theorem inputsOf_nextGreenTime (s : LocalState) (d : Direction) :
    inputsOf (nextGreenTimeForDirection s d).2 = inputsOf s := by
  cases d <;> simp only [nextGreenTimeForDirection] <;> split_ifs <;> rfl

@[simp] theorem inputsOf_setInitialPhase (s : LocalState) :
    inputsOf (setInitialPhaseLocked s) = inputsOf s := by
  unfold setInitialPhaseLocked
  dsimp only
  rw [inputsOf_setPhase, inputsOf_nextGreenTime]

@[simp] theorem inputsOf_updatePedestrian (s : LocalState) :
    inputsOf (updatePedestrianLocked s) = inputsOf s := by
  unfold updatePedestrianLocked
  dsimp only
  split_ifs <;> rfl

@[simp] theorem inputsOf_addPedestrianRequest (s : LocalState) (d : Direction) :
    inputsOf (addPedestrianRequestLocked s d) = inputsOf s := by
  have hcap : ∀ s : LocalState, inputsOf (capGreenForPedestrianLocked s d) = inputsOf s := by
    intro s
    unfold capGreenForPedestrianLocked
    dsimp only
    split_ifs <;> rfl
  unfold addPedestrianRequestLocked
  dsimp only
  rw [inputsOf_markStatusDirty]
  split_ifs
  all_goals first | rfl | (rw [hcap]; rfl)

@[simp] theorem inputsOf_startTrainCommon (s : LocalState) (direction : Int) (wait : Bool)
    (eta : Int) : inputsOf (startTrainCommonLocked s direction wait eta) = inputsOf s := by
  unfold startTrainCommonLocked
  dsimp only
  split_ifs
  all_goals first | rfl | (rw [inputsOf_markStatusDirty, inputsOf_setPhase]; rfl)

@[simp] theorem inputsOf_startTrainMessage (s : LocalState) (direction eta : Int) :
    inputsOf (startTrainMessageLocked s direction eta) = inputsOf s := by
  unfold startTrainMessageLocked
  dsimp only
  split_ifs
  all_goals first | rfl | exact inputsOf_startTrainCommon .. |
    (rw [inputsOf_markStatusDirty, inputsOf_setPhase]; rfl)

@[simp] theorem inputsOf_clearTrain (s : LocalState) :
    inputsOf (clearTrainLocked s) = inputsOf s := by
  unfold clearTrainLocked
  dsimp only
  split_ifs
  · rw [inputsOf_markStatusDirty, inputsOf_setPhase]
    rfl
  · rfl

theorem signalOf_countDown (s : LocalState) :
    signalOf (countDown s) = (signalOf s).countDown := by
  unfold countDown Signal.countDown
  have hremaining : (signalOf s).remaining = s.timeRemaining := rfl
  rw [hremaining]
  by_cases h : s.timeRemaining > 0
  · rw [if_pos h, if_pos h]
    rfl
  · rw [if_neg h, if_neg h]
    rfl

theorem signalOf_countPass (s : LocalState) :
    signalOf (countPass s) = (signalOf s).countPass := by
  unfold countPass Signal.countPass
  have hpass : (signalOf s).pass = s.trainPassRemaining := rfl
  rw [hpass]
  by_cases h : s.trainPassRemaining > 0
  · rw [if_pos h, if_pos h]
    rfl
  · rw [if_neg h, if_neg h]
    rfl

@[simp] theorem inputsOf_countDown (s : LocalState) : inputsOf (countDown s) = inputsOf s := by
  unfold countDown
  split <;> rfl

@[simp] theorem inputsOf_countPass (s : LocalState) : inputsOf (countPass s) = inputsOf s := by
  unfold countPass
  split <;> rfl

theorem signalOf_pendingTick (s : LocalState) :
    signalOf (trainPendingTick s) = (signalOf s).pendingTick := by
  unfold trainPendingTick Signal.pendingTick
  dsimp only
  rw [← signalOf_countDown, ← signalOf_updateLights]
  generalize updateLightsLocked (countDown s) = s'
  by_cases hdone : s'.timeRemaining ≤ 0
  · have hdone' : (signalOf s').remaining ≤ 0 := hdone
    rw [if_pos hdone, if_pos hdone', signalOf_setPhase]
    rfl
  · have hdone' : ¬ (signalOf s').remaining ≤ 0 := hdone
    rw [if_neg hdone, if_neg hdone']

theorem signalOf_activeTick (s : LocalState) :
    signalOf (trainActiveTick s) = (signalOf s).activeTick := by
  unfold trainActiveTick Signal.activeTick
  dsimp only
  rw [← signalOf_countPass]
  generalize countPass s = s'
  by_cases hwaiting : s'.trainWaitingForClear = true
  · have hwaiting' : (signalOf s').waiting = true := hwaiting
    rw [if_pos hwaiting, if_pos hwaiting', signalOf_markStatusDirty, signalOf_updateLights]
    rfl
  · have hwaiting' : ¬ (signalOf s').waiting = true := hwaiting
    rw [if_neg hwaiting, if_neg hwaiting']
    by_cases hpassed : s'.trainPassRemaining ≤ 0
    · have hpassed' : (signalOf s').pass ≤ 0 := hpassed
      rw [if_pos hpassed, if_pos hpassed', signalOf_clearTrain]
    · have hpassed' : ¬ (signalOf s').pass ≤ 0 := hpassed
      rw [if_neg hpassed, if_neg hpassed', signalOf_setPhase]
      rfl

theorem signalOf_recoveryTick {s : LocalState} (hs : Settings s) (draws : Draws) :
    signalOf (recoveryTick s draws) =
      (signalOf s).recoveryTick (greenTimeForDirection s .ns) := by
  unfold recoveryTick Signal.recoveryTick
  dsimp only
  obtain ⟨s', hs'⟩ : ∃ s', s' = updateLightsLocked
      { s with
        trainRecoveryRemaining := s.trainRecoveryRemaining - 1
        phase := .railwayHold
        timeRemaining := s.trainRecoveryRemaining - 1 } := ⟨_, rfl⟩
  have hsignal : signalOf s' =
      { signalOf s with
        recovery := (signalOf s).recovery - 1, stage := .hold
        remaining := (signalOf s).recovery - 1 }.showLights := by
    rw [hs', signalOf_updateLights]
    rfl
  have hinputs : inputsOf s' = inputsOf s := by
    rw [hs', inputsOf_updateLights]
    rfl
  rw [← hs', ← hsignal]
  by_cases hover : s'.trainRecoveryRemaining = 0
  · have hover' : (signalOf s').recovery = 0 := hover
    rw [if_pos hover, if_pos hover']
    obtain ⟨t, ht⟩ : ∃ t, t =
        (if s'.simRunning ∧ s'.trainConnected = false then
          { s' with
            nextTrainInSeconds := randomTrainGapSeconds s' draws
            nextTrainDirection := randomTrainDirection draws }
        else s') := ⟨_, rfl⟩
    have htsignal : signalOf t = signalOf s' := by
      rw [ht]
      split <;> rfl
    have htinputs : inputsOf t = inputsOf s := by
      rw [ht, ← hinputs]
      split <;> rfl
    rw [← ht, signalOf_setInitialPhase (hs.congr htinputs), htsignal,
      greenTime_congr htinputs]
  · have hover' : ¬ (signalOf s').recovery = 0 := hover
    rw [if_neg hover, if_neg hover']

theorem signalOf_normalTick {s : LocalState} (hs : Settings s) :
    signalOf (normalTick s) = (signalOf s).runTick (greenTimeForDirection s .ns) := by
  unfold normalTick Signal.runTick
  dsimp only
  have hinputs : inputsOf (updatePedestrianLocked (updateLightsLocked (countDown s))) =
      inputsOf s := by simp
  rw [← signalOf_countDown, ← signalOf_updateLights, ← signalOf_updatePedestrian]
  generalize updatePedestrianLocked (updateLightsLocked (countDown s)) = s' at hinputs ⊢
  by_cases hdone : s'.timeRemaining ≤ 0
  · have hdone' : (signalOf s').remaining ≤ 0 := hdone
    rw [if_pos hdone, if_pos hdone', signalOf_advancePhase (hs.congr hinputs),
      greenTime_congr hinputs]
  · have hdone' : ¬ (signalOf s').remaining ≤ 0 := hdone
    rw [if_neg hdone, if_neg hdone']

theorem signalOf_trafficTick {s : LocalState} (hs : Settings s)
    (hlights : ¬ (s.nsLight = .green ∧ s.ewLight = .green)) (draws : Draws) :
    signalOf (trafficTickLocked s draws) =
      (signalOf s).tick (greenTimeForDirection s .ns) := by
  unfold trafficTickLocked Signal.tick
  rw [if_neg hlights, if_neg hs.mode]
  by_cases hpending : s.trainPending = true
  · have hpending' : (signalOf s).pending = true := hpending
    rw [if_pos hpending, if_pos hpending', signalOf_pendingTick]
  · have hpending' : ¬ (signalOf s).pending = true := hpending
    rw [if_neg hpending, if_neg hpending']
    by_cases hactive : s.trainActive = true
    · have hactive' : (signalOf s).active = true := hactive
      rw [if_pos hactive, if_pos hactive', signalOf_activeTick]
    · have hactive' : ¬ (signalOf s).active = true := hactive
      rw [if_neg hactive, if_neg hactive']
      by_cases hrecovery : s.trainRecoveryRemaining > 0
      · have hrecovery' : 0 < (signalOf s).recovery := hrecovery
        rw [if_pos hrecovery, if_pos hrecovery', signalOf_recoveryTick hs]
      · have hrecovery' : ¬ 0 < (signalOf s).recovery := hrecovery
        rw [if_neg hrecovery, if_neg hrecovery', signalOf_normalTick hs]

end TrafficLight.SignalView
