import TrafficLight.LocalCommands

namespace TrafficLight.LampSequence

open TrafficLight.Runs
open TrafficLight.Protocol
open TrafficLight.LocalData
open TrafficLight.LocalTraffic
open TrafficLight.LocalMessages
open TrafficLight.LocalCore
open TrafficLight.SignalMachine
open TrafficLight.SignalView
open TrafficLight.SignalRefinement
open TrafficLight.SignalInvariant
open TrafficLight.SignalChanges
open TrafficLight.LocalSafety
open TrafficLight.LocalCommands

/-- The lamp stays the same or takes the next colour. -/
def LampFollows (light light' : LightState) : Prop :=
  light' = light ∨ (light = .red ∧ light' = .green) ∨ (light = .green ∧ light' = .yellow) ∨
    (light = .yellow ∧ light' = .red)

instance : DecidableRel LampFollows := fun light light' =>
  inferInstanceAs (Decidable (light' = light ∨ (light = .red ∧ light' = .green) ∨
    (light = .green ∧ light' = .yellow) ∨ (light = .yellow ∧ light' = .red)))

def LampLaw (s : LocalState) (step : CoreStep) : Prop :=
  ∀ d, LampFollows (s.light d) ((coreStep s step).light d)

instance : ∀ s step, Decidable (LampLaw s step) := fun s step =>
  inferInstanceAs (Decidable (∀ d, LampFollows (s.light d) ((coreStep s step).light d)))

/-- Stages whose lamps follow each other. -/
def StageFollows (stage stage' : Stage) : Prop :=
  ∀ d, LampFollows (stage.lamp d) (stage'.lamp d)

/-- After the Yellow of a direction the other one has the Green, or the same
Yellow goes on. -/
def Fits (d base : Direction) (offset : Int) : Prop :=
  if base = d then 20 ≤ offset ∧ offset < 42 else offset < 20 ∨ 42 ≤ offset

/-- A coordination command that a traffic tick applies fits the Yellow that
the tick ends. -/
def CoordinationFits (s : LocalState) : LocalOp → Prop
  | .trafficTick _ =>
      s.coordinationPending = true → s.trainPending = false → s.timeRemaining = 1 →
        ∀ d, s.phase = yellowOf d → Fits d (baseOf s.coordinationPhase) s.coordinationOffsetSec
  | _ => True

/-- The console reset as a core step. -/
def stepResets : CoreStep → Bool
  | .input command _ => command = ['r']
  | _ => false

theorem stageFollows_refl (stage : Stage) : StageFollows stage stage :=
  fun _ => .inl rfl

theorem stageFollows_yellow (d : Direction) : StageFollows (.green d) (.yellow d) := by
  cases d <;> intro d' <;> cases d' <;> decide

theorem stageFollows_green (d : Direction) : StageFollows (.yellow d) (.green d.other) := by
  cases d <;> intro d' <;> cases d' <;> decide

theorem stageFollows_hold (d : Direction) : StageFollows (.yellow d) .hold := by
  cases d <;> intro d' <;> cases d' <;> decide

theorem stageFollows_restart (d : Direction) : StageFollows .hold (.green d) := by
  cases d <;> intro d' <;> cases d' <;> decide

theorem stageFollows_position (d base : Direction) {offset : Int} :
    StageFollows (.yellow d) (cyclePosition base offset).1 ↔ Fits d base offset := by
  have hgreen : ∀ d', StageFollows (.yellow d) (.green d') ↔ d' ≠ d := by
    intro d'
    unfold StageFollows
    cases d <;> cases d' <;> decide
  have hyellow : ∀ d', StageFollows (.yellow d) (.yellow d') ↔ d' = d := by
    intro d'
    unfold StageFollows
    cases d <;> cases d' <;> decide
  have hother : base.other = d ↔ base ≠ d := by cases base <;> cases d <;> decide
  unfold cyclePosition Fits
  split_ifs <;> simp only [hgreen, hyellow, ne_eq, hother] <;> simp_all <;> omega

theorem stageFollows_step {σ : Signal} (h : SignalSafe σ) {op : SignalOp} (hreset : op ≠ .reset) :
    StageFollows σ.stage (signalStep σ op).stage ↔
      ∀ nsGreen, op = .tick nsGreen → σ.pending = false → σ.remaining = 1 →
        ∀ d, σ.stage = .yellow d → ∀ base offset, σ.coordination = some (base, offset) →
          Fits d base offset := by
  cases signalStep_change h op with
  | keep hstage _ _ hop =>
      rw [hstage]
      exact iff_of_true (stageFollows_refl _) fun g hg => absurd hg (hop g)
  | cap d hgreen hstage _ _ hop =>
      rw [hstage, hgreen]
      exact iff_of_true (stageFollows_refl _) fun g hg => absurd hg (hop g)
  | second _ _ _ hlong hstage =>
      rw [hstage]
      exact iff_of_true (stageFollows_refl _) fun _ _ _ hlast => absurd hlast (by omega)
  | yellow d hgreen hstart =>
      rw [hstart.stage, hgreen]
      exact iff_of_true (stageFollows_yellow d) (by simp)
  | green _ d _ hyellow _ _ hcoordination hstart =>
      rw [hstart.stage, hyellow, hcoordination]
      exact iff_of_true (stageFollows_green d) (by simp)
  | coordinated nsGreen d base offset hop hyellow hlast hpending hcoordination hstart =>
      rw [hstart.stage, hyellow, stageFollows_position]
      constructor
      · intro hfits _ _ _ _ d' hd' base' offset' heq
        obtain ⟨rfl, rfl⟩ := Prod.mk.inj (Option.some.inj (hcoordination.symm.trans heq))
        obtain rfl := Stage.yellow.inj hd'
        exact hfits
      · intro hall
        exact hall nsGreen hop hpending hlast d rfl base offset hcoordination
  | held hhold hstage =>
      rw [hstage, hhold]
      exact iff_of_true (stageFollows_refl _) (by simp)
  | passed _ d _ hyellow _ hpending hstage | cleared d _ hyellow hpending hstage =>
      rw [hstage, hyellow]
      exact iff_of_true (stageFollows_hold d) (by simp [hpending])
  | restart _ _ hhold _ _ hstart =>
      rw [hstart.stage, hhold]
      exact iff_of_true (stageFollows_restart _) (by simp)
  | reset hop => exact absurd hop hreset

theorem startTrain_busy (σ : Signal) (waiting : Bool) (pass : Int) :
    (σ.startTrain waiting pass).pending = true ∨ (σ.startTrain waiting pass).active = true := by
  unfold Signal.startTrain
  split
  · exact Or.symm (by assumption)
  · dsimp only
    split
    · exact .inl (startStage_pending ..)
    · exact .inl rfl
    · exact .inr (startStage_active ..)

theorem stageFollows_busy {σ : Signal} (h : SignalSafe σ)
    (hbusy : σ.pending = true ∨ σ.active = true) (nsGreen : Int) :
    StageFollows σ.stage (signalStep σ (.tick nsGreen)).stage := by
  refine (stageFollows_step h (by simp)).mpr fun _ _ hpending _ d hyellow => ?_
  rcases hbusy with hp | ha
  · exact absurd (hp.symm.trans hpending) (by decide)
  · exact absurd ((h.hold.mpr (.inl ha)).symm.trans hyellow) (by simp)

theorem stageFollows_startTrain {σ : Signal} (h : SignalSafe σ) (waiting : Bool)
    (pass nsGreen : Int) :
    StageFollows σ.stage (signalStep (σ.startTrain waiting pass) (.tick nsGreen)).stage := by
  have hsafe := h.startTrain waiting pass
  have hstart : Change σ .demoTrain (σ.startTrain waiting pass) :=
    change_of_startTrain (by simp) waiting pass
  have hfollows := stageFollows_busy hsafe (startTrain_busy σ waiting pass) nsGreen
  cases hstart with
  | keep hstage =>
      rw [← hstage]
      exact hfollows
  | cap d hgreen hstage =>
      rw [hgreen, ← hstage]
      exact hfollows
  | held hhold hstage =>
      rw [hhold, ← hstage]
      exact hfollows
  | second _ hop | green _ _ hop | coordinated _ _ _ _ hop | passed _ _ hop | cleared _ hop
  | restart _ hop | reset hop => cases hop
  | yellow d hgreen hyellow hremaining =>
      cases signalStep_change hsafe (.tick nsGreen) with
      | keep _ _ _ hop => exact absurd rfl (hop nsGreen)
      | cap _ _ _ _ _ hop => exact absurd rfl (hop nsGreen)
      | second _ _ _ _ hstage =>
          rw [hgreen, hstage, hyellow.stage]
          exact stageFollows_yellow d
      | green _ _ _ _ hlast | coordinated _ _ _ _ _ _ hlast | passed _ _ _ _ hlast =>
          omega
      | yellow _ hbefore => exact absurd (hyellow.stage.symm.trans hbefore) (by simp)
      | held hbefore | restart _ _ hbefore =>
          exact absurd (hyellow.stage.symm.trans hbefore) (by simp)
      | cleared _ hop | reset hop => cases hop

theorem lampFollows_iff {s s' : LocalState} (h : LocalSafe s) (h' : LocalSafe s') :
    (∀ d, LampFollows (s.light d) (s'.light d)) ↔
      StageFollows (signalOf s).stage (signalOf s').stage := by
  rw [h.light_eq, h'.light_eq]
  rfl

theorem yellowOf_iff (p : Phase) (d : Direction) : stageOf p = .yellow d ↔ p = yellowOf d := by
  cases p <;> cases d <;> simp [stageOf, yellowOf]

theorem coordinationFits_iff (s : LocalState) (draws : Draws) :
    CoordinationFits s (.trafficTick draws) ↔
      ∀ nsGreen, signalOp s (.trafficTick draws) = .tick nsGreen → (signalOf s).pending = false →
        (signalOf s).remaining = 1 → ∀ d, (signalOf s).stage = .yellow d → ∀ base offset,
          (signalOf s).coordination = some (base, offset) → Fits d base offset := by
  have hstage : ∀ d, (signalOf s).stage = .yellow d ↔ s.phase = yellowOf d := yellowOf_iff s.phase
  simp only [hstage]
  constructor
  · intro h _ _ hpending hlast d hphase base offset hcoordination
    have hpoint : s.coordinationPending = true ∧ baseOf s.coordinationPhase = base ∧
        s.coordinationOffsetSec = offset := by
      simpa [signalOf] using hcoordination
    obtain ⟨hset, rfl, rfl⟩ := hpoint
    exact h hset hpending hlast d hphase
  · intro h hset hpending hlast d hphase
    exact h _ rfl hpending hlast d hphase _ _ (by simp [signalOf, hset])

theorem lampFollows_step {s : LocalState} (h : LocalSafe s) {op : LocalOp}
    (hreset : resets op = false) :
    (∀ d, LampFollows (s.light d) ((localStep s op).light d)) ↔ CoordinationFits s op := by
  have hticks := signalOp_ticks s op
  rw [lampFollows_iff h (h.step op), h.signalOf_step, stageFollows_step h.signal (noReset hreset)]
  cases op with
  | trafficTick draws => exact (coordinationFits_iff s draws).symm
  | _ =>
      refine iff_of_true (fun nsGreen hop => ?_) trivial
      rw [hop] at hticks
      cases hticks

/-- The state of a core tick just before the traffic tick. -/
def beforeTraffic (s : LocalState) (linkExpired : Bool) : LocalState :=
  run localStep s ((if linkExpired then [.linkTimeout] else []) ++ [.timeOfDay, .temporaryMode])

theorem localSafe_run {s : LocalState} (h : LocalSafe s) (ops : List LocalOp) :
    LocalSafe (run localStep s ops) :=
  run_invariant (fun _ op hs => hs.step op) h ops

theorem signalOf_beforeTraffic (s : LocalState) (linkExpired : Bool) :
    signalOf (beforeTraffic s linkExpired) = signalOf s ∨
      signalOf (beforeTraffic s linkExpired) =
        (signalOf s).startTrain false trainPassingSeconds := by
  have hclock : ∀ s' : LocalState, signalOf s' = signalOf s →
      signalOf (updateTemporaryModeLocked (updateTimeOfDayLocked s')) = signalOf s ∨
        signalOf (updateTemporaryModeLocked (updateTimeOfDayLocked s')) =
          (signalOf s).startTrain false trainPassingSeconds := by
    intro s' hs'
    rw [signalOf_updateTemporaryMode, signalOf_updateTimeOfDay, hs']
    split
    · exact .inr rfl
    · exact .inl rfl
  unfold beforeTraffic
  cases linkExpired
  · exact hclock s rfl
  · exact hclock _ rfl

theorem signalOf_coreTick (s : LocalState) (linkExpired : Bool) (draws : Draws) :
    signalOf (coreStep s (.tick linkExpired draws)) =
      signalOf (localStep (beforeTraffic s linkExpired) (.trafficTick draws)) := by
  have hafter : ∀ s' : LocalState, signalOf (markStatusDirtyLocked
      (updateVehicleCountsLocked s' draws)) = signalOf s' := by
    intro s'
    rw [signalOf_markStatusDirty, signalOf_updateVehicleCounts]
  cases linkExpired <;> exact hafter _

theorem along_tick (s : LocalState) (linkExpired : Bool) (draws : Draws) :
    Along localStep CoordinationFits s (CoreStep.tick linkExpired draws).ops ↔
      CoordinationFits (beforeTraffic s linkExpired) (.trafficTick draws) := by
  cases linkExpired <;> simp [CoreStep.ops, beforeTraffic, CoordinationFits]

theorem lampLaw_tick {s : LocalState} (h : LocalSafe s) (linkExpired : Bool) (draws : Draws) :
    LampLaw s (.tick linkExpired draws) ↔
      CoordinationFits (beforeTraffic s linkExpired) (.trafficTick draws) := by
  have hbefore : LocalSafe (beforeTraffic s linkExpired) := localSafe_run h _
  have hafter := hbefore.step (.trafficTick draws)
  have hstep : LocalSafe (coreStep s (.tick linkExpired draws)) := by
    rw [coreStep_eq_run]
    exact localSafe_run h _
  rw [← lampFollows_step hbefore rfl, lampFollows_iff hbefore hafter]
  unfold LampLaw
  rw [lampFollows_iff h hstep, signalOf_coreTick]
  rcases signalOf_beforeTraffic s linkExpired with heq | heq
  · rw [heq]
  · refine iff_of_true ?_ ?_
    · rw [hbefore.signalOf_step, heq]
      exact stageFollows_startTrain h.signal false trainPassingSeconds _
    · rw [hbefore.signalOf_step, heq]
      exact stageFollows_busy (h.signal.startTrain ..) (startTrain_busy ..) _

theorem lampLaw_step {s : LocalState} (h : LocalSafe s) {step : CoreStep}
    (hreset : stepResets step = false) :
    LampLaw s step ↔ Along localStep CoordinationFits s step.ops := by
  cases step with
  | tick linkExpired draws => rw [along_tick, lampLaw_tick h]
  | snapshot => exact iff_of_true (fun _ => .inl rfl) trivial
  | frame msg draws =>
      have hop : resets (.frame msg draws) = false := rfl
      exact (lampFollows_step h hop).trans (and_iff_left trivial).symm
  | input command draws =>
      have hop : resets (.input command draws) = false := hreset
      exact (lampFollows_step h hop).trans (and_iff_left trivial).symm
  | links centralUp trainUp =>
      have hop : resets (.links centralUp trainUp) = false := rfl
      exact (lampFollows_step h hop).trans (and_iff_left trivial).symm

/-- The lamps keep their order in a run exactly if every coordination command
that is applied fits the Yellow it ends. -/
theorem lampLaw_iff {s : LocalState} (hs : Reachable Booted coreStep s) {steps : List CoreStep}
    (hreset : ∀ step ∈ steps, stepResets step = false) :
    Along coreStep LampLaw s steps ↔
      Along localStep CoordinationFits s (steps.flatMap CoreStep.ops) :=
  along_flatMap coreStep_eq_run (fun _ op hsafe => LocalSafe.step hsafe op)
    (fun _ _ hsafe hstep => lampLaw_step hsafe hstep)
    (localSafe_reachable (reachable_of_core hs)) hreset

/-- A command for intersection I1 to start with the NS Green. -/
def coordinationFrame (cycleOffsetSec : UInt8) : TestMessage :=
  frameOf msgCoordinationCommand controllerCentral controllerLocal
    [0, TrafficLightMode.fixed.toByte, Phase.nsGreen.toByte, 0, cycleOffsetSec, 0, 1, 0]

/-- The first cycle of I1 from boot, up to the Yellow of NS. -/
def cycleSteps (cycleOffsetSec : UInt8) (ticks : Nat) : List CoreStep :=
  .frame (coordinationFrame cycleOffsetSec) .zero ::
    List.replicate ticks (.tick false .zero)

theorem lampLaw_iff_cycle :
    Along coreStep LampLaw (localStateInit 0 .zero) (cycleSteps 0 24) ↔
      Along localStep CoordinationFits (localStateInit 0 .zero)
        ((cycleSteps 0 24).flatMap CoreStep.ops) :=
  lampLaw_iff (.init ⟨0, .zero, rfl⟩) (by decide)

/-- At offset 22 the Green of EW follows its own Yellow. -/
theorem lampLaw_broken :
    ¬ ∀ (s : LocalState) (steps : List CoreStep), Reachable Booted coreStep s →
      (∀ step ∈ steps, stepResets step = false) → Along coreStep LampLaw s steps := by
  intro h
  have hboot : Reachable Booted coreStep (localStateInit 0 .zero) := .init ⟨0, .zero, rfl⟩
  have hlaw := h _ [.tick false .zero] (hboot.run (cycleSteps 22 21)) (by decide)
  exact absurd hlaw.1 (by decide +kernel)

end TrafficLight.LampSequence
