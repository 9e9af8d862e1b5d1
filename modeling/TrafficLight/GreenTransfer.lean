import TrafficLight.LocalCommands
import TrafficLight.GreenPlan

namespace TrafficLight.GreenTransfer

open TrafficLight.Runs
open TrafficLight.Protocol
open TrafficLight.LocalData
open TrafficLight.LocalTraffic
open TrafficLight.LocalMessages
open TrafficLight.LocalCore
open TrafficLight.SignalMachine
open TrafficLight.SignalView
open TrafficLight.SignalRefinement
open TrafficLight.SignalInvariant
open TrafficLight.SignalChanges
open TrafficLight.LocalSafety
open TrafficLight.LocalCommands
open TrafficLight.GreenPlan

/-- No train is near and no coordination command waits. -/
structure Idle (σ : Signal) : Prop where
  pending : σ.pending = false
  active : σ.active = false
  recovery : σ.recovery = 0
  coordination : σ.coordination = none

/-- What a step does to the Greens of undisturbed signals in `ticks` ticks. -/
inductive GreenChange (σ : Signal) (ticks : Nat) (σ' : Signal) : Prop
  | same (hstage : σ'.stage = σ.stage) (hremaining : σ'.remaining + ticks = σ.remaining)
      (hduration : σ'.duration = σ.duration) (hcycle : σ'.cycle = σ.cycle)
      (hextra : σ'.extra = σ.extra)
  /-- Seconds move from the running Green to the one of direction `d`. -/
  | transfer (d : Direction) (seconds : Int) (hticks : ticks = 0)
      (hgreen : σ.stage = .green d.other) (hstage : σ'.stage = σ.stage)
      (hremaining : σ'.remaining + seconds = σ.remaining) (hleft : 10 ≤ σ'.remaining)
      (hduration : σ'.duration + seconds = σ.duration) (hseconds : 0 ≤ seconds)
      (hcycle : σ'.cycle = σ.cycle)
      (hextra : σ'.extra = Function.update σ.extra d (σ.extra d + seconds))
  | yellow (d : Direction) (hticks : ticks = 1) (hgreen : σ.stage = .green d)
      (hlast : σ.remaining = 1) (hstage : σ'.stage = .yellow d) (hremaining : σ'.remaining = 2)
      (hcycle : σ'.cycle = σ.cycle) (hextra : σ'.extra = σ.extra)
  | green (d : Direction) (hticks : ticks = 1) (hyellow : σ.stage = .yellow d)
      (hlast : σ.remaining = 1) (hstart : GreenStarted σ σ' d.other)

/-- Operations that involve no train, command or reset. -/
def Undisturbing : SignalOp → Prop
  | .idle | .tick _ | .press _ | .clear => True
  | _ => False

theorem elapse_frame (σ : Signal) :
    (elapse σ).stage = σ.stage ∧ (elapse σ).remaining = σ.remaining - 1 ∧
      (elapse σ).duration = σ.duration ∧ (elapse σ).cycle = σ.cycle ∧
      (elapse σ).extra = σ.extra ∧ (elapse σ).initial = σ.initial ∧
      (elapse σ).pending = σ.pending ∧ (elapse σ).active = σ.active ∧
      (elapse σ).recovery = σ.recovery ∧ (elapse σ).coordination = σ.coordination := by
  unfold elapse Signal.serveWalk
  split <;> exact ⟨rfl, rfl, rfl, rfl, rfl, rfl, rfl, rfl, rfl, rfl⟩

theorem startGreen_coordination (σ : Signal) (nsGreen : Int) (d : Direction) :
    (σ.startGreen nsGreen d).coordination = σ.coordination := by
  unfold Signal.startGreen Signal.planFor Signal.plan
  rw [startStage_coordination]
  split <;> rfl

theorem Idle.startGreen {σ : Signal} (h : Idle σ) (nsGreen : Int) (d : Direction) :
    Idle (σ.startGreen nsGreen d) :=
  ⟨(startGreen_pending ..).trans h.pending, (startGreen_active ..).trans h.active,
    (startGreen_recovery ..).trans h.recovery, (startGreen_coordination ..).trans h.coordination⟩

theorem idle_elapse {σ : Signal} (h : Idle σ) : Idle (elapse σ) := by
  obtain ⟨-, -, -, -, -, -, hp, ha, hr, hc⟩ := elapse_frame σ
  exact ⟨hp.trans h.pending, ha.trans h.active, hr.trans h.recovery, hc.trans h.coordination⟩

/-- Undisturbed signals after a step. -/
structure GreenStep (σ : Signal) (ticks : Nat) (σ' : Signal) : Prop where
  change : GreenChange σ ticks σ'
  idle : Idle σ'
  initial : σ'.initial = σ.initial

theorem greenStep_refl {σ : Signal} (hidle : Idle σ) : GreenStep σ 0 σ :=
  ⟨.same rfl (by simp) rfl rfl rfl, hidle, rfl⟩

theorem greenStep_press {σ : Signal} (hidle : Idle σ) (d : Direction) :
    GreenStep σ 0 (σ.press d) := by
  unfold Signal.press
  split
  · exact greenStep_refl hidle
  · unfold Signal.cap
    split
    · exact ⟨.same rfl (by simp) rfl rfl rfl,
        ⟨hidle.pending, hidle.active, hidle.recovery, hidle.coordination⟩, rfl⟩
    · rename_i hcond
      obtain ⟨hstage, hlong⟩ := by simpa [not_or] using hcond
      have hbounds := transferable_bounds
        (show 10 < ({ σ with request := Function.update σ.request d true } : Signal).remaining
          from hlong) d
      refine ⟨.transfer d _ rfl hstage rfl (Int.sub_add_cancel _ _) ?_ (Int.sub_add_cancel _ _)
        hbounds.1 rfl rfl,
        ⟨hidle.pending, hidle.active, hidle.recovery, hidle.coordination⟩, rfl⟩
      dsimp only at hbounds ⊢
      omega

theorem greenStep_tick {σ : Signal} (hsafe : SignalSafe σ) (hplan : PlanSafe σ) (hidle : Idle σ)
    (nsGreen : Int) : GreenStep σ 1 (σ.tick nsGreen) := by
  have hrecovery : ¬ 0 < σ.recovery := by
    rw [hidle.recovery]
    decide
  have hroad := hsafe.running hidle.active hrecovery
  have hremaining := (hsafe.remaining hroad).1
  have htick : σ.tick nsGreen = σ.runTick nsGreen := by
    simp [Signal.tick, hidle.pending, hidle.active, hidle.recovery]
  obtain ⟨hstage, hless, hduration, hcycle, hextra, hinitial, -, -, -, hcoordination⟩ :=
    elapse_frame σ
  have hnext := idle_elapse hidle
  rw [htick, runTick_eq hsafe hidle.active hrecovery]
  split
  · have hlast : σ.remaining = 1 := by omega
    unfold Signal.advance
    rw [hstage, hcoordination, hidle.coordination]
    cases hs : σ.stage with
    | hold => exact absurd hs hroad
    | green d =>
        refine ⟨.yellow d rfl hs hlast (startStage_stage ..) (startStage_remaining ..)
          ((startStage_cycle ..).trans hcycle) ((startStage_extra ..).trans hextra), ?_,
          (startStage_initial ..).trans hinitial⟩
        exact ⟨(startStage_pending ..).trans hnext.pending,
          (startStage_active ..).trans hnext.active,
          (startStage_recovery ..).trans hnext.recovery,
          (startStage_coordination ..).trans hnext.coordination⟩
    | yellow d =>
        have hstart := startGreen_spec (hplan.elapse.due (hstage.trans hs)) nsGreen
        exact ⟨.green d rfl hs hlast (hstart.congr hinitial hcycle hextra),
          hnext.startGreen .., hstart.initial.trans hinitial⟩
  · refine ⟨.same hstage ?_ hduration hcycle hextra, hnext, hinitial⟩
    rw [hless]
    simp

theorem greenStep {σ : Signal} (hsafe : SignalSafe σ) (hplan : PlanSafe σ) (hidle : Idle σ)
    {op : SignalOp} (hop : Undisturbing op) : GreenStep σ op.ticks (signalStep σ op) := by
  cases op with
  | idle => exact greenStep_refl hidle
  | clear =>
      have hnothing : signalStep σ .clear = σ := by
        simp [signalStep, Signal.clear, hidle.active, hidle.pending]
      rw [hnothing]
      exact greenStep_refl hidle
  | press d => exact greenStep_press hidle d
  | tick nsGreen => exact greenStep_tick hsafe hplan hidle nsGreen
  | demoTrain | preempt | coordinate | reset => exact hop.elim

/-- The ticks since the first Green of a run, those of the running phase and
the Greens of the initial direction that have followed. -/
structure GreenLog where
  ticks : Nat
  phaseTicks : Nat
  starts : Nat

def GreenLog.start : GreenLog := { ticks := 0, phaseTicks := 0, starts := 0 }

def GreenLog.next (log : GreenLog) (stage stage' : Stage) (initial : Direction) (ticks : Nat) :
    GreenLog where
  ticks := log.ticks + ticks
  phaseTicks := if stage' = stage then log.phaseTicks + ticks else 0
  starts := if stage ≠ .green initial ∧ stage' = .green initial then log.starts + 1
    else log.starts

/-- The tick at which the running stage ends, if its pair has started at tick
`base` apart from the seconds it carried. -/
def dueTick (σ : Signal) (base : Int) : Int :=
  match σ.stage with
  | .green d => base + (if d = σ.initial then σ.cycle d else 42) - σ.extra d.other
  | .yellow d => base + (if d = σ.initial then σ.cycle d + 2 else 44) - σ.extra d.other
  | .hold => base

structure Ledger (σ : Signal) (carried : Int) (log : GreenLog) : Prop where
  safe : SignalSafe σ
  plan : PlanSafe σ
  idle : Idle σ
  due : log.ticks + σ.remaining = dueTick σ (44 * log.starts + carried)
  green : ∀ d, σ.stage = .green d →
    log.phaseTicks + σ.remaining = σ.duration ∧ 10 ≤ σ.duration ∧ σ.duration ≤ 30

/-- What is promised of a step of the signals in `ticks` ticks. -/
structure StepConserves (σ : Signal) (ticks : Nat) (σ' : Signal) (carried : Int)
    (log : GreenLog) : Prop where
  start : σ.stage ≠ .green σ.initial → σ'.stage = .green σ.initial →
    ((log.ticks + ticks : Nat) : Int) = 44 * (log.starts + 1) + carried - σ.extra σ.initial
  limits : ∀ d, σ.stage = .green d → σ'.stage ≠ .green d →
    10 ≤ log.phaseTicks + ticks ∧ log.phaseTicks + ticks ≤ 30
  unclamped : ∀ d, σ.stage ≠ .green d → σ'.stage = .green d →
    clampGreenTime (σ'.cycle d + σ.extra d) = σ'.cycle d + σ.extra d ∧
      σ'.remaining = σ'.cycle d + σ.extra d

theorem StepConserves.same_stage {σ σ' : Signal} {ticks : Nat} {carried : Int} {log : GreenLog}
    (hstage : σ'.stage = σ.stage) : StepConserves σ ticks σ' carried log where
  start hne heq := absurd (hstage.symm.trans heq) hne
  limits _ heq hne := absurd (hstage.trans heq) hne
  unclamped _ hne heq := absurd (hstage.symm.trans heq) hne

theorem next_same_stage (log : GreenLog) (stage : Stage) (initial : Direction) (ticks : Nat) :
    log.next stage stage initial ticks =
      { ticks := log.ticks + ticks, phaseTicks := log.phaseTicks + ticks
        starts := log.starts } := by
  unfold GreenLog.next
  rw [if_pos rfl, if_neg fun h => h.1 h.2]

theorem Ledger.step_yellow {σ σ' : Signal} {carried : Int} {log : GreenLog} {d : Direction}
    (h : Ledger σ carried log) (hstep : GreenStep σ 1 σ') (hsafe : SignalSafe σ')
    (hplan : PlanSafe σ') (hgreen : σ.stage = .green d) (hlast : σ.remaining = 1)
    (hstage : σ'.stage = .yellow d) (hremaining : σ'.remaining = 2) (hcycle : σ'.cycle = σ.cycle)
    (hextra : σ'.extra = σ.extra) :
    Ledger σ' carried (log.next σ.stage σ'.stage σ.initial 1) ∧
      StepConserves σ 1 σ' carried log := by
  have hdue := h.due
  obtain ⟨hsum, hlimits⟩ := h.green d hgreen
  have hstarts : ¬ (σ.stage ≠ .green σ.initial ∧ σ'.stage = .green σ.initial) := by
    simp [hstage]
  refine ⟨⟨hsafe, hplan, hstep.idle, ?_, fun d' hd' => ?_⟩, ⟨fun _ heq => ?_, fun d' hd' _ => ?_,
    fun d' _ hd' => ?_⟩⟩
  · unfold GreenLog.next dueTick at *
    rw [if_neg hstarts, hstage, hremaining, hcycle, hextra, hstep.initial]
    rw [hgreen, hlast] at hdue
    dsimp only at hdue ⊢
    push_cast
    split_ifs at hdue ⊢ <;> omega
  · exact absurd (hstage.symm.trans hd') (by simp)
  · exact absurd (hstage.symm.trans heq) (by simp)
  · omega
  · exact absurd (hstage.symm.trans hd') (by simp)

theorem fresh_green {σ σ' : Signal} {d : Direction} (hstart : GreenStarted σ σ' d)
    (hbefore : σ.stage ≠ .green d) (log : GreenLog) (ticks : Nat) :
    ((log.next σ.stage σ'.stage σ.initial ticks).phaseTicks : Int) + σ'.remaining = σ'.duration ∧
      10 ≤ σ'.duration ∧ σ'.duration ≤ 30 := by
  have hphase : (log.next σ.stage σ'.stage σ.initial ticks).phaseTicks = 0 := by
    unfold GreenLog.next
    rw [if_neg (by simpa [hstart.stage] using hbefore.symm)]
  rw [hphase, hstart.duration]
  exact ⟨Int.zero_add _, hstart.limits⟩

theorem Ledger.step_green {σ σ' : Signal} {carried : Int} {log : GreenLog} {d : Direction}
    (h : Ledger σ carried log) (hstep : GreenStep σ 1 σ') (hsafe : SignalSafe σ')
    (hplan : PlanSafe σ') (hyellow : σ.stage = .yellow d) (hlast : σ.remaining = 1)
    (hstart : GreenStarted σ σ' d.other) :
    Ledger σ' carried (log.next σ.stage σ'.stage σ.initial 1) ∧
      StepConserves σ 1 σ' carried log := by
  have hdue := h.due
  unfold dueTick at hdue
  rw [hyellow, hlast] at hdue
  dsimp only at hdue
  have hpair := hplan.pair d
  have hlater : ∀ d', σ'.stage = .green d' → d' = d.other := by
    intro d' hd'
    exact Stage.green.inj (hd'.symm.trans hstart.stage)
  have hgreen := fresh_green hstart (by simp [hyellow]) log 1
  rcases eq_or_other σ.initial d with rfl | rfl
  · -- The second Green of the pair.
    have hstarts : ¬ (σ.stage ≠ .green σ.initial ∧ σ'.stage = .green σ.initial) := by
      rintro ⟨-, heq⟩
      exact other_ne _ (hlater _ heq).symm
    rw [if_pos rfl] at hdue
    refine ⟨⟨hsafe, hplan, hstep.idle, ?_, fun _ _ => hgreen⟩, ⟨fun _ heq => ?_, fun d' hd' _ => ?_,
      fun d' _ hd' => ?_⟩⟩
    · have hcycle := hstart.second (other_ne _)
      unfold GreenLog.next dueTick
      rw [if_neg hstarts, hstart.stage, hstep.initial]
      dsimp only
      rw [if_neg (other_ne _), other_other, hstart.extra, hstart.remaining]
      rw [hcycle] at hpair ⊢
      push_cast
      omega
    · exact absurd ⟨by simp [hyellow], heq⟩ hstarts
    · exact absurd (hyellow.symm.trans hd') (by simp)
    · obtain rfl := hlater d' hd'
      exact ⟨hstart.unclamped, hstart.remaining⟩
  · -- The first Green of the next pair.
    rw [other_other] at hstart hlater
    rw [if_neg (other_ne _), other_other] at hdue
    have hstarts : σ.stage ≠ .green σ.initial ∧ σ'.stage = .green σ.initial :=
      ⟨by simp [hyellow], hstart.stage⟩
    refine ⟨⟨hsafe, hplan, hstep.idle, ?_, fun _ _ => hgreen⟩, ⟨fun _ _ => ?_, fun d' hd' _ => ?_,
      fun d' _ hd' => ?_⟩⟩
    · unfold GreenLog.next dueTick
      rw [if_pos hstarts, hstart.stage, hstep.initial]
      dsimp only
      rw [if_pos rfl, hstart.extra, hstart.remaining]
      push_cast
      omega
    · push_cast
      omega
    · exact absurd (hyellow.symm.trans hd') (by simp)
    · obtain rfl := hlater d' hd'
      exact ⟨hstart.unclamped, hstart.remaining⟩

theorem Ledger.step {σ σ' : Signal} {ticks : Nat} {carried : Int} {log : GreenLog}
    (h : Ledger σ carried log) (hstep : GreenStep σ ticks σ') (hsafe : SignalSafe σ')
    (hplan : PlanSafe σ') :
    Ledger σ' carried (log.next σ.stage σ'.stage σ.initial ticks) ∧
      StepConserves σ ticks σ' carried log := by
  have hdue := h.due
  cases hstep.change with
  | same hstage hremaining hduration hcycle hextra =>
      refine ⟨?_, .same_stage hstage⟩
      rw [hstage, next_same_stage]
      refine ⟨hsafe, hplan, hstep.idle, ?_, fun d hgreen => ?_⟩
      · have hsame : ∀ base, dueTick σ' base = dueTick σ base := by
          intro base
          unfold dueTick
          rw [hstage, hcycle, hextra, hstep.initial]
        rw [hsame, ← hdue]
        push_cast
        omega
      · obtain ⟨hsum, hlimits⟩ := h.green d (hstage ▸ hgreen)
        rw [hduration]
        refine ⟨?_, hlimits⟩
        push_cast
        omega
  | transfer d seconds hticks hgreen hstage hremaining hleft hduration hseconds hcycle hextra =>
      refine ⟨?_, .same_stage hstage⟩
      subst hticks
      rw [hstage, next_same_stage]
      obtain ⟨hsum, hlimits⟩ := h.green _ hgreen
      refine ⟨hsafe, hplan, hstep.idle, ?_, fun d' _ => ?_⟩
      · unfold dueTick at hdue ⊢
        rw [hstage, hgreen, hcycle, hextra, hstep.initial]
        rw [hgreen] at hdue
        simp only [other_other, Function.update_self] at hdue ⊢
        push_cast
        omega
      · push_cast
        omega
  | yellow d hticks hgreen hlast hstage hremaining hcycle hextra =>
      subst hticks
      exact h.step_yellow hstep hsafe hplan hgreen hlast hstage hremaining hcycle hextra
  | green d hticks hyellow hlast hstart =>
      subst hticks
      exact h.step_green hstep hsafe hplan hyellow hlast hstart

theorem Ledger.of_started {σ σ' : Signal} (hsafe : SignalSafe σ')
    (h : GreenStarted σ σ' σ.initial) (hidle : Idle σ') :
    Ledger σ' (σ.extra σ.initial) .start := by
  refine ⟨hsafe, h.plan, hidle, ?_, fun d hd => ?_⟩
  · unfold dueTick GreenLog.start
    rw [h.stage, h.initial]
    dsimp only
    rw [if_pos rfl, h.extra, h.remaining]
    push_cast
    omega
  · rw [h.duration]
    exact ⟨Int.zero_add _, h.limits⟩

theorem started_of_recovery {σ : Signal} (hplan : PlanSafe σ) (hpending : σ.pending = false)
    (hactive : σ.active = false) (hrecovery : σ.recovery = 1) (hhold : σ.stage = .hold)
    (hcoordination : σ.coordination = none) (nsGreen : Int) :
    GreenStarted σ (σ.tick nsGreen) σ.initial ∧ Idle (σ.tick nsGreen) := by
  obtain ⟨σ₁, hσ₁⟩ : ∃ σ₁ : Signal, σ₁ = Signal.showLights
      { σ with recovery := σ.recovery - 1, stage := .hold, remaining := σ.recovery - 1 } := ⟨_, rfl⟩
  have hzero : σ₁.recovery = 0 := by
    rw [hσ₁, showLights_recovery, hrecovery]
    rfl
  have hinitial : σ₁.initial = σ.initial := by rw [hσ₁, showLights_initial]
  have hcycle : σ₁.cycle = σ.cycle := by rw [hσ₁, showLights_cycle]
  have hextra : σ₁.extra = σ.extra := by rw [hσ₁, showLights_extra]
  have htick : σ.tick nsGreen = σ₁.startGreen nsGreen σ.initial := by
    unfold Signal.tick
    rw [if_neg (by simp [hpending]), if_neg (by simp [hactive]), if_pos (by simp [hrecovery])]
    unfold Signal.recoveryTick
    rw [← hσ₁, if_pos hzero, hinitial]
  rw [htick]
  have hdue : GreenDue σ₁ σ.initial := by
    refine GreenDue.empty ?_ ?_ ?_ ?_
    · rw [hσ₁, showLights_planned]
      exact hplan.planned
    · rw [hcycle]
      exact hplan.cycle
    · rw [hcycle]
      exact hplan.pair
    · rw [hextra]
      exact hplan.hold hhold
  refine ⟨(startGreen_spec hdue nsGreen).congr hinitial hcycle hextra, Idle.startGreen ?_ ..⟩
  refine ⟨?_, ?_, hzero, ?_⟩
  · rw [hσ₁, showLights_pending]
    exact hpending
  · rw [hσ₁, showLights_active]
    exact hactive
  · rw [hσ₁, showLights_coordination]
    exact hcoordination

theorem started_of_tick {σ : Signal} (hsafe : SignalSafe σ) (hplan : PlanSafe σ)
    (hcoordination : σ.coordination = none) {nsGreen : Int} (hbefore : σ.stage ≠ .green σ.initial)
    (hafter : (σ.tick nsGreen).stage = .green σ.initial) :
    GreenStarted σ (σ.tick nsGreen) σ.initial ∧ Idle (σ.tick nsGreen) := by
  have hnot : ∀ stage, stage ≠ .green σ.initial → (σ.tick nsGreen).stage = stage → False :=
    fun stage hne heq => hne (heq.symm.trans hafter)
  cases change_of_tick hsafe nsGreen with
  | keep hstage | second _ _ _ _ hstage => exact (hnot _ hbefore hstage).elim
  | cap d hgreen hstage => exact (hnot _ (hgreen ▸ hbefore) hstage).elim
  | yellow d _ hstart => exact (hnot _ (by simp) hstart.stage).elim
  | held _ hstage | passed _ _ _ _ _ _ hstage | cleared _ _ _ _ hstage =>
      exact (hnot _ (by simp) hstage).elim
  | coordinated _ _ _ _ _ _ _ _ hsome => simp [hcoordination] at hsome
  | reset hop => cases hop
  | restart _ _ hhold hactive hrecovery =>
      have hpending : σ.pending = false := by
        rw [← Bool.not_eq_true]
        intro hp
        obtain ⟨d, hyellow⟩ := hsafe.pending hp
        exact absurd (hhold.symm.trans hyellow) (by simp)
      exact started_of_recovery hplan hpending hactive hrecovery hhold hcoordination nsGreen
  | green _ d _ hyellow hlast hpending =>
      have hheld : ¬ (σ.active = true ∨ 0 < σ.recovery) := fun hheld =>
        absurd ((hsafe.hold.mpr hheld).symm.trans hyellow) (by simp)
      have hidle : Idle σ := by
        refine ⟨hpending, by simpa using fun h => hheld (.inl h), ?_, hcoordination⟩
        have hpositive := hsafe.recovery.1
        have hzero : ¬ 0 < σ.recovery := fun h => hheld (.inr h)
        omega
      have hstep := greenStep_tick hsafe hplan hidle nsGreen
      refine ⟨?_, hstep.idle⟩
      cases hstep.change with
      | same hstage => exact (hnot _ hbefore hstage).elim
      | transfer _ _ hticks => cases hticks
      | yellow _ _ _ _ hstage => exact (hnot _ (by simp) hstage).elim
      | green d' _ _ _ hstart =>
          have hd' : d'.other = σ.initial := Stage.green.inj (hstart.stage.symm.trans hafter)
          exact hd' ▸ hstart

theorem started_of_reset {σ : Signal} (hplan : PlanSafe σ) :
    GreenStarted { σ with extra := fun _ => 0 } σ.reset σ.initial ∧ Idle σ.reset := by
  refine ⟨(startGreen_spec (GreenDue.empty ?_ ?_ ?_ ?_) 20).congr rfl rfl rfl,
    Idle.startGreen ?_ ..⟩
  · exact hplan.planned
  · exact hplan.cycle
  · exact hplan.pair
  · exact fun _ => rfl
  · exact ⟨rfl, rfl, rfl, rfl⟩

/-- Keeps the log of a run. -/
def observeGreens (s : LocalState) (op : LocalOp) (s' : LocalState) (log : GreenLog) :
    GreenLog where
  ticks := log.ticks + ticksOf op
  phaseTicks := if s'.phase = s.phase then log.phaseTicks + ticksOf op else 0
  starts := if s.phase ≠ s.initialPhase ∧ s'.phase = s.initialPhase then log.starts + 1
    else log.starts

/-- A state in which a Green of the initial phase starts, and the pedestrian
seconds it has consumed. -/
inductive InitialGreenStart : LocalState → Int → Prop
  | boot (intersectionId : UInt8) (draws : Draws) :
      InitialGreenStart (localStateInit intersectionId draws) 0
  | tick {s : LocalState} (draws : Draws) (hs : Reachable Booted localStep s)
      (hcoordination : s.coordinationPending = false) (hbefore : s.phase ≠ s.initialPhase)
      (hafter : (localStep s (.trafficTick draws)).phase = s.initialPhase) :
      InitialGreenStart (localStep s (.trafficTick draws)) (s.pedExtra s.initialDirection)
  | reset {s : LocalState} (draws : Draws) (hs : Reachable Booted localStep s) :
      InitialGreenStart (localStep s (.input ['r'] draws)) 0

/-- No train, no coordination command and no reset. -/
def Undisturbed (s : LocalState) (op : LocalOp) : Prop :=
  startsTrain s op = false ∧ coordinates op = false ∧ resets op = false

/-- The promises on a step of a run whose first Green consumed `carried`
seconds: when the next Green of the initial phase starts, how long a Green that
ends has been, and that the clamp changes nothing. -/
structure GreensConserved (carried : Int) (w : LocalState × GreenLog) (op : LocalOp) : Prop where
  start : w.1.phase ≠ w.1.initialPhase → (localStep w.1 op).phase = w.1.initialPhase →
    ((w.2.ticks + ticksOf op : Nat) : Int) =
      44 * (w.2.starts + 1) + carried - w.1.pedExtra w.1.initialDirection
  limits : ∀ d, w.1.phase = greenOf d → (localStep w.1 op).phase ≠ greenOf d →
    greenMinSec ≤ ((w.2.phaseTicks + ticksOf op : Nat) : Int) ∧
      ((w.2.phaseTicks + ticksOf op : Nat) : Int) ≤ greenMaxSec
  unclamped : ∀ d, w.1.phase ≠ greenOf d → (localStep w.1 op).phase = greenOf d →
    clampGreenTime ((localStep w.1 op).cycleGreen d + w.1.pedExtra d) =
        (localStep w.1 op).cycleGreen d + w.1.pedExtra d ∧
      (localStep w.1 op).timeRemaining = (localStep w.1 op).cycleGreen d + w.1.pedExtra d

/-- No Green of the initial phase is late. -/
def GreensOnTime (carried : Int) (w : LocalState × GreenLog) : Prop :=
  (w.2.ticks : Int) < 44 * (w.2.starts + 1) + carried

structure LocalLedger (carried : Int) (s : LocalState) (log : GreenLog) : Prop where
  safe : LocalSafe s
  ledger : Ledger (signalOf s) carried log

theorem planSafe_reachable {s : LocalState} (h : Reachable Booted localStep s) :
    PlanSafe (signalOf s) := by
  refine (h.invariant (I := fun s => LocalSafe s ∧ PlanSafe (signalOf s)) ?_ ?_).2
  · rintro s ⟨intersectionId, draws, rfl⟩
    refine ⟨localSafe_init intersectionId draws, ?_⟩
    rw [signalOf_init]
    exact PlanSafe.empty rfl (by simp) (by simp) (by simp)
  · rintro s op ⟨hsafe, hplan⟩
    refine ⟨hsafe.step op, ?_⟩
    rw [hsafe.signalOf_step]
    exact hplan.step hsafe.signal _

theorem phase_eq_initial {s : LocalState} (hs : Settings s) (p : Phase) :
    p = s.initialPhase ↔ stageOf p = .green (signalOf s).initial := by
  rw [signalOf_initial hs]
  exact (stageOf_eq_green _ _).symm

theorem observeGreens_eq {s : LocalState} (hs : Settings s) (op : LocalOp) (s' : LocalState)
    (log : GreenLog) :
    observeGreens s op s' log =
      log.next (signalOf s).stage (signalOf s').stage (signalOf s).initial (ticksOf op) := by
  have hsame : (signalOf s').stage = (signalOf s).stage ↔ s'.phase = s.phase :=
    stageOf_injective.eq_iff
  unfold observeGreens GreenLog.next
  simp only [hsame, ne_eq, phase_eq_initial hs]
  rfl

theorem undisturbing_signalOp {s : LocalState} {op : LocalOp} (hstart : startsTrain s op = false)
    (hcoordinate : ∀ base offset, signalOp s op ≠ .coordinate base offset)
    (hreset : resets op = false) : Undisturbing (signalOp s op) := by
  cases hop : signalOp s op with
  | idle | tick | press | clear => trivial
  | demoTrain =>
      exact absurd ((startsTrain_of_signalOp (.inl hop)).symm.trans hstart) (by decide)
  | preempt eta =>
      exact absurd ((startsTrain_of_signalOp (.inr ⟨eta, hop⟩)).symm.trans hstart) (by decide)
  | coordinate base offset => exact absurd hop (hcoordinate base offset)
  | reset => exact absurd hop (noReset hreset)

theorem undisturbing_of_undisturbed {s : LocalState} {op : LocalOp} (h : Undisturbed s op) :
    Undisturbing (signalOp s op) := by
  obtain ⟨hstart, hcoordinates, hreset⟩ := h
  refine undisturbing_signalOp hstart (fun base offset hop => ?_) hreset
  exact absurd ((coordinates_of_signalOp hop).symm.trans hcoordinates) (by decide)

theorem LocalLedger.step {carried : Int} {s : LocalState} {log : GreenLog}
    (h : LocalLedger carried s log) {op : LocalOp} (hop : Undisturbed s op) :
    LocalLedger carried (localStep s op) (observeGreens s op (localStep s op) log) ∧
      GreensConserved carried (s, log) op := by
  have hnext := h.safe.step op
  have hsettings := h.safe.settings
  have hgreens := greenStep h.safe.signal h.ledger.plan h.ledger.idle
    (undisturbing_of_undisturbed hop)
  rw [← h.safe.signalOf_step, signalOp_ticks] at hgreens
  have hplan : PlanSafe (signalOf (localStep s op)) := by
    rw [h.safe.signalOf_step]
    exact h.ledger.plan.step h.safe.signal _
  obtain ⟨hledger, hstep⟩ := h.ledger.step hgreens hnext.signal hplan
  refine ⟨⟨hnext, ?_⟩, ⟨fun hbefore hafter => ?_, fun d hgreen hend => ?_,
    fun d hbefore hafter => ?_⟩⟩
  · rw [observeGreens_eq hsettings]
    exact hledger
  · refine hstep.start ?_ ?_
    · exact fun heq => hbefore ((phase_eq_initial hsettings _).mpr heq)
    · exact (phase_eq_initial hsettings _).mp hafter
  · have hlimits := hstep.limits d ((stageOf_eq_green _ _).mpr hgreen)
      (fun heq => hend ((stageOf_eq_green _ _).mp heq))
    simp only [greenMinSec, greenMaxSec]
    omega
  · exact hstep.unclamped d (fun heq => hbefore ((stageOf_eq_green _ _).mp heq))
      ((stageOf_eq_green _ _).mpr hafter)

theorem LocalLedger.onTime {carried : Int} {s : LocalState} {log : GreenLog}
    (h : LocalLedger carried s log) : GreensOnTime carried (s, log) := by
  have hdue := h.ledger.due
  have hroad : (signalOf s).stage ≠ .hold := by
    refine h.safe.signal.running h.ledger.idle.active ?_
    rw [h.ledger.idle.recovery]
    decide
  have hremaining := (h.safe.signal.remaining hroad).1
  have hbound : dueTick (signalOf s) (44 * log.starts + carried) ≤
      44 * log.starts + carried + 44 := by
    unfold dueTick
    cases hstage : (signalOf s).stage with
    | hold => exact absurd hstage hroad
    | green d | yellow d =>
        have hcycle := (h.ledger.plan.cycle d).2
        have hextra := h.ledger.plan.extra d.other
        dsimp only
        split <;> omega
  unfold GreensOnTime
  dsimp only
  omega

theorem LocalLedger.of_start {s : LocalState} {carried : Int} (h : InitialGreenStart s carried) :
    LocalLedger carried s .start := by
  cases h with
  | boot intersectionId draws =>
      have hsafe := localSafe_init intersectionId draws
      refine ⟨hsafe, hsafe.signal, planSafe_reachable (.init ⟨_, _, rfl⟩), ?_, ?_, ?_⟩
      · rw [signalOf_init]
        exact ⟨rfl, rfl, rfl, rfl⟩
      · rw [signalOf_init]
        simp [dueTick, GreenLog.start]
      · rw [signalOf_init]
        simp [GreenLog.start]
  | @tick s draws hs hcoordination hbefore hafter =>
      have hsafe := localSafe_reachable hs
      have hnext := hsafe.step (.trafficTick draws)
      have hsignal := hsafe.signalOf_step (.trafficTick draws)
      have hnone : (signalOf s).coordination = none := by simp [signalOf, hcoordination]
      have hgreen : (signalOf (localStep s (.trafficTick draws))).stage =
          .green (signalOf s).initial := (phase_eq_initial hsafe.settings _).mp hafter
      rw [hsignal] at hgreen
      have hstart := started_of_tick hsafe.signal (planSafe_reachable hs) hnone
        (fun heq => hbefore ((phase_eq_initial hsafe.settings _).mpr heq)) hgreen
      refine ⟨hnext, Ledger.of_started (σ := signalOf s) hnext.signal ?_ ?_⟩
      · rw [hsignal]
        exact hstart.1
      · rw [hsignal]
        exact hstart.2
  | @reset s draws hs =>
      have hsafe := localSafe_reachable hs
      have hnext := hsafe.step (.input ['r'] draws)
      have hstart := started_of_reset (planSafe_reachable hs)
      refine ⟨hnext, Ledger.of_started (σ := { signalOf s with extra := fun _ => 0 })
        hnext.signal ?_ ?_⟩
      · rw [hsafe.signalOf_step]
        exact hstart.1
      · rw [hsafe.signalOf_step]
        exact hstart.2

/-- From any start of an initial Green in which no coordination command lands, as long as
only ticks, sensors, pedestrians and modes act, every Green has the length of its
allocation and its carried seconds, and the pairs start every 44 seconds apart from the
seconds that are carried over their boundary. -/
theorem greensConserved_of_start {s : LocalState} {carried : Int}
    (hs : InitialGreenStart s carried) {ops : List LocalOp}
    (hops : Along localStep Undisturbed s ops) :
    Along (watch localStep observeGreens) (GreensConserved carried) (s, .start) ops ∧
      Throughout (watch localStep observeGreens) (GreensOnTime carried) (s, .start) ops := by
  have hwatch := (along_watch localStep observeGreens _ (s, .start) ops).mpr hops
  have hstart := LocalLedger.of_start hs
  have hstep : ∀ w op, LocalLedger carried w.1 w.2 → Undisturbed w.1 op →
      LocalLedger carried (watch localStep observeGreens w op).1
        (watch localStep observeGreens w op).2 :=
    fun w op hledger hop => (hledger.step hop).1
  refine ⟨hwatch.of_invariant (I := fun w => LocalLedger carried w.1 w.2) hstep ?_ hstart, ?_⟩
  · exact fun w op hledger hop => (hledger.step hop).2
  · exact hwatch.throughout (I := GreensOnTime carried)
      (J := fun w => LocalLedger carried w.1 w.2) hstep (fun w hledger => hledger.onTime) hstart

theorem undisturbed_tick (s : LocalState) (draws : Draws) : Undisturbed s (.trafficTick draws) :=
  ⟨rfl, rfl, rfl⟩

theorem undisturbed_ticks (s : LocalState) (n : Nat) :
    Along localStep Undisturbed s (List.replicate n (.trafficTick .zero)) := by
  induction n generalizing s with
  | zero => trivial
  | succ n ih => exact ⟨undisturbed_tick s .zero, ih _⟩

/-- Pedestrians of both directions in the first minute of I1. The one for EW comes in the
Green of NS, so that the second pair starts early. -/
def pressesRun : List LocalOp :=
  [.input ['n'] .zero, .trafficTick .zero] ++ List.replicate 24 (.trafficTick .zero) ++
    .input ['e'] .zero :: List.replicate 20 (.trafficTick .zero)

theorem greensConserved_of_start_presses :
    let s := localStateInit 0 .zero
    Along (watch localStep observeGreens) (GreensConserved 0) (s, .start) pressesRun ∧
      Throughout (watch localStep observeGreens) (GreensOnTime 0) (s, .start) pressesRun ∧
        (run (watch localStep observeGreens) (s, .start) pressesRun).2.starts = 1 := by
  have hops : Along localStep Undisturbed (localStateInit 0 .zero) pressesRun := by
    rw [pressesRun, along_append, along_append]
    exact ⟨⟨⟨⟨by decide, by decide, by decide⟩, undisturbed_tick _ _, trivial⟩,
      undisturbed_ticks _ 24⟩, ⟨by decide +kernel, by decide, by decide⟩, undisturbed_ticks _ 20⟩
  have hgreens := greensConserved_of_start (.boot 0 .zero) hops
  exact ⟨hgreens.1, hgreens.2, by decide +kernel⟩

/-- A command to go on in the sixteenth second of the EW Green. -/
def landingFrame : TestMessage :=
  frameOf msgCoordinationCommand controllerCentral controllerLocal
    [0, TrafficLightMode.fixed.toByte, Phase.ewGreen.toByte, 0, 15, 0, 1, 0]

/-- The last second of the first pair, with the command pending. -/
def landingState : LocalState :=
  run localStep (localStateInit 0 .zero)
    (List.replicate 43 (.trafficTick .zero) ++ [.frame landingFrame .zero])

/-- A start in which a pending command lands is no such start: only the last five seconds of
the Green are left, and the next pair starts after 29 ticks. -/
theorem greensConserved_landing :
    ¬ ∀ (s : LocalState) (draws : Draws) (ops : List LocalOp), Reachable Booted localStep s →
      s.phase ≠ s.initialPhase → (localStep s (.trafficTick draws)).phase = s.initialPhase →
      Along localStep Undisturbed (localStep s (.trafficTick draws)) ops →
      Along (watch localStep observeGreens) (GreensConserved (s.pedExtra s.initialDirection))
        (localStep s (.trafficTick draws), .start) ops := by
  intro h
  have hreached : Reachable Booted localStep landingState :=
    (Reachable.init ⟨0, .zero, rfl⟩).run _
  have hops : Along localStep Undisturbed (localStep landingState (.trafficTick .zero))
      (List.replicate 28 (.trafficTick .zero) ++ [.trafficTick .zero]) :=
    (along_append ..).mpr ⟨undisturbed_ticks _ 28, undisturbed_tick _ .zero, trivial⟩
  have hgreens := h landingState .zero _ hreached (by decide +kernel) (by decide +kernel) hops
  have hlast := ((along_append ..).mp hgreens).2.1.start
  exact absurd (hlast (by decide +kernel) (by decide +kernel)) (by decide +kernel)

end TrafficLight.GreenTransfer
