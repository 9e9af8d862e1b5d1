import TrafficLight.SignalChanges

namespace TrafficLight.GreenPlan

open TrafficLight.Protocol
open TrafficLight.LocalData
open TrafficLight.LocalTraffic
open TrafficLight.SignalMachine
open TrafficLight.SignalInvariant
open TrafficLight.SignalChanges

/-- The allocations of the pair and the seconds carried to the next Green. The
Green of the initial direction comes first in a pair. -/
structure PlanSafe (σ : Signal) : Prop where
  planned : σ.planned = true
  cycle : ∀ d, 10 ≤ σ.cycle d ∧ σ.cycle d ≤ 30
  pair : ∀ d : Direction, σ.cycle d + σ.cycle d.other = 40
  extra : ∀ d, 0 ≤ σ.extra d
  first : σ.stage = .green σ.initial ∨ σ.stage = .yellow σ.initial →
    σ.extra σ.initial = 0 ∧ σ.cycle σ.initial.other + σ.extra σ.initial.other ≤ 30
  second : σ.stage = .green σ.initial.other ∨ σ.stage = .yellow σ.initial.other →
    σ.extra σ.initial.other = 0 ∧ σ.extra σ.initial ≤ 20
  hold : σ.stage = .hold → ∀ d, σ.extra d = 0
  pending : σ.pending = true → ∀ d, σ.extra d = 0

@[simp] theorem startStage_initial (σ : Signal) (stage : Stage) (duration : Int) :
    (σ.startStage stage duration).initial = σ.initial :=
  showLights_initial _

@[simp] theorem showLights_cycle (σ : Signal) : σ.showLights.cycle = σ.cycle := by
  unfold Signal.showLights
  split <;> rfl

@[simp] theorem startStage_cycle (σ : Signal) (stage : Stage) (duration : Int) :
    (σ.startStage stage duration).cycle = σ.cycle :=
  showLights_cycle _

@[simp] theorem showLights_extra (σ : Signal) : σ.showLights.extra = σ.extra := by
  unfold Signal.showLights
  split <;> rfl

@[simp] theorem startStage_extra (σ : Signal) (stage : Stage) (duration : Int) :
    (σ.startStage stage duration).extra = σ.extra :=
  showLights_extra _

@[simp] theorem showLights_planned (σ : Signal) : σ.showLights.planned = σ.planned := by
  unfold Signal.showLights
  split <;> rfl

@[simp] theorem startStage_planned (σ : Signal) (stage : Stage) (duration : Int) :
    (σ.startStage stage duration).planned = σ.planned :=
  showLights_planned _

@[simp] theorem startStage_stage (σ : Signal) (stage : Stage) (duration : Int) :
    (σ.startStage stage duration).stage = stage :=
  (started_startStage ..).stage

theorem other_ne (d : Direction) : d.other ≠ d := by
  cases d <;> decide

theorem other_other (d : Direction) : d.other.other = d := by
  cases d <;> rfl

theorem eq_or_other (d d' : Direction) : d' = d ∨ d' = d.other := by
  cases d <;> cases d' <;> decide

theorem PlanSafe.congr {σ σ' : Signal} (h : PlanSafe σ) (hplanned : σ'.planned = σ.planned)
    (hcycle : σ'.cycle = σ.cycle) (hextra : σ'.extra = σ.extra) (hstage : σ'.stage = σ.stage)
    (hinitial : σ'.initial = σ.initial) (hpending : σ'.pending = true → σ.pending = true) :
    PlanSafe σ' := by
  refine ⟨hplanned.trans h.planned, ?_, ?_, ?_, ?_, ?_, ?_, ?_⟩
  · rw [hcycle]
    exact h.cycle
  · rw [hcycle]
    exact h.pair
  · rw [hextra]
    exact h.extra
  · rw [hextra, hcycle, hstage, hinitial]
    exact h.first
  · rw [hextra, hstage, hinitial]
    exact h.second
  · rw [hextra, hstage]
    exact h.hold
  · rw [hextra]
    exact fun hp => h.pending (hpending hp)

theorem PlanSafe.empty {σ : Signal} (hplanned : σ.planned = true)
    (hcycle : ∀ d, 10 ≤ σ.cycle d ∧ σ.cycle d ≤ 30)
    (hpair : ∀ d : Direction, σ.cycle d + σ.cycle d.other = 40) (hextra : ∀ d, σ.extra d = 0) :
    PlanSafe σ := by
  refine ⟨hplanned, hcycle, hpair, fun d => (hextra d).ge, fun _ => ⟨hextra _, ?_⟩,
    fun _ => ⟨hextra _, ?_⟩, fun _ => hextra, fun _ => hextra⟩
  · rw [hextra, add_zero]
    exact (hcycle _).2
  · rw [hextra]
    decide

theorem plan_spec {σ : Signal} (hextra : ∀ d, 0 ≤ σ.extra d)
    (hroom : σ.extra .ns + σ.extra .ew ≤ 20) (nsGreen : Int) :
    let σ' := σ.plan nsGreen
    (∀ d, 10 ≤ σ'.cycle d ∧ σ'.cycle d ≤ 30) ∧
      (∀ d : Direction, σ'.cycle d + σ'.cycle d.other = 40) ∧
        ∀ d, σ'.cycle d + σ.extra d ≤ 30 := by
  have hns := hextra .ns
  have hew := hextra .ew
  refine ⟨?_, ?_, ?_⟩
  all_goals
    intro d
    cases d <;> simp only [Signal.plan, Direction.other, greenMinSec, greenMaxSec, greenBaseSec] <;>
      omega

theorem clampGreenTime_of_mem {seconds : Int} (h10 : 10 ≤ seconds) (h30 : seconds ≤ 30) :
    clampGreenTime seconds = seconds := by
  unfold clampGreenTime greenMinSec greenMaxSec
  split_ifs <;> omega

/-- The next Green is that of `d`, with room for the seconds it carries. -/
structure GreenDue (σ : Signal) (d : Direction) : Prop where
  planned : σ.planned = true
  cycle : ∀ d, 10 ≤ σ.cycle d ∧ σ.cycle d ≤ 30
  pair : ∀ d : Direction, σ.cycle d + σ.cycle d.other = 40
  extra : ∀ d, 0 ≤ σ.extra d
  other : σ.extra d.other = 0
  room : if d = σ.initial then σ.extra d ≤ 20 else σ.cycle d + σ.extra d ≤ 30

/-- A Green that is due gets its allocation and the seconds it carries. -/
structure GreenStarted (σ σ' : Signal) (d : Direction) : Prop where
  stage : σ'.stage = .green d
  initial : σ'.initial = σ.initial
  unclamped : clampGreenTime (σ'.cycle d + σ.extra d) = σ'.cycle d + σ.extra d
  remaining : σ'.remaining = σ'.cycle d + σ.extra d
  duration : σ'.duration = σ'.remaining
  limits : 10 ≤ σ'.remaining ∧ σ'.remaining ≤ 30
  extra : ∀ d, σ'.extra d = 0
  plan : PlanSafe σ'
  second : d ≠ σ.initial → σ'.cycle = σ.cycle

theorem GreenStarted.congr {σ₁ σ σ' : Signal} {d : Direction} (h : GreenStarted σ₁ σ' d)
    (hinitial : σ₁.initial = σ.initial) (hcycle : σ₁.cycle = σ.cycle)
    (hextra : σ₁.extra = σ.extra) : GreenStarted σ σ' d :=
  ⟨h.stage, h.initial.trans hinitial, hextra ▸ h.unclamped, hextra ▸ h.remaining, h.duration,
    h.limits, h.extra, h.plan, fun hne => (h.second (hinitial ▸ hne)).trans hcycle⟩

theorem planFor_spec {σ : Signal} {d : Direction} (h : GreenDue σ d) (nsGreen : Int) :
    let σ' := σ.planFor nsGreen d
    σ'.planned = true ∧ (∀ d, 10 ≤ σ'.cycle d ∧ σ'.cycle d ≤ 30) ∧
      (∀ d : Direction, σ'.cycle d + σ'.cycle d.other = 40) ∧ σ'.cycle d + σ.extra d ≤ 30 ∧
        (d ≠ σ.initial → σ'.cycle = σ.cycle) := by
  unfold Signal.planFor
  have hroom := h.room
  by_cases hd : d = σ.initial
  · rw [if_pos hd] at hroom
    have hsum : σ.extra .ns + σ.extra .ew ≤ 20 := by
      have hother := h.other
      cases d <;> simp only [Direction.other] at hother <;> omega
    obtain ⟨hcycle, hpair, hfit⟩ := plan_spec h.extra hsum nsGreen
    dsimp only
    rw [if_pos (.inr hd)]
    exact ⟨rfl, hcycle, hpair, hfit d, fun hne => absurd hd hne⟩
  · rw [if_neg hd] at hroom
    dsimp only
    rw [if_neg (by simp [h.planned, hd])]
    exact ⟨h.planned, h.cycle, h.pair, hroom, fun _ => rfl⟩

theorem planFor_frame (σ : Signal) (nsGreen : Int) (d : Direction) :
    (σ.planFor nsGreen d).extra = σ.extra ∧ (σ.planFor nsGreen d).initial = σ.initial := by
  unfold Signal.planFor Signal.plan
  split <;> exact ⟨rfl, rfl⟩

theorem startGreen_spec {σ : Signal} {d : Direction} (h : GreenDue σ d) (nsGreen : Int) :
    GreenStarted σ (σ.startGreen nsGreen d) d := by
  obtain ⟨hplanned, hcycle, hpair, hfit, hsecond⟩ := planFor_spec h nsGreen
  obtain ⟨hextra, hinitial⟩ := planFor_frame σ nsGreen d
  have hlimits : 10 ≤ (σ.planFor nsGreen d).cycle d + σ.extra d := by
    have := (hcycle d).1
    have := h.extra d
    omega
  have hclamp := clampGreenTime_of_mem hlimits hfit
  have hcycle' : (σ.startGreen nsGreen d).cycle = (σ.planFor nsGreen d).cycle :=
    startStage_cycle ..
  have hzero : ∀ d', (σ.startGreen nsGreen d).extra d' = 0 := by
    intro d'
    have hupdate : (σ.startGreen nsGreen d).extra = Function.update σ.extra d 0 := by
      rw [← hextra]
      exact startStage_extra ..
    rw [hupdate]
    rcases eq_or_other d d' with rfl | rfl
    · exact Function.update_self ..
    · rw [Function.update_of_ne (other_ne d), h.other]
  have hremaining : (σ.startGreen nsGreen d).remaining =
      (σ.startGreen nsGreen d).cycle d + σ.extra d := by
    rw [hcycle']
    unfold Signal.startGreen
    rw [startStage_remaining, hextra, hclamp]
  refine ⟨startStage_stage .., ?_, ?_, hremaining, (started_startGreen ..).full, ?_, hzero, ?_, ?_⟩
  · exact (startStage_initial ..).trans hinitial
  · rw [hcycle', hclamp]
  · rw [hremaining, hcycle']
    exact ⟨hlimits, hfit⟩
  · refine PlanSafe.empty ((startStage_planned ..).trans hplanned) ?_ ?_ hzero
    · rw [hcycle']
      exact hcycle
    · rw [hcycle']
      exact hpair
  · intro hne
    rw [hcycle', hsecond hne]

theorem PlanSafe.due {σ : Signal} (h : PlanSafe σ) {d : Direction} (hstage : σ.stage = .yellow d) :
    GreenDue σ d.other := by
  rcases eq_or_other σ.initial d with rfl | rfl
  · obtain ⟨hextra, hroom⟩ := h.first (.inr hstage)
    refine ⟨h.planned, h.cycle, h.pair, h.extra, ?_, ?_⟩
    · rw [other_other]
      exact hextra
    · rw [if_neg (other_ne _)]
      exact hroom
  · obtain ⟨hextra, hroom⟩ := h.second (.inr hstage)
    refine ⟨h.planned, h.cycle, h.pair, h.extra, ?_, ?_⟩
    · rw [other_other]
      exact hextra
    · rw [if_pos (other_other _), other_other]
      exact hroom

theorem GreenDue.empty {σ : Signal} {d : Direction} (hplanned : σ.planned = true)
    (hcycle : ∀ d, 10 ≤ σ.cycle d ∧ σ.cycle d ≤ 30)
    (hpair : ∀ d : Direction, σ.cycle d + σ.cycle d.other = 40) (hextra : ∀ d, σ.extra d = 0) :
    GreenDue σ d := by
  refine ⟨hplanned, hcycle, hpair, fun d => (hextra d).ge, hextra _, ?_⟩
  rw [hextra, add_zero]
  split
  · decide
  · exact (hcycle d).2

theorem PlanSafe.cap {σ : Signal} (h : PlanSafe σ) (d : Direction)
    (hyellow : σ.pending = true → ∃ d', σ.stage = .yellow d') : PlanSafe (σ.cap d) := by
  unfold Signal.cap
  split
  · exact h
  · rename_i hcond
    obtain ⟨hstage, hlong⟩ : σ.stage = .green d.other ∧ 10 < σ.remaining := by
      simpa [not_or] using hcond
    have hnonneg := (transferable_bounds hlong d).1
    have hother : ∀ d', d' ≠ d → Function.update σ.extra d (σ.extra d + σ.transferable d) d' =
        σ.extra d' := fun d' hne => Function.update_of_ne hne ..
    have hself : Function.update σ.extra d (σ.extra d + σ.transferable d) d =
        σ.extra d + σ.transferable d := Function.update_self ..
    have hextra : ∀ d', 0 ≤ Function.update σ.extra d (σ.extra d + σ.transferable d) d' := by
      intro d'
      have := h.extra d'
      rcases eq_or_ne d' d with rfl | hne
      · rw [hself]
        omega
      · rw [hother d' hne]
        exact this
    refine ⟨h.planned, h.cycle, h.pair, hextra, fun hfirst => ?_, fun hsecond => ?_,
      fun hhold => absurd (hstage.symm.trans hhold) (by simp), fun hpending => ?_⟩
    -- from the first Green seconds go to the second one of this pair, which is planned
    · obtain rfl : d = σ.initial.other := by
        have hinitial : d.other = σ.initial := by simpa [hstage] using hfirst
        rw [← hinitial, other_other]
      obtain ⟨hzero, hroom⟩ := h.first (.inl (by rw [hstage, other_other]))
      dsimp only
      rw [hself, hother _ (other_ne σ.initial).symm]
      refine ⟨hzero, ?_⟩
      unfold Signal.transferable
      rw [if_pos ⟨other_other _, h.planned⟩]
      simp only [greenMaxSec]
      omega
    -- from the second Green they go to the next pair, which is not planned yet
    · obtain rfl : d = σ.initial := by
        have hinitial : d.other = σ.initial.other := by simpa [hstage] using hsecond
        rw [← other_other d, hinitial, other_other]
      obtain ⟨hzero, hroom⟩ := h.second (.inl hstage)
      dsimp only
      rw [hself, hother _ (other_ne σ.initial)]
      refine ⟨hzero, ?_⟩
      have hsum : σ.extra .ns + σ.extra .ew = σ.extra σ.initial := by
        cases hi : σ.initial <;> rw [hi] at hzero <;> simp only [Direction.other] at hzero <;> omega
      unfold Signal.transferable
      rw [if_neg (by simp [other_ne])]
      simp only [greenMaxSec, greenMinSec]
      omega
    · obtain ⟨d', hyellow'⟩ := hyellow hpending
      exact absurd (hstage.symm.trans hyellow') (by simp)

theorem PlanSafe.press {σ : Signal} (h : PlanSafe σ) (hsafe : SignalSafe σ) (d : Direction) :
    PlanSafe (σ.press d) := by
  unfold Signal.press
  split
  · exact h
  · refine PlanSafe.cap ?_ d hsafe.pending
    exact h.congr rfl rfl rfl rfl rfl id

theorem PlanSafe.startTrain {σ : Signal} (h : PlanSafe σ) (waiting : Bool) (pass : Int) :
    PlanSafe (σ.startTrain waiting pass) := by
  unfold Signal.startTrain
  split
  · exact h
  · dsimp only
    split
    · refine PlanSafe.empty ?_ ?_ ?_ ?_ <;> simp [h.planned, h.cycle, h.pair]
    · exact PlanSafe.empty h.planned h.cycle h.pair fun _ => rfl
    · refine PlanSafe.empty ?_ ?_ ?_ ?_ <;> simp [h.planned, h.cycle, h.pair]

theorem PlanSafe.clear {σ : Signal} (h : PlanSafe σ) : PlanSafe σ.clear := by
  unfold Signal.clear
  split
  · refine PlanSafe.empty ?_ ?_ ?_ ?_ <;> simp [h.planned, h.cycle, h.pair]
  · exact h

theorem PlanSafe.startHold {σ : Signal} {duration : Int} (h : PlanSafe σ)
    (hextra : ∀ d, σ.extra d = 0) : PlanSafe (σ.startStage .hold duration) := by
  refine PlanSafe.empty ?_ ?_ ?_ ?_ <;> simp [h.planned, h.cycle, h.pair, hextra]

theorem PlanSafe.startYellow {σ : Signal} (h : PlanSafe σ) {d : Direction} {duration : Int}
    (hstage : σ.stage = .green d) (hpending : σ.pending = false) :
    PlanSafe (σ.startStage (.yellow d) duration) := by
  refine ⟨by simp [h.planned], by simp [h.cycle], by simp [h.pair], by simp [h.extra],
    fun hfirst => ?_, fun hsecond => ?_, by simp, by simp [hpending]⟩
  · have hinitial : d = σ.initial := by simpa using hfirst
    simpa using h.first (.inl (by rw [hstage, hinitial]))
  · have hother : d = σ.initial.other := by simpa using hsecond
    simpa using h.second (.inl (by rw [hstage, hother]))

theorem PlanSafe.advance {σ : Signal} (h : PlanSafe σ) (hpending : σ.pending = false)
    (nsGreen : Int) : PlanSafe (σ.advance nsGreen) := by
  unfold Signal.advance
  split
  case h_1 d hstage => exact h.startYellow hstage hpending
  case h_2 =>
    unfold Signal.coordinate
    exact PlanSafe.empty (startStage_planned ..) (by simp) (by simp) (by simp)
  case h_3 d hstage _ => exact (startGreen_spec (h.due hstage) nsGreen).plan
  case h_4 hstage =>
    exact (startGreen_spec (GreenDue.empty h.planned h.cycle h.pair (h.hold hstage)) nsGreen).plan

theorem PlanSafe.elapse {σ : Signal} (h : PlanSafe σ) : PlanSafe (elapse σ) := by
  unfold SignalInvariant.elapse Signal.serveWalk
  split <;> exact h.congr rfl rfl rfl rfl rfl id

theorem PlanSafe.tick {σ : Signal} (h : PlanSafe σ) (hsafe : SignalSafe σ) (nsGreen : Int) :
    PlanSafe (σ.tick nsGreen) := by
  unfold Signal.tick
  split_ifs with hpending hactive hrecovery
  · rw [pendingTick_eq hsafe hpending]
    split
    · refine PlanSafe.empty ?_ ?_ ?_ ?_ <;> simp [h.planned, h.cycle, h.pair, h.pending hpending]
    · exact h.congr rfl rfl rfl rfl rfl id
  · have hextra := h.hold (hsafe.hold.mpr (.inl hactive))
    have hcount : PlanSafe σ.countPass := h.congr rfl rfl rfl rfl rfl id
    unfold Signal.activeTick
    dsimp only
    split_ifs
    · refine PlanSafe.empty ?_ ?_ ?_ ?_
      all_goals simp [Signal.countPass, h.planned, h.cycle, h.pair, hextra]
    · exact hcount.clear
    · exact hcount.startHold hextra
  · have hextra := h.hold (hsafe.hold.mpr (.inr hrecovery))
    unfold Signal.recoveryTick
    dsimp only
    split
    · refine (startGreen_spec (GreenDue.empty ?_ ?_ ?_ ?_) nsGreen).plan
      all_goals simp [h.planned, h.cycle, h.pair, hextra]
    · refine PlanSafe.empty ?_ ?_ ?_ ?_ <;> simp [h.planned, h.cycle, h.pair, hextra]
  · have hpending' : (SignalInvariant.elapse σ).pending = false := by
      unfold SignalInvariant.elapse Signal.serveWalk
      split <;> simpa using hpending
    rw [runTick_eq hsafe (by simpa using hactive) hrecovery]
    split
    · exact h.elapse.advance hpending' nsGreen
    · exact h.elapse

theorem PlanSafe.step {σ : Signal} (h : PlanSafe σ) (hsafe : SignalSafe σ) (op : SignalOp) :
    PlanSafe (signalStep σ op) := by
  cases op with
  | idle | coordinate => exact h.congr rfl rfl rfl rfl rfl id
  | tick nsGreen => exact h.tick hsafe nsGreen
  | press d => exact h.press hsafe d
  | demoTrain => exact h.startTrain ..
  | preempt eta =>
      unfold signalStep Signal.preempt
      dsimp only
      split_ifs with hbusy hactive
      · refine PlanSafe.startHold ?_ (h.hold (hsafe.hold.mpr (.inl hactive)))
        exact h.congr rfl rfl rfl rfl rfl id
      · exact h.congr rfl rfl rfl rfl rfl id
      · exact h.startTrain ..
  | clear => exact h.clear
  | reset =>
      refine (startGreen_spec (GreenDue.empty ?_ ?_ ?_ ?_) 20).plan
      · exact h.planned
      · exact h.cycle
      · exact h.pair
      · exact fun _ => rfl

end TrafficLight.GreenPlan
