import TrafficLight.SignalInvariant

namespace TrafficLight.SignalChanges

open TrafficLight.Protocol
open TrafficLight.LocalTraffic
open TrafficLight.SignalMachine
open TrafficLight.SignalInvariant

/-- Stage `stage` has just started in `σ`. -/
structure Started (σ : Signal) (stage : Stage) : Prop where
  stage : σ.stage = stage
  full : σ.duration = σ.remaining

inductive Change (σ : Signal) (op : SignalOp) (σ' : Signal) : Prop
  /-- No second passes and no stage ends. -/
  | keep (hstage : σ'.stage = σ.stage) (hremaining : σ'.remaining = σ.remaining)
      (hduration : σ'.duration = σ.duration) (hop : ∀ nsGreen, op ≠ .tick nsGreen)
  | cap (d : Direction) (hgreen : σ.stage = .green d) (hstage : σ'.stage = .green d)
      (helapsed : σ'.duration - σ'.remaining = σ.duration - σ.remaining)
      (hremaining : 10 ≤ σ'.remaining) (hop : ∀ nsGreen, op ≠ .tick nsGreen)
  | second (nsGreen : Int) (hop : op = .tick nsGreen) (hroad : σ.stage ≠ .hold)
      (hlong : 1 < σ.remaining) (hstage : σ'.stage = σ.stage)
      (hremaining : σ'.remaining = σ.remaining - 1) (hduration : σ'.duration = σ.duration)
  | yellow (d : Direction) (hgreen : σ.stage = .green d) (hstart : Started σ' (.yellow d))
      (hremaining : σ'.remaining = 2)
  | green (nsGreen : Int) (d : Direction) (hop : op = .tick nsGreen)
      (hyellow : σ.stage = .yellow d) (hlast : σ.remaining = 1) (hpending : σ.pending = false)
      (hcoordination : σ.coordination = none) (hstart : Started σ' (.green d.other))
  /-- A coordination command takes the place of the next Green. -/
  | coordinated (nsGreen : Int) (d base : Direction) (offset : Int) (hop : op = .tick nsGreen)
      (hyellow : σ.stage = .yellow d) (hlast : σ.remaining = 1) (hpending : σ.pending = false)
      (hcoordination : σ.coordination = some (base, offset))
      (hstart : Started σ' (cyclePosition base offset).1)
      (hremaining : σ'.remaining = (cyclePosition base offset).2)
  | held (hhold : σ.stage = .hold) (hstage : σ'.stage = .hold)
  | passed (nsGreen : Int) (d : Direction) (hop : op = .tick nsGreen)
      (hyellow : σ.stage = .yellow d) (hlast : σ.remaining = 1) (hpending : σ.pending = true)
      (hstage : σ'.stage = .hold)
  /-- A clear message ends the Yellow of a train that was on its way. -/
  | cleared (d : Direction) (hop : op = .clear) (hyellow : σ.stage = .yellow d)
      (hpending : σ.pending = true) (hstage : σ'.stage = .hold)
  | restart (nsGreen : Int) (hop : op = .tick nsGreen) (hhold : σ.stage = .hold)
      (hactive : σ.active = false) (hrecovery : σ.recovery = 1)
      (hstart : Started σ' (.green σ.initial))
  | reset (hop : op = .reset) (hstart : Started σ' (.green σ.initial))

@[simp] theorem showLights_stage (σ : Signal) : σ.showLights.stage = σ.stage := by
  unfold Signal.showLights
  split <;> rfl

@[simp] theorem showLights_remaining (σ : Signal) : σ.showLights.remaining = σ.remaining := by
  unfold Signal.showLights
  split <;> rfl

@[simp] theorem showLights_duration (σ : Signal) : σ.showLights.duration = σ.duration := by
  unfold Signal.showLights
  split <;> rfl

@[simp] theorem startStage_remaining (σ : Signal) (stage : Stage) (duration : Int) :
    (σ.startStage stage duration).remaining = duration :=
  showLights_remaining _

@[simp] theorem showLights_initial (σ : Signal) : σ.showLights.initial = σ.initial := by
  unfold Signal.showLights
  split <;> rfl

@[simp] theorem showLights_active (σ : Signal) : σ.showLights.active = σ.active := by
  unfold Signal.showLights
  split <;> rfl

@[simp] theorem showLights_pending (σ : Signal) : σ.showLights.pending = σ.pending := by
  unfold Signal.showLights
  split <;> rfl

@[simp] theorem showLights_waiting (σ : Signal) : σ.showLights.waiting = σ.waiting := by
  unfold Signal.showLights
  split <;> rfl

@[simp] theorem showLights_recovery (σ : Signal) : σ.showLights.recovery = σ.recovery := by
  unfold Signal.showLights
  split <;> rfl

@[simp] theorem startStage_active (σ : Signal) (stage : Stage) (duration : Int) :
    (σ.startStage stage duration).active = σ.active :=
  showLights_active _

@[simp] theorem startStage_pending (σ : Signal) (stage : Stage) (duration : Int) :
    (σ.startStage stage duration).pending = σ.pending :=
  showLights_pending _

@[simp] theorem startStage_waiting (σ : Signal) (stage : Stage) (duration : Int) :
    (σ.startStage stage duration).waiting = σ.waiting :=
  showLights_waiting _

@[simp] theorem startStage_recovery (σ : Signal) (stage : Stage) (duration : Int) :
    (σ.startStage stage duration).recovery = σ.recovery :=
  showLights_recovery _

@[simp] theorem showLights_coordination (σ : Signal) :
    σ.showLights.coordination = σ.coordination := by
  unfold Signal.showLights
  split <;> rfl

@[simp] theorem startStage_coordination (σ : Signal) (stage : Stage) (duration : Int) :
    (σ.startStage stage duration).coordination = σ.coordination :=
  showLights_coordination _

@[simp] theorem startGreen_active (σ : Signal) (nsGreen : Int) (d : Direction) :
    (σ.startGreen nsGreen d).active = σ.active := by
  unfold Signal.startGreen Signal.planFor Signal.plan
  rw [startStage_active]
  split <;> rfl

@[simp] theorem startGreen_pending (σ : Signal) (nsGreen : Int) (d : Direction) :
    (σ.startGreen nsGreen d).pending = σ.pending := by
  unfold Signal.startGreen Signal.planFor Signal.plan
  rw [startStage_pending]
  split <;> rfl

@[simp] theorem startGreen_recovery (σ : Signal) (nsGreen : Int) (d : Direction) :
    (σ.startGreen nsGreen d).recovery = σ.recovery := by
  unfold Signal.startGreen Signal.planFor Signal.plan
  rw [startStage_recovery]
  split <;> rfl

@[simp] theorem press_active (σ : Signal) (d : Direction) : (σ.press d).active = σ.active := by
  unfold Signal.press Signal.cap
  split_ifs <;> rfl

@[simp] theorem press_pending (σ : Signal) (d : Direction) :
    (σ.press d).pending = σ.pending := by
  unfold Signal.press Signal.cap
  split_ifs <;> rfl

@[simp] theorem press_waiting (σ : Signal) (d : Direction) :
    (σ.press d).waiting = σ.waiting := by
  unfold Signal.press Signal.cap
  split_ifs <;> rfl

@[simp] theorem press_recovery (σ : Signal) (d : Direction) :
    (σ.press d).recovery = σ.recovery := by
  unfold Signal.press Signal.cap
  split_ifs <;> rfl

theorem started_startStage (σ : Signal) (stage : Stage) (duration : Int) :
    Started (σ.startStage stage duration) stage where
  stage := showLights_stage _
  full := by
    unfold Signal.startStage
    simp

theorem started_startGreen (σ : Signal) (nsGreen : Int) (d : Direction) :
    Started (σ.startGreen nsGreen d) (.green d) :=
  started_startStage _ _ _

theorem change_of_elapse {σ : Signal} {nsGreen : Int} (hroad : σ.stage ≠ .hold)
    (hlong : 1 < σ.remaining) : Change σ (.tick nsGreen) (elapse σ) := by
  have hkeep : (elapse σ).stage = σ.stage ∧ (elapse σ).remaining = σ.remaining - 1 ∧
      (elapse σ).duration = σ.duration := by
    unfold elapse Signal.serveWalk
    split <;> exact ⟨rfl, rfl, rfl⟩
  exact .second nsGreen rfl hroad hlong hkeep.1 hkeep.2.1 hkeep.2.2

theorem change_of_advance {σ : Signal} {nsGreen : Int} (h : SignalSafe σ)
    (hpending : σ.pending = false) (hactive : σ.active = false) (hrecovery : ¬ 0 < σ.recovery)
    (hlast : σ.remaining ≤ 1) :
    Change σ (.tick nsGreen) ((elapse σ).advance nsGreen) := by
  have hroad := h.running hactive hrecovery
  have hremaining := (h.remaining hroad).1
  have hstage : (elapse σ).stage = σ.stage ∧ (elapse σ).coordination = σ.coordination := by
    unfold elapse Signal.serveWalk
    split <;> exact ⟨rfl, rfl⟩
  unfold Signal.advance
  rw [hstage.1, hstage.2]
  cases hs : σ.stage with
  | hold => exact absurd hs hroad
  | green d => exact .yellow d hs (started_startStage ..) (startStage_remaining ..)
  | yellow d =>
      cases hc : σ.coordination with
      | none =>
          exact .green nsGreen d rfl hs (by omega) hpending hc (started_startGreen ..)
      | some target =>
          obtain ⟨base, offset⟩ := target
          obtain ⟨h0, h44⟩ := h.coordination base offset hc
          dsimp only
          unfold Signal.coordinate
          rw [Int.tmod_eq_of_lt h0 h44]
          exact .coordinated nsGreen d base offset rfl hs (by omega) hpending hc
            (started_startStage ..) (startStage_remaining ..)

theorem change_of_tick {σ : Signal} (h : SignalSafe σ) (nsGreen : Int) :
    Change σ (.tick nsGreen) (σ.tick nsGreen) := by
  unfold Signal.tick
  split
  case isTrue hpending =>
    obtain ⟨⟨d, hstage⟩, -, -, hremaining, -⟩ := h.pending_stage hpending
    rw [pendingTick_eq h hpending]
    split
    · refine .passed nsGreen d rfl hstage ?_ hpending (started_startStage ..).stage
      omega
    · exact .second nsGreen rfl (by simp [hstage]) (by omega) rfl rfl rfl
  case isFalse hpending =>
    split
    case isTrue hactive =>
      refine .held (h.hold.mpr (.inl hactive)) ?_
      unfold Signal.activeTick
      dsimp only
      split_ifs
      · exact showLights_stage _
      · unfold Signal.clear
        rw [if_pos (.inl hactive)]
        exact (started_startStage ..).stage
      · exact (started_startStage ..).stage
    case isFalse hactive =>
      split
      case isTrue hrecovery =>
        have hhold := h.hold.mpr (.inr hrecovery)
        unfold Signal.recoveryTick
        dsimp only
        rw [showLights_recovery, showLights_initial]
        split
        · rename_i hzero
          refine .restart nsGreen rfl hhold (by simpa using hactive) ?_ (started_startGreen ..)
          dsimp only at hzero
          omega
        · exact .held hhold (showLights_stage _)
      case isFalse hrecovery =>
        have hinactive : σ.active = false := by simpa using hactive
        rw [runTick_eq h hinactive hrecovery]
        split
        · exact change_of_advance h (by simpa using hpending) hinactive hrecovery (by assumption)
        · exact change_of_elapse (h.running hinactive hrecovery) (by omega)

theorem change_of_startTrain {σ : Signal} {op : SignalOp}
    (hop : ∀ nsGreen, op ≠ .tick nsGreen) (waiting : Bool) (pass : Int) :
    Change σ op (σ.startTrain waiting pass) := by
  unfold Signal.startTrain
  split
  · exact .keep rfl rfl rfl hop
  · dsimp only
    split
    case h_1 d hstage => exact .yellow d hstage (started_startStage ..) (startStage_remaining ..)
    case h_2 => exact .keep rfl rfl rfl hop
    case h_3 hstage => exact .held hstage (started_startStage ..).stage

theorem change_of_clear {σ : Signal} (h : SignalSafe σ) : Change σ .clear σ.clear := by
  unfold Signal.clear
  split
  case isTrue hbusy =>
    rcases hbusy with hactive | hpending
    · exact .held (h.hold.mpr (.inl hactive)) (started_startStage ..).stage
    · obtain ⟨d, hstage⟩ := h.pending hpending
      exact .cleared d rfl hstage hpending (started_startStage ..).stage
  case isFalse => exact .keep rfl rfl rfl (by simp)

theorem change_of_press {σ : Signal} (d : Direction) : Change σ (.press d) (σ.press d) := by
  unfold Signal.press
  split
  · exact .keep rfl rfl rfl (by simp)
  · unfold Signal.cap
    split
    · exact .keep rfl rfl rfl (by simp)
    · rename_i hcond
      obtain ⟨hstage, hlong⟩ := by simpa [not_or] using hcond
      have hbounds := transferable_bounds
        (show 10 < ({ σ with request := Function.update σ.request d true } : Signal).remaining
          from hlong) d
      refine .cap d.other hstage hstage ?_ ?_ (by simp)
      · dsimp only
        omega
      · dsimp only at hbounds ⊢
        omega

theorem signalStep_change {σ : Signal} (h : SignalSafe σ) (op : SignalOp) :
    Change σ op (signalStep σ op) := by
  cases op with
  | idle => exact .keep rfl rfl rfl (by simp)
  | tick nsGreen => exact change_of_tick h nsGreen
  | press d => exact change_of_press d
  | demoTrain => exact change_of_startTrain (by simp) ..
  | preempt eta =>
      unfold signalStep Signal.preempt
      dsimp only
      split_ifs
      · rename_i hactive
        exact .held (h.hold.mpr (.inl hactive)) (started_startStage ..).stage
      · exact .keep rfl rfl rfl (by simp)
      · exact change_of_startTrain (by simp) ..
  | clear => exact change_of_clear h
  | coordinate base offset => exact .keep rfl rfl rfl (by simp)
  | reset => exact .reset rfl (started_startGreen ..)

end TrafficLight.SignalChanges
