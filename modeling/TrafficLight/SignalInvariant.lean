import TrafficLight.SignalMachine

namespace TrafficLight.SignalInvariant

open TrafficLight.Protocol
open TrafficLight.LocalData
open TrafficLight.LocalTraffic
open TrafficLight.SignalMachine

structure SignalSafe (σ : Signal) : Prop where
  light : σ.light = σ.stage.lamp
  hold : σ.stage = .hold ↔ σ.active = true ∨ 0 < σ.recovery
  pending : σ.pending = true → ∃ d, σ.stage = .yellow d
  active : σ.active = true → σ.recovery = 0
  waiting : σ.waiting = true → σ.active = true ∨ σ.pending = true
  recovery : 0 ≤ σ.recovery ∧ σ.recovery ≤ 2
  remaining : σ.stage ≠ .hold → 0 < σ.remaining ∧ σ.remaining ≤ σ.duration
  yellow : ∀ d, σ.stage = .yellow d → σ.duration ≤ 2
  walk : ∀ d, σ.walk d = true →
    σ.stage = .green d.other ∧ 1 ≤ σ.duration - σ.remaining ∧ 5 < σ.remaining
  coordination : ∀ base offset, σ.coordination = some (base, offset) → 0 ≤ offset ∧ offset < 44

theorem showLights_eq {σ : Signal} (h : σ.active = true ∨ 0 < σ.recovery → σ.stage = .hold) :
    σ.showLights =
      { σ with
        light := σ.stage.lamp
        walk := if σ.stage = .hold then fun _ => false else σ.walk } := by
  unfold Signal.showLights
  by_cases hhold : σ.stage = .hold
  · rw [if_pos (.inr (.inr hhold)), if_pos hhold, hhold]
    rfl
  · rw [if_neg, if_neg hhold]
    rintro (hactive | hrecovery | hstage)
    · exact hhold (h (.inl hactive))
    · exact hhold (h (.inr hrecovery))
    · exact hhold hstage

theorem startStage_eq {σ : Signal} {stage : Stage}
    (h : σ.active = true ∨ 0 < σ.recovery → stage = .hold) (duration : Int) :
    σ.startStage stage duration =
      { σ with
        stage, duration, remaining := duration, light := stage.lamp
        walk := fun _ => false } := by
  unfold Signal.startStage
  rw [showLights_eq h]
  simp

theorem SignalSafe.startStage {σ : Signal} {stage : Stage} {duration : Int}
    (hhold : stage = .hold ↔ σ.active = true ∨ 0 < σ.recovery)
    (hpending : σ.pending = true → ∃ d, stage = .yellow d)
    (hactive : σ.active = true → σ.recovery = 0)
    (hwaiting : σ.waiting = true → σ.active = true ∨ σ.pending = true)
    (hrecovery : 0 ≤ σ.recovery ∧ σ.recovery ≤ 2)
    (hduration : stage ≠ .hold → 0 < duration) (hyellow : ∀ d, stage = .yellow d → duration ≤ 2)
    (hcoordination : ∀ base offset, σ.coordination = some (base, offset) →
      0 ≤ offset ∧ offset < 44) :
    SignalSafe (σ.startStage stage duration) := by
  rw [startStage_eq hhold.mpr]
  exact ⟨rfl, hhold, hpending, hactive, hwaiting, hrecovery,
    fun h => ⟨hduration h, le_rfl⟩, hyellow,
    fun _ (h : false = true) => absurd h (by decide), hcoordination⟩

theorem clampGreenTime_bounds (seconds : Int) :
    10 ≤ clampGreenTime seconds ∧ clampGreenTime seconds ≤ 30 := by
  unfold clampGreenTime greenMinSec greenMaxSec
  split_ifs <;> omega

theorem SignalSafe.startGreen {σ : Signal} {nsGreen : Int} {d : Direction}
    (hpending : σ.pending = false) (hactive : σ.active = false) (hwaiting : σ.waiting = false)
    (hrecovery : σ.recovery = 0)
    (hcoordination : ∀ base offset, σ.coordination = some (base, offset) →
      0 ≤ offset ∧ offset < 44) :
    SignalSafe (σ.startGreen nsGreen d) := by
  have hplan : ∀ σ' : Signal, σ' = σ.planFor nsGreen d → σ'.pending = false ∧
      σ'.active = false ∧ σ'.waiting = false ∧ σ'.recovery = 0 ∧
        σ'.coordination = σ.coordination := by
    rintro _ rfl
    unfold Signal.planFor Signal.plan
    split <;> exact ⟨hpending, hactive, hwaiting, hrecovery, rfl⟩
  obtain ⟨hp, ha, hw, hr, hc⟩ := hplan _ rfl
  unfold Signal.startGreen
  have hbounds := clampGreenTime_bounds
    ((σ.planFor nsGreen d).cycle d + (σ.planFor nsGreen d).extra d)
  refine SignalSafe.startStage ?_ ?_ ?_ ?_ ?_ ?_ ?_ ?_
  · simp [ha, hr]
  · simp [hp]
  · simp [ha]
  · simp [hw]
  · simp [hr]
  · intro
    omega
  · simp
  · exact hc ▸ hcoordination

theorem SignalSafe.startHold {σ : Signal} {duration : Int} (h : SignalSafe σ)
    (hheld : σ.active = true) : SignalSafe (σ.startStage .hold duration) := by
  refine SignalSafe.startStage ?_ ?_ h.active h.waiting h.recovery ?_ ?_ h.coordination
  · simp [hheld]
  · intro hpending
    obtain ⟨d, hstage⟩ := h.pending hpending
    have hhold := h.hold.mpr (.inl hheld)
    rw [hstage] at hhold
    exact Stage.noConfusion hhold
  · simp
  · simp

theorem SignalSafe.running {σ : Signal} (h : SignalSafe σ) (hactive : σ.active = false)
    (hrecovery : ¬ 0 < σ.recovery) : σ.stage ≠ .hold := by
  intro hhold
  rcases h.hold.mp hhold with h' | h'
  · rw [hactive] at h'
    exact Bool.noConfusion h'
  · exact hrecovery h'

theorem SignalSafe.not_waiting {σ : Signal} (h : SignalSafe σ) (hactive : σ.active = false)
    (hpending : σ.pending = false) : σ.waiting = false := by
  rw [← Bool.not_eq_true]
  intro hwaiting
  rcases h.waiting hwaiting with h' | h'
  · exact Bool.noConfusion (h'.symm.trans hactive)
  · exact Bool.noConfusion (h'.symm.trans hpending)

theorem showLights_self {σ : Signal} (hlight : σ.light = σ.stage.lamp)
    (hheld : σ.active = true ∨ 0 < σ.recovery → σ.stage = .hold) (hroad : σ.stage ≠ .hold) :
    σ.showLights = σ := by
  rw [showLights_eq hheld, if_neg hroad, ← hlight]

/-- The next second of a stage, before the stage may end. -/
def elapse (σ : Signal) : Signal :=
  { σ with remaining := σ.remaining - 1 }.serveWalk

theorem runTick_eq {σ : Signal} (h : SignalSafe σ) (hactive : σ.active = false)
    (hrecovery : ¬ 0 < σ.recovery) (nsGreen : Int) :
    σ.runTick nsGreen =
      if σ.remaining ≤ 1 then (elapse σ).advance nsGreen else elapse σ := by
  have hremaining := (h.remaining (h.running hactive hrecovery)).1
  have hshow : σ.countDown.showLights = { σ with remaining := σ.remaining - 1 } := by
    unfold Signal.countDown
    rw [if_pos hremaining]
    exact showLights_self h.light h.hold.mpr (h.running hactive hrecovery)
  have hrest : ∀ σ' : Signal, σ'.serveWalk.remaining = σ'.remaining := by
    intro σ'
    unfold Signal.serveWalk
    split <;> rfl
  unfold Signal.runTick
  dsimp only
  rw [hshow, hrest]
  unfold elapse
  dsimp only
  exact if_congr (by omega) rfl rfl

theorem SignalSafe.elapse {σ : Signal} (h : SignalSafe σ) (hactive : σ.active = false)
    (hrecovery : ¬ 0 < σ.recovery) (hpositive : 1 < σ.remaining) :
    SignalSafe (elapse σ) := by
  obtain ⟨-, hduration⟩ := h.remaining (h.running hactive hrecovery)
  unfold SignalInvariant.elapse Signal.serveWalk
  rw [if_neg (by simp [hactive, hrecovery])]
  refine ⟨h.light, h.hold, h.pending, h.active, h.waiting, h.recovery, fun _ => ?_, h.yellow,
    fun d hd => ?_, h.coordination⟩
  · dsimp only
    omega
  · simpa [Signal.serves] using hd

theorem cyclePosition_bounds (base : Direction) {position : Int} (h0 : 0 ≤ position)
    (h44 : position < 44) :
    (cyclePosition base position).1 ≠ .hold ∧ 0 < (cyclePosition base position).2 ∧
      ∀ d, (cyclePosition base position).1 = .yellow d → (cyclePosition base position).2 ≤ 2 := by
  unfold cyclePosition
  split_ifs <;> refine ⟨by simp, by dsimp only; omega, ?_⟩ <;> simp <;> omega

theorem SignalSafe.advance {σ : Signal} (hactive : σ.active = false)
    (hpending : σ.pending = false) (hwaiting : σ.waiting = false) (hrecovery : σ.recovery = 0)
    (hcoordination : ∀ base offset, σ.coordination = some (base, offset) →
      0 ≤ offset ∧ offset < 44) (nsGreen : Int) :
    SignalSafe (σ.advance nsGreen) := by
  unfold Signal.advance
  split
  · refine SignalSafe.startStage ?_ ?_ ?_ ?_ ?_ ?_ ?_ hcoordination <;>
      simp [hactive, hpending, hwaiting, hrecovery]
  · rename_i base offset _ hpoint
    obtain ⟨h0, h44⟩ := hcoordination base offset hpoint
    have hmod : offset.tmod 44 = offset := Int.tmod_eq_of_lt h0 h44
    obtain ⟨hroad, hpositive, hyellow⟩ := cyclePosition_bounds base h0 h44
    unfold Signal.coordinate
    rw [hmod]
    generalize cyclePosition base offset = target at hroad hpositive hyellow ⊢
    refine SignalSafe.startStage ?_ ?_ ?_ ?_ ?_ ?_ hyellow ?_ <;>
      simp [hactive, hpending, hwaiting, hrecovery, hroad, hpositive]
  · exact SignalSafe.startGreen hpending hactive hwaiting hrecovery hcoordination
  · exact SignalSafe.startGreen hpending hactive hwaiting hrecovery hcoordination

theorem SignalSafe.clear {σ : Signal} (h : SignalSafe σ) : SignalSafe σ.clear := by
  unfold Signal.clear
  split
  · refine SignalSafe.startStage ?_ ?_ ?_ ?_ ?_ ?_ ?_ h.coordination <;> simp [railwayRecoverySec]
  · exact h

theorem SignalSafe.pending_stage {σ : Signal} (h : SignalSafe σ) (hpending : σ.pending = true) :
    (∃ d, σ.stage = .yellow d) ∧ σ.active = false ∧ σ.recovery = 0 ∧ 0 < σ.remaining ∧
      ∀ d, σ.walk d = false := by
  obtain ⟨d, hstage⟩ := h.pending hpending
  have hroad : σ.stage ≠ .hold := by simp [hstage]
  have hheld : ¬ (σ.active = true ∨ 0 < σ.recovery) := fun hheld => hroad (h.hold.mpr hheld)
  have hrecovery := h.recovery.1
  refine ⟨⟨d, hstage⟩, ?_, ?_, (h.remaining hroad).1, fun d' => ?_⟩
  · simpa using fun hactive => hheld (.inl hactive)
  · have hzero : ¬ 0 < σ.recovery := fun h' => hheld (.inr h')
    omega
  · rw [← Bool.not_eq_true]
    intro hwalk
    have hgreen := (h.walk d' hwalk).1
    rw [hstage] at hgreen
    exact Stage.noConfusion hgreen

theorem pendingTick_eq {σ : Signal} (h : SignalSafe σ) (hpending : σ.pending = true) :
    σ.pendingTick =
      if σ.remaining ≤ 1 then
        { σ with
          remaining := σ.remaining - 1, pending := false, active := true }.startStage .hold 0
      else { σ with remaining := σ.remaining - 1 } := by
  obtain ⟨⟨d, hstage⟩, -, -, hremaining, -⟩ := h.pending_stage hpending
  have hshow : σ.countDown.showLights = { σ with remaining := σ.remaining - 1 } := by
    unfold Signal.countDown
    rw [if_pos hremaining]
    exact showLights_self h.light h.hold.mpr (by simp [hstage])
  unfold Signal.pendingTick
  dsimp only
  rw [hshow]
  exact if_congr (by dsimp only; omega) rfl rfl

theorem SignalSafe.pendingTick {σ : Signal} (h : SignalSafe σ) (hpending : σ.pending = true) :
    SignalSafe σ.pendingTick := by
  obtain ⟨⟨d, hstage⟩, hactive, hrecovery, hremaining, hwalk⟩ := h.pending_stage hpending
  have hduration := (h.remaining (by simp [hstage])).2
  rw [pendingTick_eq h hpending]
  split
  · refine SignalSafe.startStage ?_ ?_ ?_ ?_ ?_ ?_ ?_ h.coordination <;> simp [hrecovery]
  · refine ⟨h.light, h.hold, h.pending, h.active, h.waiting, h.recovery, fun _ => ?_, h.yellow,
      fun d hd => ?_, h.coordination⟩
    · dsimp only
      omega
    · exact absurd hd (by simp [hwalk d])

theorem SignalSafe.activeTick {σ : Signal} (h : SignalSafe σ) (hactive : σ.active = true) :
    SignalSafe σ.activeTick := by
  have hcount : SignalSafe σ.countPass := by
    exact ⟨h.light, h.hold, h.pending, h.active, h.waiting, h.recovery, h.remaining, h.yellow,
      h.walk, h.coordination⟩
  have hhold : σ.stage = .hold := h.hold.mpr (.inl hactive)
  unfold Signal.activeTick
  dsimp only
  split_ifs
  · have heq : ∀ σ' : Signal, SignalSafe σ' → σ'.active = true → ∀ rest,
        SignalSafe { σ' with stage := .hold, remaining := rest }.showLights := by
      intro σ' h' hactive' rest
      rw [showLights_eq (fun _ => rfl)]
      refine ⟨rfl, by simp [hactive'], fun hpending => ?_, h'.active, h'.waiting, h'.recovery,
        fun hroad => absurd rfl hroad, fun d hd => Stage.noConfusion hd, ?_, h'.coordination⟩
      · obtain ⟨d, hstage⟩ := h'.pending hpending
        exact absurd (h'.hold.mpr (.inl hactive')) (by simp [hstage])
      · simp
    exact heq _ hcount hactive _
  · exact hcount.clear
  · exact hcount.startHold hactive

theorem SignalSafe.recoveryTick {σ : Signal} (h : SignalSafe σ) (hpending : σ.pending = false)
    (hactive : σ.active = false) (hrecovery : 0 < σ.recovery) (nsGreen : Int) :
    SignalSafe (σ.recoveryTick nsGreen) := by
  have hwaiting := h.not_waiting hactive hpending
  have hbound := h.recovery
  unfold Signal.recoveryTick
  rw [showLights_eq (fun _ => rfl)]
  dsimp only
  split
  · exact SignalSafe.startGreen hpending hactive hwaiting (by assumption) h.coordination
  · refine ⟨rfl, ?_, ?_, ?_, ?_, ?_, fun hroad => absurd rfl hroad,
      fun d hd => Stage.noConfusion hd, ?_, h.coordination⟩
    · simp
      omega
    · simp [hpending]
    · simp [hactive]
    · simp [hwaiting]
    · dsimp only
      omega
    · simp

theorem SignalSafe.runTick {σ : Signal} (h : SignalSafe σ) (hpending : σ.pending = false)
    (hactive : σ.active = false) (hrecovery : ¬ 0 < σ.recovery) (nsGreen : Int) :
    SignalSafe (σ.runTick nsGreen) := by
  rw [runTick_eq h hactive hrecovery]
  split
  · have hzero := h.recovery.1
    have hwaiting := h.not_waiting hactive hpending
    have hkeep : (SignalInvariant.elapse σ).active = false ∧
        (SignalInvariant.elapse σ).pending = false ∧
        (SignalInvariant.elapse σ).waiting = false ∧ (SignalInvariant.elapse σ).recovery = 0 ∧
        (SignalInvariant.elapse σ).coordination = σ.coordination := by
      unfold SignalInvariant.elapse Signal.serveWalk
      split <;> exact ⟨hactive, hpending, hwaiting, by dsimp only; omega, rfl⟩
    obtain ⟨ha, hp, hw, hr, hc⟩ := hkeep
    exact SignalSafe.advance ha hp hw hr (hc ▸ h.coordination) nsGreen
  · exact h.elapse hactive hrecovery (by omega)

theorem SignalSafe.tick {σ : Signal} (h : SignalSafe σ) (nsGreen : Int) :
    SignalSafe (σ.tick nsGreen) := by
  unfold Signal.tick
  split
  · exact h.pendingTick (by assumption)
  · split
    · exact h.activeTick (by assumption)
    · split
      · exact h.recoveryTick (by simp_all) (by simp_all) (by assumption) nsGreen
      · exact h.runTick (by simp_all) (by simp_all) (by assumption) nsGreen

theorem SignalSafe.startTrain {σ : Signal} (h : SignalSafe σ) (waiting : Bool) (pass : Int) :
    SignalSafe (σ.startTrain waiting pass) := by
  unfold Signal.startTrain
  by_cases hbusy : σ.active = true ∨ σ.pending = true
  · rw [if_pos hbusy]
    exact h
  · have hactive : σ.active = false := by simpa using fun h' => hbusy (.inl h')
    rw [if_neg hbusy]
    dsimp only
    split
    · refine SignalSafe.startStage ?_ ?_ ?_ ?_ ?_ ?_ ?_ h.coordination <;> simp [hactive]
    · rename_i d hstage
      have hroad : σ.stage ≠ .hold := by simp [hstage]
      exact ⟨h.light, by simp [hstage, hactive], fun _ => ⟨d, hstage⟩, by simp [hactive],
        by simp, by simp, h.remaining, h.yellow, h.walk, h.coordination⟩
    · refine SignalSafe.startStage ?_ ?_ ?_ ?_ ?_ ?_ ?_ h.coordination <;> simp

theorem SignalSafe.preempt {σ : Signal} (h : SignalSafe σ) (eta : Int) :
    SignalSafe (σ.preempt eta) := by
  unfold Signal.preempt
  by_cases hbusy : σ.active = true ∨ σ.pending = true
  · have hwait : SignalSafe { σ with waiting := true, pass := eta } :=
      ⟨h.light, h.hold, h.pending, h.active, fun _ => hbusy, h.recovery, h.remaining, h.yellow,
        h.walk, h.coordination⟩
    rw [if_pos hbusy]
    dsimp only
    split
    · exact hwait.startHold (by assumption)
    · exact hwait
  · rw [if_neg hbusy]
    exact h.startTrain true eta

theorem transferable_bounds {σ : Signal} (h : 10 < σ.remaining) (d : Direction) :
    0 ≤ σ.transferable d ∧ σ.transferable d ≤ σ.remaining - 10 := by
  unfold Signal.transferable
  dsimp only
  omega

theorem SignalSafe.cap {σ : Signal} (h : SignalSafe σ) (d : Direction) :
    SignalSafe (σ.cap d) := by
  unfold Signal.cap
  split
  · exact h
  · rename_i hcond
    obtain ⟨hstage, hlong⟩ : σ.stage = .green d.other ∧ 10 < σ.remaining := by
      simpa [not_or] using hcond
    obtain ⟨hnonneg, hle⟩ := transferable_bounds hlong d
    have hremaining := h.remaining (by simp [hstage])
    refine ⟨h.light, h.hold, h.pending, h.active, h.waiting, h.recovery, fun _ => ?_,
      fun d' hd' => ?_, fun d' hd' => ?_, h.coordination⟩
    · dsimp only
      omega
    · exact absurd hd' (by simp [hstage])
    · obtain ⟨hserves, helapsed, hleft⟩ := h.walk d' hd'
      refine ⟨hserves, ?_, ?_⟩
      · dsimp only
        omega
      · dsimp only
        omega

theorem SignalSafe.press {σ : Signal} (h : SignalSafe σ) (d : Direction) :
    SignalSafe (σ.press d) := by
  unfold Signal.press
  split
  · exact h
  · have hrequest : SignalSafe { σ with request := Function.update σ.request d true } :=
      ⟨h.light, h.hold, h.pending, h.active, h.waiting, h.recovery, h.remaining, h.yellow,
        h.walk, h.coordination⟩
    exact hrequest.cap d

/-- Offsets of commands lie within the cycle. -/
def ValidOp : SignalOp → Prop
  | .coordinate _ offset => 0 ≤ offset ∧ offset < 44
  | _ => True

theorem SignalSafe.step {σ : Signal} (h : SignalSafe σ) {op : SignalOp} (hop : ValidOp op) :
    SignalSafe (signalStep σ op) := by
  cases op with
  | idle => exact h
  | tick nsGreen => exact h.tick nsGreen
  | press d => exact h.press d
  | demoTrain => exact h.startTrain false trainPassingSeconds
  | preempt eta => exact h.preempt eta
  | clear => exact h.clear
  | coordinate base offset =>
      refine ⟨h.light, h.hold, h.pending, h.active, h.waiting, h.recovery, h.remaining, h.yellow,
        h.walk, fun base' offset' heq => ?_⟩
      obtain ⟨rfl, rfl⟩ := Prod.mk.inj (Option.some.inj heq)
      exact hop
  | reset =>
      unfold signalStep Signal.reset
      exact SignalSafe.startGreen rfl rfl rfl rfl (by simp)

theorem SignalSafe.one_red {σ : Signal} (h : SignalSafe σ) :
    σ.light .ns = .red ∨ σ.light .ew = .red := by
  rw [h.light]
  cases σ.stage with
  | green d | yellow d => cases d <;> simp [Stage.lamp]
  | hold => exact .inl rfl

end TrafficLight.SignalInvariant
