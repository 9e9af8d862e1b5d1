import TrafficLight.LocalCommands

namespace TrafficLight.RailwayHold

open TrafficLight.Runs
open TrafficLight.Protocol
open TrafficLight.LocalData
open TrafficLight.LocalTraffic
open TrafficLight.LocalMessages
open TrafficLight.LocalCore
open TrafficLight.SignalMachine
open TrafficLight.SignalView
open TrafficLight.SignalRefinement
open TrafficLight.SignalInvariant
open TrafficLight.SignalChanges
open TrafficLight.LocalSafety
open TrafficLight.LocalCommands

theorem preempt_starts {σ : Signal} (h : SignalSafe σ) (eta : Int) :
    (signalStep σ (.preempt eta)).waiting = true ∧ ((signalStep σ (.preempt eta)).active = true ∨
      (signalStep σ (.preempt eta)).pending = true ∧
        (signalStep σ (.preempt eta)).remaining ≤ yellowSec) := by
  have hyellow : ∀ d, σ.stage = .yellow d → σ.remaining ≤ yellowSec := by
    intro d hstage
    exact (h.remaining (by simp [hstage])).2.trans (h.yellow d hstage)
  unfold signalStep Signal.preempt
  dsimp only
  split_ifs with hbusy hactive
  · exact ⟨startStage_waiting .., .inl ((startStage_active ..).trans hactive)⟩
  · have hpending := hbusy.resolve_left hactive
    obtain ⟨d, hstage⟩ := h.pending hpending
    exact ⟨rfl, .inr ⟨hpending, hyellow d hstage⟩⟩
  · unfold Signal.startTrain
    rw [if_neg hbusy]
    dsimp only
    split
    · exact ⟨startStage_waiting .., .inr ⟨startStage_pending .., (startStage_remaining ..).le⟩⟩
    · rename_i d hstage
      exact ⟨rfl, .inr ⟨rfl, hyellow d hstage⟩⟩
    · exact ⟨startStage_waiting .., .inl (startStage_active ..)⟩

theorem active_step {σ : Signal} (h : SignalSafe σ) (hactive : σ.active = true)
    (hwaiting : σ.waiting = true) {op : SignalOp} (hclear : op ≠ .clear) (hreset : op ≠ .reset) :
    (signalStep σ op).active = true ∧ (signalStep σ op).waiting = true := by
  have hpending : σ.pending = false := by
    rw [← Bool.not_eq_true]
    intro hp
    exact absurd (hactive.symm.trans (h.pending_stage hp).2.1) (by decide)
  cases op with
  | idle | coordinate => exact ⟨hactive, hwaiting⟩
  | clear => exact absurd rfl hclear
  | reset => exact absurd rfl hreset
  | demoTrain => simp [signalStep, Signal.startTrain, hactive, hwaiting]
  | preempt eta => simp [signalStep, Signal.preempt, hactive]
  | press d => simp [signalStep, hactive, hwaiting]
  | tick nsGreen =>
      simp [signalStep, Signal.tick, Signal.activeTick, Signal.countPass, hpending, hactive,
        hwaiting]

theorem pending_step {σ : Signal} (h : SignalSafe σ) (hpending : σ.pending = true)
    (hwaiting : σ.waiting = true) {op : SignalOp} (hclear : op ≠ .clear) (hreset : op ≠ .reset) :
    (signalStep σ op).waiting = true ∧ ((signalStep σ op).active = true ∨
      (signalStep σ op).pending = true ∧ (signalStep σ op).remaining + op.ticks ≤ σ.remaining) := by
  obtain ⟨⟨d, hstage⟩, hactive, -, hremaining, -⟩ := h.pending_stage hpending
  cases op with
  | idle | coordinate => exact ⟨hwaiting, .inr ⟨hpending, by simp [signalStep, SignalOp.ticks]⟩⟩
  | clear => exact absurd rfl hclear
  | reset => exact absurd rfl hreset
  | demoTrain => simp [signalStep, Signal.startTrain, hpending, hwaiting, SignalOp.ticks]
  | preempt eta => simp [signalStep, Signal.preempt, hpending, hactive, SignalOp.ticks]
  | press d' =>
      refine ⟨(press_waiting ..).trans hwaiting, .inr ⟨(press_pending ..).trans hpending, ?_⟩⟩
      unfold signalStep Signal.press Signal.cap
      simp only [hstage, ne_eq, reduceCtorEq, not_false_eq_true, true_or, if_true]
      split <;> simp [SignalOp.ticks]
  | tick nsGreen =>
      unfold signalStep Signal.tick
      dsimp only
      rw [if_pos hpending, pendingTick_eq h hpending]
      split
      · exact ⟨(startStage_waiting ..).trans hwaiting, .inl (startStage_active ..)⟩
      · exact ⟨hwaiting, .inr ⟨hpending, by simp [SignalOp.ticks]⟩⟩

theorem recovery_step {σ : Signal} (hactive : σ.active = false) (hpending : σ.pending = false)
    (hrecovery : 0 < σ.recovery) {op : SignalOp}
    (hstart : ¬ (op = .demoTrain ∨ ∃ eta, op = .preempt eta)) (hreset : op ≠ .reset) :
    (signalStep σ op).active = false ∧ (signalStep σ op).pending = false ∧
      (signalStep σ op).recovery + op.ticks = σ.recovery ∧
        (σ.recovery ≤ op.ticks → (signalStep σ op).stage = .green σ.initial) := by
  cases op with
  | idle | coordinate =>
      exact ⟨hactive, hpending, by simp [signalStep, SignalOp.ticks], fun h => absurd h (by
        simp only [SignalOp.ticks]
        omega)⟩
  | reset => exact absurd rfl hreset
  | demoTrain => exact absurd (.inl rfl) hstart
  | preempt eta => exact absurd (.inr ⟨eta, rfl⟩) hstart
  | clear =>
      have hidle : signalStep σ .clear = σ := by
        simp [signalStep, Signal.clear, hactive, hpending]
      rw [hidle]
      exact ⟨hactive, hpending, by simp [SignalOp.ticks], fun h => absurd h (by
        simp only [SignalOp.ticks]
        omega)⟩
  | press d =>
      refine ⟨(press_active ..).trans hactive, (press_pending ..).trans hpending, ?_,
        fun h => absurd h ?_⟩
      · simp [signalStep, SignalOp.ticks]
      · simp only [SignalOp.ticks]
        omega
  | tick nsGreen =>
      have hstep : signalStep σ (.tick nsGreen) = σ.recoveryTick nsGreen := by
        simp [signalStep, Signal.tick, hactive, hpending, hrecovery]
      rw [hstep]
      unfold Signal.recoveryTick
      dsimp only
      rw [showLights_recovery]
      dsimp only [SignalOp.ticks]
      split
      · refine ⟨?_, ?_, ?_, fun _ => ?_⟩
        · rw [startGreen_active, showLights_active]
          exact hactive
        · rw [startGreen_pending, showLights_pending]
          exact hpending
        · rw [startGreen_recovery, showLights_recovery]
          dsimp only
          omega
        · rw [(started_startGreen ..).stage, showLights_initial]
      · refine ⟨(showLights_active _).trans hactive, (showLights_pending _).trans hpending, ?_,
          fun h => ?_⟩
        · rw [showLights_recovery]
          dsimp only
          omega
        · omega

/-- Counts the traffic ticks of a run. -/
def countTicks (_ : LocalState) (op : LocalOp) (_ : LocalState) (ticks : Nat) : Nat :=
  ticks + ticksOf op

/-- What the lamps show during a hold of so many ticks. -/
structure HoldShown (s : LocalState) (ticks : Nat) : Prop where
  noGreen : ∀ d, s.light d ≠ .green
  red : yellowSec ≤ (ticks : Int) → ∀ d, s.light d = .red ∧ s.walk d = false

/-- What the lamps show so many ticks after the clear message that ended a
hold, and that further ones change nothing. -/
structure RecoveryShown (s : LocalState) (ticks : Nat) : Prop where
  red : (ticks : Int) < railwayRecoverySec → ∀ d, s.light d = .red
  clear : (ticks : Int) < railwayRecoverySec → ∀ msg draws, acceptsClear s msg = true →
    localStep s (.frame msg draws) = s

/-- The tick that completes the recovery time starts the initial Green. -/
def RecoveryEnds (w : LocalState × Nat) (op : LocalOp) : Prop :=
  (w.2 : Int) < railwayRecoverySec → railwayRecoverySec ≤ (w.2 + ticksOf op : Nat) →
    ∃ d, w.1.initialPhase = greenOf d ∧ (localStep w.1 op).light d = .green

/-- The train is there, or what is left of its Yellow fits the ticks so far. -/
structure HoldServed (s : LocalState) (ticks : Nat) : Prop where
  safe : LocalSafe s
  waiting : s.trainWaitingForClear = true
  served : s.trainActive = true ∨ s.trainPending = true ∧ s.timeRemaining + ticks ≤ yellowSec

structure RecoveryServed (s : LocalState) (ticks : Nat) : Prop where
  safe : LocalSafe s
  served : (ticks : Int) < railwayRecoverySec → s.trainActive = false ∧ s.trainPending = false ∧
    s.trainRecoveryRemaining + ticks = railwayRecoverySec

theorem HoldServed.shown {s : LocalState} {ticks : Nat} (h : HoldServed s ticks) :
    HoldShown s ticks := by
  rcases h.served with hactive | ⟨hpending, hsum⟩
  · have hheld := h.safe.held (.inl hactive)
    exact ⟨fun d => by rw [(hheld d).1]; decide, fun _ => hheld⟩
  · obtain ⟨⟨d, hstage⟩, -, -, hremaining, -⟩ := h.safe.signal.pending_stage hpending
    have hremaining' : 0 < s.timeRemaining := hremaining
    refine ⟨fun d' hgreen => ?_, fun hticks => ?_⟩
    · rw [show s.light = (signalOf s).stage.lamp from h.safe.signal.light, lamp_green, hstage]
        at hgreen
      exact Stage.noConfusion hgreen
    · omega

theorem HoldServed.step {s : LocalState} {ticks : Nat} (h : HoldServed s ticks) {op : LocalOp}
    (hclear : clears s op = false) (hreset : resets op = false) :
    HoldServed (localStep s op) (ticks + ticksOf op) := by
  have hnext := h.safe.step op
  rcases h.served with hactive | ⟨hpending, hsum⟩
  · have hstep := active_step h.safe.signal hactive h.waiting (noClear hclear) (noReset hreset)
    rw [← h.safe.signalOf_step] at hstep
    exact ⟨hnext, hstep.2, .inl hstep.1⟩
  · have hstep := pending_step h.safe.signal hpending h.waiting (noClear hclear) (noReset hreset)
    rw [← h.safe.signalOf_step, signalOp_ticks] at hstep
    refine ⟨hnext, hstep.1, hstep.2.imp_right fun hstill => ⟨hstill.1, ?_⟩⟩
    have hless : (localStep s op).timeRemaining + ticksOf op ≤ s.timeRemaining := hstill.2
    push_cast
    omega

theorem HoldServed.start {s : LocalState} (h : LocalSafe s) {msg : TestMessage}
    (hmsg : acceptsPreempt s msg = true) (draws : Draws) :
    HoldServed (localStep s (.frame msg draws)) 0 := by
  have hsignal := h.signalOf_step (.frame msg draws)
  have hop : signalOp s (.frame msg draws) =
      .preempt (RailwayMsg.ofData msg.data).etaSeconds.toNat := frameSignalOp_preempt hmsg
  have hstart := preempt_starts h.signal (RailwayMsg.ofData msg.data).etaSeconds.toNat
  rw [hop] at hsignal
  rw [← hsignal] at hstart
  refine ⟨h.step _, hstart.1, hstart.2.imp_right fun hnew => ⟨hnew.1, ?_⟩⟩
  exact (Int.add_zero _).trans_le hnew.2

theorem RecoveryServed.shown {s : LocalState} {ticks : Nat} (h : RecoveryServed s ticks) :
    RecoveryShown s ticks where
  red hticks d := by
    obtain ⟨-, -, hsum⟩ := h.served hticks
    refine (h.safe.held (.inr ?_) d).1
    omega
  clear hticks msg draws hmsg := by
    obtain ⟨hactive, hpending, -⟩ := h.served hticks
    rw [localStep_clear hmsg]
    exact if_neg (by simp [hactive, hpending])

theorem RecoveryServed.step {s : LocalState} {ticks : Nat} (h : RecoveryServed s ticks)
    {op : LocalOp} (hreset : resets op = false) (hstart : startsTrain s op = false) :
    RecoveryServed (localStep s op) (ticks + ticksOf op) ∧ RecoveryEnds (s, ticks) op := by
  have hnext := h.safe.step op
  by_cases hticks : (ticks : Int) < railwayRecoverySec
  · obtain ⟨hactive, hpending, hsum⟩ := h.served hticks
    have hrecovery : 0 < (signalOf s).recovery := by
      change 0 < s.trainRecoveryRemaining
      omega
    have hnostart : ¬ (signalOp s op = .demoTrain ∨ ∃ eta, signalOp s op = .preempt eta) :=
      fun hop => absurd ((startsTrain_of_signalOp hop).symm.trans hstart) (by decide)
    have hstep := recovery_step hactive hpending hrecovery hnostart (noReset hreset)
    rw [← h.safe.signalOf_step, signalOp_ticks] at hstep
    obtain ⟨hactive', hpending', hless, hend⟩ := hstep
    have hless' : (localStep s op).trainRecoveryRemaining + ticksOf op =
        s.trainRecoveryRemaining := hless
    refine ⟨⟨hnext, fun _ => ⟨hactive', hpending', ?_⟩⟩, fun _ hlast => ?_⟩
    · push_cast
      omega
    · have hgreen := hend (by
        change s.trainRecoveryRemaining ≤ _
        push_cast at hlast
        omega)
      refine ⟨(signalOf s).initial, signalOf_initial h.safe.settings, ?_⟩
      rw [show (localStep s op).light = (signalOf (localStep s op)).stage.lamp
        from hnext.signal.light, lamp_green]
      exact hgreen
  · refine ⟨⟨hnext, fun hmore => absurd hmore ?_⟩, fun hmore => absurd hmore hticks⟩
    push_cast
    omega

theorem RecoveryServed.start {s : LocalState} (h : LocalSafe s)
    (hheld : s.trainActive = true ∨ s.trainPending = true) {op : LocalOp}
    (hop : clears s op = true) : RecoveryServed (localStep s op) 0 := by
  have hsignal := h.signalOf_step op
  rw [(signalOp_clear s op).mpr hop] at hsignal
  have hclear : signalOf (localStep s op) = { signalOf s with
      pending := false, active := false, waiting := false, pass := 0
      recovery := railwayRecoverySec, extra := fun _ => 0 }.startStage .hold
        railwayRecoverySec := hsignal.trans (if_pos hheld)
  refine ⟨h.step op, fun _ => ⟨?_, ?_, ?_⟩⟩
  · exact (congrArg Signal.active hclear).trans (startStage_active ..)
  · exact (congrArg Signal.pending hclear).trans (startStage_pending ..)
  · refine (Int.add_zero _).trans ?_
    exact (congrArg Signal.recovery hclear).trans (startStage_recovery ..)

/-- From an accepted PREEMPT on no lamp is Green, and after the clearing Yellow
both are Red, until a clear message or key or the console reset. -/
theorem holdShown_throughout {s : LocalState} (h : LocalSafe s) {msg : TestMessage} {draws : Draws}
    (hmsg : acceptsPreempt s msg = true) {ops : List LocalOp}
    (hops : Along localStep (fun s op => clears s op = false ∧ resets op = false)
      (localStep s (.frame msg draws)) ops) :
    Throughout (watch localStep countTicks) (fun w => HoldShown w.1 w.2)
      (localStep s (.frame msg draws), 0) ops := by
  have hwatch := (along_watch localStep countTicks _ (_, 0) ops).mpr hops
  refine hwatch.throughout (J := fun w => HoldServed w.1 w.2) ?_ ?_ ?_
  · rintro ⟨s, ticks⟩ op hserved ⟨hclear, hreset⟩
    exact hserved.step hclear hreset
  · exact fun w hserved => hserved.shown
  · exact HoldServed.start h hmsg draws

/-- After the clear message that ends a hold the lamps are Red for exactly the
recovery time. -/
theorem recoveryShown_throughout {s : LocalState} (h : LocalSafe s)
    (hheld : s.trainActive = true ∨ s.trainPending = true) {op : LocalOp}
    (hop : clears s op = true) {ops : List LocalOp}
    (hops : Along localStep (fun s op => resets op = false ∧ startsTrain s op = false)
      (localStep s op) ops) :
    Throughout (watch localStep countTicks) (fun w => RecoveryShown w.1 w.2)
        (localStep s op, 0) ops ∧
      Along (watch localStep countTicks) RecoveryEnds (localStep s op, 0) ops := by
  have hwatch := (along_watch localStep countTicks _ (_, 0) ops).mpr hops
  have hstep : ∀ w op, RecoveryServed w.1 w.2 → resets op = false ∧ startsTrain w.1 op = false →
      RecoveryServed (watch localStep countTicks w op).1 (watch localStep countTicks w op).2 :=
    fun w op hserved hallowed => (hserved.step hallowed.1 hallowed.2).1
  refine ⟨hwatch.throughout (J := fun w => RecoveryServed w.1 w.2) hstep
    (fun w hserved => hserved.shown) (RecoveryServed.start h hheld hop), ?_⟩
  refine hwatch.of_invariant (I := fun w => RecoveryServed w.1 w.2) hstep ?_
    (RecoveryServed.start h hheld hop)
  exact fun w op hserved hallowed => (hserved.step hallowed.1 hallowed.2).2

/-- From any reachable state a railway hold dominates everything else, and the
clear message that ends it restarts the lights after the recovery time. -/
theorem railwayHold_dominates {s : LocalState} (hs : Reachable Booted localStep s) :
    (∀ msg draws ops, acceptsPreempt s msg = true →
      Along localStep (fun s op => clears s op = false ∧ resets op = false)
        (localStep s (.frame msg draws)) ops →
      Throughout (watch localStep countTicks) (fun w => HoldShown w.1 w.2)
        (localStep s (.frame msg draws), 0) ops) ∧
      ∀ op ops, s.trainActive = true ∨ s.trainPending = true → clears s op = true →
        Along localStep (fun s op => resets op = false ∧ startsTrain s op = false)
          (localStep s op) ops →
        Throughout (watch localStep countTicks) (fun w => RecoveryShown w.1 w.2)
            (localStep s op, 0) ops ∧
          Along (watch localStep countTicks) RecoveryEnds (localStep s op, 0) ops := by
  have h := localSafe_reachable hs
  exact ⟨fun _ _ _ hmsg hops => holdShown_throughout h hmsg hops,
    fun _ _ hheld hop hops => recoveryShown_throughout h hheld hop hops⟩

/-- A train at I1 while EW is Green, and the clear message after it. -/
theorem railwayHold_dominates_train :
    Throughout (watch localStep countTicks) (fun w => HoldShown w.1 w.2)
        (localStep (localStateInit 0 .zero) (.frame (railwayFrame msgRailwayPreempt 1 1 20) .zero),
          0) [.trafficTick .zero, .trafficTick .zero, .trafficTick .zero] ∧
      Throughout (watch localStep countTicks) (fun w => RecoveryShown w.1 w.2)
        (localStep (localStep (localStateInit 0 .zero) (.input ['1'] .zero)) (.input ['c'] .zero),
          0) [.trafficTick .zero, .trafficTick .zero] := by
  have hboot : Reachable Booted localStep (localStateInit 0 .zero) := .init ⟨0, .zero, rfl⟩
  refine ⟨(railwayHold_dominates hboot).1 _ _ _ (by decide) (by decide), ?_⟩
  exact ((railwayHold_dominates (hboot.step (.input ['1'] .zero))).2 _ _ (.inr (by decide))
    (by decide) (by decide)).1

end TrafficLight.RailwayHold
