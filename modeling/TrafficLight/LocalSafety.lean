import Mathlib.Tactic.FinCases
import TrafficLight.SignalRefinement
import TrafficLight.SignalChanges

namespace TrafficLight.LocalSafety

open TrafficLight.Runs
open TrafficLight.Protocol
open TrafficLight.LocalData
open TrafficLight.LocalTraffic
open TrafficLight.LocalMessages
open TrafficLight.LocalCore
open TrafficLight.SignalMachine
open TrafficLight.SignalView
open TrafficLight.SignalRefinement
open TrafficLight.SignalInvariant
open TrafficLight.SignalChanges

structure LocalSafe (s : LocalState) : Prop where
  settings : Settings s
  signal : SignalSafe (signalOf s)

theorem LocalSafe.one_red {s : LocalState} (h : LocalSafe s) :
    s.nsLight = .red ∨ s.ewLight = .red :=
  h.signal.one_red

theorem LocalSafe.lights {s : LocalState} (h : LocalSafe s) :
    ¬ (s.nsLight = .green ∧ s.ewLight = .green) := by
  rintro ⟨hns, hew⟩
  rcases h.one_red with hred | hred
  · exact LightState.noConfusion (hns.symm.trans hred)
  · exact LightState.noConfusion (hew.symm.trans hred)

theorem LocalSafe.signalOf_step {s : LocalState} (h : LocalSafe s) (op : LocalOp) :
    signalOf (localStep s op) = signalStep (signalOf s) (signalOp s op) :=
  signalOf_localStep h.settings h.lights op

theorem frameSignalOp_valid {s : LocalState} (hs : Settings s) (msg : TestMessage) :
    ValidOp (frameSignalOp s msg) := by
  unfold frameSignalOp
  split
  · unfold railwaySignalOp
    dsimp only
    split_ifs <;> exact trivial
  · unfold coordinationSignalOp
    dsimp only
    split
    · rename_i hvalid
      simp only [coordinationCommandValid, decide_eq_true_eq] at hvalid
      have hoffset := hvalid.2.2.2.2.2.1
      simp only [localFixedCycleSecondsLocked, configuredGreen_eq hs, yellowSec] at hoffset
      exact ⟨Int.natCast_nonneg _, hoffset⟩
    · exact trivial
  · unfold pedSignalOp
    dsimp only
    split <;> exact trivial
  · exact trivial

theorem signalOp_valid {s : LocalState} (hs : Settings s) (op : LocalOp) :
    ValidOp (signalOp s op) := by
  cases op with
  | linkTimeout | temporaryMode | markDirty | vehicleCounts | links | trafficTick => exact trivial
  | timeOfDay =>
      unfold signalOp
      dsimp only
      split <;> exact trivial
  | frame msg draws => exact frameSignalOp_valid hs msg
  | input command draws =>
      unfold signalOp
      dsimp only
      split
      · unfold keySignalOp
        split <;> exact trivial
      · exact trivial

theorem signalOp_ticks (s : LocalState) (op : LocalOp) : (signalOp s op).ticks = ticksOf op := by
  cases op with
  | linkTimeout | temporaryMode | trafficTick | vehicleCounts | markDirty | links => rfl
  | timeOfDay =>
      unfold signalOp
      dsimp only
      split <;> rfl
  | frame msg draws =>
      unfold signalOp frameSignalOp railwaySignalOp coordinationSignalOp pedSignalOp
      dsimp only
      split
      · split_ifs <;> rfl
      · split_ifs <;> rfl
      · split_ifs <;> rfl
      · rfl
  | input command draws =>
      unfold signalOp keySignalOp
      dsimp only
      split
      · split <;> rfl
      · rfl

theorem LocalSafe.step {s : LocalState} (h : LocalSafe s) (op : LocalOp) :
    LocalSafe (localStep s op) where
  settings := settings_localStep h.settings h.lights op
  signal := by
    rw [h.signalOf_step]
    exact h.signal.step (signalOp_valid h.settings op)

theorem signalOf_init (intersectionId : UInt8) (draws : Draws) :
    let d := (signalOf (localStateInit intersectionId draws)).initial
    signalOf (localStateInit intersectionId draws) =
      { stage := .green d, initial := d, light := (Stage.green d).lamp
        walk := fun _ => false, request := fun _ => false, remaining := 20, duration := 20
        cycle := fun _ => 20, extra := fun _ => 0, planned := true, pending := false
        active := false, waiting := false, pass := 0, recovery := 0, coordination := none } := by
  unfold localStateInit
  generalize intersectionOf intersectionId = id
  fin_cases id
  all_goals
    ext : 1
    all_goals first | rfl | exact pair_ext rfl rfl

theorem settings_init (intersectionId : UInt8) (draws : Draws) :
    Settings (localStateInit intersectionId draws) := by
  unfold localStateInit
  generalize intersectionOf intersectionId = id
  have hsensor : TrafficLightMode.sensor ≠ .failsafe := by decide
  have hfixed : TrafficLightMode.fixed ≠ .failsafe := by decide
  fin_cases id
  all_goals
    refine ⟨rfl, rfl, ?_, fun (h : false = true) => absurd h (by decide), hsensor, hfixed⟩
    first | exact .inl rfl | exact .inr rfl

theorem localSafe_init (intersectionId : UInt8) (draws : Draws) :
    LocalSafe (localStateInit intersectionId draws) where
  settings := settings_init intersectionId draws
  signal := by
    rw [signalOf_init]
    exact ⟨rfl, by simp, by simp, by simp, by simp, by simp, by simp, by simp, by simp, by simp⟩

theorem localSafe_reachable {s : LocalState} (h : Reachable Booted localStep s) :
    LocalSafe s := by
  refine h.invariant ?_ fun s op hs => hs.step op
  rintro s ⟨intersectionId, draws, rfl⟩
  exact localSafe_init intersectionId draws

/-- Counts the traffic ticks of the running phase. -/
def countPhase (s : LocalState) (op : LocalOp) (s' : LocalState) (elapsed : Nat) : Nat :=
  if s'.phase ≠ s.phase then 0
  else elapsed + ticksOf op

/-- Pedestrians may cross a direction: its own lamp is Red, the other Green has
run for long enough, both by the stored times and by the ticks since it
started, and runs on for long enough. -/
structure WalkAllowed (s : LocalState) (elapsed : Nat) (d : Direction) : Prop where
  red : s.light d = .red
  green : s.light d.other = .green
  phase : s.phase = greenOf d.other
  stored : s.phaseDuration - s.timeRemaining ≥ pedWalkStartSec
  ticks : (elapsed : Int) ≥ pedWalkStartSec
  left : s.timeRemaining > pedWalkEndSec
  noHold : s.trainActive = false ∧ s.phase ≠ .railwayHold
  noRecovery : s.trainRecoveryRemaining ≤ 0
  noFailsafe : s.trafficMode ≠ .failsafe

structure IntersectionSafe (s : LocalState) (elapsed : Nat) : Prop where
  oneRed : s.nsLight = .red ∨ s.ewLight = .red
  lights : ¬ (s.nsLight = .green ∧ s.ewLight = .green)
  walk : ∀ d, s.walk d = true → WalkAllowed s elapsed d
  oneWalk : ¬ (s.pedNsWalk = true ∧ s.pedEwWalk = true)

theorem LocalSafe.light_eq {s : LocalState} (h : LocalSafe s) :
    s.light = (stageOf s.phase).lamp :=
  h.signal.light

theorem LocalSafe.held {s : LocalState} (h : LocalSafe s)
    (hheld : s.trainActive = true ∨ 0 < s.trainRecoveryRemaining) (d : Direction) :
    s.light d = .red ∧ s.walk d = false := by
  have hstage : (signalOf s).stage = .hold := h.signal.hold.mpr hheld
  refine ⟨?_, ?_⟩
  · rw [show s.light = (signalOf s).stage.lamp from h.signal.light, hstage]
    rfl
  · rw [← Bool.not_eq_true]
    intro hwalk
    exact absurd ((h.signal.walk d hwalk).1.symm.trans hstage) (by simp)

theorem phase_eq_of_stage {s s' : LocalState} (h : (signalOf s').stage = (signalOf s).stage) :
    s'.phase = s.phase :=
  stageOf_injective h

theorem elapsed_step {s : LocalState} (h : LocalSafe s) {elapsed : Nat}
    (helapsed : s.phase ≠ .railwayHold → s.phaseDuration - s.timeRemaining ≤ elapsed)
    (op : LocalOp) (hroad : (localStep s op).phase ≠ .railwayHold) :
    (localStep s op).phaseDuration - (localStep s op).timeRemaining ≤
      countPhase s op (localStep s op) elapsed := by
  have hfull : ∀ stage, Started (signalOf (localStep s op)) stage →
      (localStep s op).phaseDuration - (localStep s op).timeRemaining ≤
        countPhase s op (localStep s op) elapsed := by
    intro stage hstart
    have hzero : (localStep s op).phaseDuration = (localStep s op).timeRemaining := hstart.full
    omega
  have hcount : (localStep s op).phase = s.phase →
      countPhase s op (localStep s op) elapsed = elapsed + ticksOf op :=
    fun heq => if_neg (not_not.mpr heq)
  have hheld : (signalOf (localStep s op)).stage = .hold → False :=
    fun hstage => hroad ((stageOf_eq_hold _).mp hstage)
  have hchange := signalStep_change h.signal (signalOp s op)
  rw [← h.signalOf_step] at hchange
  cases hchange with
  | keep hstage hremaining hduration =>
      have heq := phase_eq_of_stage hstage
      have := helapsed (heq ▸ hroad)
      have := hcount heq
      have hr : (localStep s op).timeRemaining = s.timeRemaining := hremaining
      have hd : (localStep s op).phaseDuration = s.phaseDuration := hduration
      omega
  | cap d hgreen hstage hsame =>
      have heq := phase_eq_of_stage (hstage.trans hgreen.symm)
      have := helapsed (heq ▸ hroad)
      have := hcount heq
      have hs : (localStep s op).phaseDuration - (localStep s op).timeRemaining =
          s.phaseDuration - s.timeRemaining := hsame
      omega
  | second nsGreen hop _ _ hstage hremaining hduration =>
      have heq := phase_eq_of_stage hstage
      have := helapsed (heq ▸ hroad)
      have hr : (localStep s op).timeRemaining = s.timeRemaining - 1 := hremaining
      have hd : (localStep s op).phaseDuration = s.phaseDuration := hduration
      have htick : ticksOf op = 1 := by
        rw [← signalOp_ticks s op, hop]
        rfl
      have := hcount heq
      omega
  | yellow _ _ hstart | green _ _ _ _ _ _ _ hstart | coordinated _ _ _ _ _ _ _ _ _ hstart
  | restart _ _ _ _ _ hstart | reset _ hstart => exact hfull _ hstart
  | held _ hstage | passed _ _ _ _ _ _ hstage | cleared _ _ _ _ hstage =>
      exact (hheld hstage).elim

theorem LocalSafe.walkAllowed {s : LocalState} (h : LocalSafe s) {elapsed : Nat}
    (helapsed : s.phase ≠ .railwayHold → s.phaseDuration - s.timeRemaining ≤ elapsed)
    {d : Direction} (hwalk : s.walk d = true) : WalkAllowed s elapsed d := by
  obtain ⟨hstage, hstart, hleft⟩ := h.signal.walk d hwalk
  have hphase : s.phase = greenOf d.other := (stageOf_eq_green _ _).mp hstage
  have hroad : s.phase ≠ .railwayHold := by
    rw [hphase]
    cases d <;> decide
  have hfree : ¬ (s.trainActive = true ∨ 0 < s.trainRecoveryRemaining) :=
    fun hheld => hroad ((stageOf_eq_hold _).mp (h.signal.hold.mpr hheld))
  have hlight : s.light = (Stage.green d.other).lamp := h.signal.light.trans (by rw [hstage])
  have hstored : s.phaseDuration - s.timeRemaining ≥ 1 := hstart
  have hticks := helapsed hroad
  refine ⟨?_, ?_, hphase, hstored, ?_, hleft, ⟨?_, hroad⟩, ?_, h.settings.mode⟩
  · rw [hlight]
    cases d <;> rfl
  · rw [hlight]
    cases d <;> rfl
  · have hsec : pedWalkStartSec = 1 := rfl
    omega
  · simpa using fun hactive => hfree (.inl hactive)
  · exact not_lt.mp fun hrecovery => hfree (.inr hrecovery)

theorem LocalSafe.intersectionSafe {s : LocalState} (h : LocalSafe s) {elapsed : Nat}
    (helapsed : s.phase ≠ .railwayHold → s.phaseDuration - s.timeRemaining ≤ elapsed) :
    IntersectionSafe s elapsed where
  oneRed := h.one_red
  lights := h.lights
  walk _ hwalk := h.walkAllowed helapsed hwalk
  oneWalk := by
    rintro ⟨hns, hew⟩
    have hphase := (h.walkAllowed helapsed (d := .ns) hns).phase
    rw [(h.walkAllowed helapsed (d := .ew) hew).phase] at hphase
    exact Phase.noConfusion hphase

/-- Every state of every run is safe, whichever profile the Local has. -/
theorem intersectionSafe_throughout (intersectionId : UInt8) (draws : Draws)
    (ops : List LocalOp) :
    Throughout (watch localStep countPhase) (fun w => IntersectionSafe w.1 w.2)
      (localStateInit intersectionId draws, 0) ops := by
  refine throughout_of_invariant (J := fun w => LocalSafe w.1 ∧
    (w.1.phase ≠ .railwayHold → w.1.phaseDuration - w.1.timeRemaining ≤ (w.2 : Int)))
    ?_ ?_ ?_ ops
  · rintro ⟨s, elapsed⟩ op ⟨h, helapsed⟩
    exact ⟨h.step op, elapsed_step h helapsed op⟩
  · rintro ⟨s, elapsed⟩ ⟨h, helapsed⟩
    exact h.intersectionSafe helapsed
  · refine ⟨localSafe_init intersectionId draws, fun _ => ?_⟩
    have hstart := signalOf_init intersectionId draws
    have hduration := congrArg Signal.duration hstart
    have hremaining := congrArg Signal.remaining hstart
    simp only [signalOf] at hduration hremaining
    rw [hduration, hremaining]
    simp

end TrafficLight.LocalSafety
