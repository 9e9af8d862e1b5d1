import TrafficLight.FreeRun
import TrafficLight.LocalReports

namespace TrafficLight.Countdown

open TrafficLight.Runs
open TrafficLight.Protocol
open TrafficLight.LocalData
open TrafficLight.LocalTraffic
open TrafficLight.LocalMessages
open TrafficLight.LocalCore
open TrafficLight.SignalMachine
open TrafficLight.SignalView
open TrafficLight.SignalRefinement
open TrafficLight.SignalInvariant
open TrafficLight.SignalChanges
open TrafficLight.LocalSafety
open TrafficLight.LampSequence
open TrafficLight.GreenPlan
open TrafficLight.GreenTransfer
open TrafficLight.FreeRun
open TrafficLight.LocalMeters
open TrafficLight.Telemetry
open TrafficLight.LocalReports

variable {s : LocalState} {σ : Signal} {d : Direction}

/-- `local_vehicle_seconds` -/
def localVehicleSeconds (status : StatusMsg) (direction : Direction) : Int :=
  let lamp := if direction = .ns then status.nsState else status.ewState
  if status.railwayPreempt ≠ 0 ∨ status.mode = modeFailsafe ∨
      status.phase > Phase.ewYellow.toByte ∨ lamp = LightState.off.toByte then -1
  else if lamp = LightState.red.toByte then
    if status.coordinationPending ≠ 0 then -1
    else if status.phase = Phase.nsGreen.toByte ∨ status.phase = Phase.ewGreen.toByte then
      (status.timeRemaining.toNat : Int) + yellowSec
    else status.timeRemaining.toNat
  else status.timeRemaining.toNat

/-- The lamp of a direction changes with the last of these traffic ticks and not
before. -/
def ChangesAfter (s : LocalState) (d : Direction) : List Draws → Prop
  | [] => False
  | [draws] => (localStep s (.trafficTick draws)).light d ≠ s.light d
  | draws :: next :: more =>
      (localStep s (.trafficTick draws)).light d = s.light d ∧
        ChangesAfter (localStep s (.trafficTick draws)) d (next :: more)

/-- A coordination command waits whose position is a Yellow of the direction
that has the Yellow now. -/
def Prolonged (s : LocalState) (d : Direction) : Prop :=
  s.coordinationPending = true ∧ s.phase = yellowOf d ∧
    if s.coordinationPhase = greenOf d then
      20 ≤ s.coordinationOffsetSec ∧ s.coordinationOffsetSec < 22
    else 42 ≤ s.coordinationOffsetSec

instance (s : LocalState) (d : Direction) : Decidable (Prolonged s d) := by
  unfold Prolonged
  infer_instance

/-- The seconds shown for a direction: those of its own lamp, or those until the
road is clear for it. -/
inductive Shows (σ : Signal) (d : Direction) : Int → Prop
  | green (hgreen : σ.stage = .green d) : Shows σ d σ.remaining
  | yellow (hyellow : σ.stage = .yellow d) : Shows σ d σ.remaining
  | crossing (hgreen : σ.stage = .green d.other) (hnone : σ.coordination = none) :
      Shows σ d (σ.remaining + 2)
  | clearing (hyellow : σ.stage = .yellow d.other) (hnone : σ.coordination = none) :
      Shows σ d σ.remaining

/-- The Yellow of `d` is followed by a Yellow of `d`. -/
def Stays (σ : Signal) (d : Direction) : Prop :=
  σ.stage = .yellow d ∧
    ∃ base offset, σ.coordination = some (base, offset) ∧
      (cyclePosition base offset).1 = .yellow d

theorem Stays.of_stage {stage : Stage} (hstage : σ.stage = stage) (hne : stage ≠ .yellow d) :
    ¬ Stays σ d :=
  fun h => hne (hstage.symm.trans h.1)

theorem Stays.of_none (hnone : σ.coordination = none) : ¬ Stays σ d := by
  rintro ⟨-, base, offset, hsome, -⟩
  cases hnone.symm.trans hsome

theorem Shows.of_same {σ' : Signal} (hstage : σ'.stage = σ.stage)
    (hcoordination : σ'.coordination = σ.coordination) {seconds : Int}
    (hremaining : σ'.remaining = σ.remaining - 1) (h : Shows σ d seconds) :
    Shows σ' d (seconds - 1) := by
  cases h with
  | green hgreen => exact hremaining ▸ .green (hstage.trans hgreen)
  | yellow hyellow => exact hremaining ▸ .yellow (hstage.trans hyellow)
  | crossing hgreen hnone =>
      have hnext := Shows.crossing (hstage.trans hgreen) (hcoordination.trans hnone)
      rw [hremaining] at hnext
      rwa [show σ.remaining + 2 - 1 = σ.remaining - 1 + 2 by omega]
  | clearing hyellow hnone =>
      exact hremaining ▸ .clearing (hstage.trans hyellow) (hcoordination.trans hnone)

theorem Shows.tick (hsafe : SignalSafe σ) (hfree : Free σ) {seconds : Int}
    (h : Shows σ d seconds) (hlong : 1 < seconds) (nsGreen : Int) :
    (σ.tick nsGreen).stage.lamp d = σ.stage.lamp d ∧ Shows (σ.tick nsGreen) d (seconds - 1) ∧
      (Stays (σ.tick nsGreen) d ↔ Stays σ d) := by
  have htick := hfree.tick hsafe nsGreen
  obtain ⟨hstage, hremaining, -, -, -, -, -, -, -, hcoordination⟩ := elapse_frame σ
  generalize σ.tick nsGreen = σ' at htick
  cases htick with
  | second =>
      refine ⟨by rw [hstage], h.of_same hstage hcoordination hremaining, ?_⟩
      unfold Stays
      rw [hstage, hcoordination]
  | yellow d' hgreen hlast =>
      cases h with
      | crossing hcross hnone =>
          obtain rfl := Stage.green.inj (hgreen.symm.trans hcross)
          have hnone' : ((elapse σ).startStage (.yellow d.other) 2).coordination = none :=
            (startStage_coordination ..).trans (hcoordination.trans hnone)
          have hnext := Shows.clearing (startStage_stage (elapse σ) (.yellow d.other) 2) hnone'
          rw [startStage_remaining] at hnext
          rw [startStage_stage, hgreen, hlast]
          exact ⟨by cases d <;> rfl, hnext,
            iff_of_false (Stays.of_none hnone') (Stays.of_none hnone)⟩
      | green | yellow | clearing => omega
  | green _ hyellow hlast | coordinated _ _ _ hyellow hlast =>
      cases h with
      | crossing hcross => exact absurd (hyellow.symm.trans hcross) nofun
      | green | yellow | clearing => omega

theorem Shows.last (hsafe : SignalSafe σ) (hfree : Free σ) {seconds : Int}
    (h : Shows σ d seconds) (hone : seconds = 1) (nsGreen : Int) :
    (σ.tick nsGreen).stage.lamp d ≠ σ.stage.lamp d ↔ ¬ Stays σ d := by
  have hpositive := (hsafe.remaining (hfree.road hsafe)).1
  have htick := hfree.tick hsafe nsGreen
  obtain ⟨hstage, -, -, -, -, -, -, -, -, hcoordination⟩ := elapse_frame σ
  generalize σ.tick nsGreen = σ' at htick
  have hself : ∀ d : Direction, (Stage.yellow d).lamp d ≠ (Stage.green d).lamp d ∧
      (Stage.green d.other).lamp d ≠ (Stage.yellow d).lamp d ∧
        (Stage.green d.other.other).lamp d ≠ (Stage.yellow d.other).lamp d := by
    decide
  obtain ⟨hgreenEnds, hyellowEnds, hroadClears⟩ := hself d
  cases htick with
  | second hlong => cases h <;> omega
  | yellow d' hgreen hlast =>
      cases h with
      | green hown =>
          obtain rfl := Stage.green.inj (hgreen.symm.trans hown)
          rw [startStage_stage, hgreen]
          exact iff_of_true hgreenEnds (Stays.of_stage hgreen nofun)
      | crossing => omega
      | yellow hyellow | clearing hyellow => exact absurd (hgreen.symm.trans hyellow) nofun
  | green d' hyellow hlast hnone =>
      have hnext := (started_startGreen (elapse σ) nsGreen d'.other).stage
      cases h with
      | yellow hown =>
          obtain rfl := Stage.yellow.inj (hyellow.symm.trans hown)
          rw [hnext, hyellow]
          exact iff_of_true hyellowEnds (Stays.of_none hnone)
      | clearing hother =>
          obtain rfl := Stage.yellow.inj (hyellow.symm.trans hother)
          rw [hnext, hyellow]
          exact iff_of_true hroadClears (Stays.of_none hnone)
      | green hgreen | crossing hgreen => exact absurd (hyellow.symm.trans hgreen) nofun
  | coordinated d' base offset hyellow hlast hsome =>
      obtain ⟨h0, h44⟩ := hsafe.coordination base offset hsome
      have hnext := (coordinate_frame (elapse σ) base h0 h44).1
      cases h with
      | yellow hown =>
          obtain rfl := Stage.yellow.inj (hyellow.symm.trans hown)
          have hlamp : (Stage.yellow d').lamp d' = .yellow := (lamp_yellow _ _).mpr rfl
          rw [hnext, hyellow, hlamp, ne_eq, lamp_yellow]
          refine not_congr ⟨fun hsame => ⟨hyellow, base, offset, hsome, hsame⟩, ?_⟩
          rintro ⟨-, base', offset', hsome', hsame⟩
          cases hsome.symm.trans hsome'
          exact hsame
      | clearing _ hnone => cases hnone.symm.trans hsome
      | green hgreen | crossing hgreen => exact absurd (hyellow.symm.trans hgreen) nofun

theorem flag_ne_zero (b : Bool) : flag b ≠ 0 ↔ b = true := by
  cases b <;> decide

theorem position_yellow (base d : Direction) {offset : Int} :
    (cyclePosition base offset).1 = .yellow d ↔
      if base = d then 20 ≤ offset ∧ offset < 22 else 42 ≤ offset := by
  have hother : base.other = d ↔ base ≠ d := by cases base <;> cases d <;> decide
  unfold cyclePosition
  split_ifs with h20 h22 h42 hbase
  all_goals simp only [Stage.yellow.injEq, hother, false_iff]
  all_goals grind

theorem stays_iff (h : LocalSafe s) : Stays (signalOf s) d ↔ Prolonged s d := by
  have hstage : (signalOf s).stage = .yellow d ↔ s.phase = yellowOf d := yellowOf_iff s.phase d
  unfold Stays Prolonged
  rw [hstage]
  cases hpending : s.coordinationPending with
  | false =>
      have hnone : (signalOf s).coordination = none := by simp [signalOf, hpending]
      rw [hnone]
      simp
  | true =>
      have hsome : (signalOf s).coordination =
          some (baseOf s.coordinationPhase, s.coordinationOffsetSec) := by
        simp [signalOf, hpending]
      have hbase : baseOf s.coordinationPhase = d ↔ s.coordinationPhase = greenOf d := by
        rcases h.settings.coordination hpending with hgreen | hgreen <;> rw [hgreen] <;>
          cases d <;> decide
      rw [hsome]
      simp only [Option.some.injEq, Prod.mk.injEq, true_and]
      refine and_congr_right fun _ => ⟨?_, fun hposition => ⟨_, _, ⟨rfl, rfl⟩, ?_⟩⟩
      · rintro ⟨_, _, ⟨rfl, rfl⟩, hposition⟩
        simpa only [position_yellow, hbase] using hposition
      · simpa only [position_yellow, hbase] using hposition

theorem lampByte (s : LocalState) (d : Direction) :
    (if d = .ns then (fillStatusLocked s).nsState else (fillStatusLocked s).ewState) =
      (s.light d).toByte := by
  cases d <;> rfl

theorem toByte_red (lamp : LightState) : lamp.toByte = LightState.red.toByte ↔ lamp = .red := by
  cases lamp <;> decide

theorem seconds_eq (hrange : InRange s)
    (hshown : localVehicleSeconds (fillStatusLocked s) d ≠ -1) :
    (s.trainPending = false ∧ s.trainActive = false ∧ ¬ s.trainRecoveryRemaining > 0) ∧
      localVehicleSeconds (fillStatusLocked s) d =
        if s.light d = .red then
          if s.coordinationPending = true then -1
          else if s.phase = .nsGreen ∨ s.phase = .ewGreen then s.timeRemaining + 2
          else s.timeRemaining
        else s.timeRemaining := by
  have htime : (((fillStatusLocked s).timeRemaining.toNat : Nat) : Int) = s.timeRemaining :=
    (untruncated_fillStatus hrange).time
  have hphase : ((fillStatusLocked s).phase = Phase.nsGreen.toByte ∨
      (fillStatusLocked s).phase = Phase.ewGreen.toByte) ↔
        s.phase = .nsGreen ∨ s.phase = .ewGreen := by
    show s.phase.toByte = _ ∨ s.phase.toByte = _ ↔ _
    cases s.phase <;> decide
  unfold localVehicleSeconds at hshown ⊢
  dsimp only at hshown ⊢
  rw [lampByte] at hshown ⊢
  split at hshown
  · exact absurd rfl hshown
  · rename_i hroad
    have hfree : (fillStatusLocked s).railwayPreempt = 0 := not_not.mp fun hne => hroad (.inl hne)
    rw [if_neg hroad, htime]
    refine ⟨?_, ?_⟩
    · have hnone := mt (flag_ne_zero _).mpr (not_not.mpr hfree)
      simpa using hnone
    · refine if_congr (toByte_red _) (if_congr (flag_ne_zero _) rfl (if_congr hphase rfl rfl)) rfl

theorem lamp_other (d : Direction) :
    (Stage.green d.other).lamp d = .red ∧ (Stage.yellow d.other).lamp d = .red := by
  cases d <;> decide

theorem shows_of_seconds (h : LocalSafe s) (hrange : InRange s) {n : Nat} (hn : 1 ≤ n)
    (hshown : localVehicleSeconds (fillStatusLocked s) d = n) :
    Free (signalOf s) ∧ Shows (signalOf s) d n := by
  obtain ⟨⟨hpending, hactive, hrecovery⟩, hseconds⟩ :=
    @seconds_eq _ d hrange (by rw [hshown]; omega)
  have hfree : Free (signalOf s) := by
    have hnonneg := h.signal.recovery.1
    refine ⟨hpending, hactive, ?_⟩
    exact le_antisymm (not_lt.mp hrecovery) hnonneg
  have hlight : s.light d = (signalOf s).stage.lamp d := congrFun h.light_eq d
  have hnone : ∀ {b : Bool}, ¬ b = true → b = s.coordinationPending →
      (signalOf s).coordination = none := by
    rintro b hfalse rfl
    simp [signalOf, hfalse]
  refine ⟨hfree, ?_⟩
  rw [hseconds, hlight] at hshown
  cases hstage : (signalOf s).stage with
  | hold => exact absurd hstage (hfree.road h.signal)
  | green d' =>
      have hphase : s.phase = .nsGreen ∨ s.phase = .ewGreen := by
        rw [(stageOf_eq_green _ _).mp hstage]
        cases d' <;> decide
      rw [hstage] at hshown
      rcases eq_or_other d d' with rfl | rfl
      · rw [(lamp_green _ _).mpr rfl, if_neg (by decide)] at hshown
        exact hshown ▸ .green hstage
      · rw [if_pos (lamp_other d).1] at hshown
        split at hshown
        · omega
        · rename_i hwaits
          exact hshown ▸ .crossing hstage (hnone hwaits rfl)
  | yellow d' =>
      have hphase : ¬ (s.phase = .nsGreen ∨ s.phase = .ewGreen) := by
        rw [(yellowOf_iff _ _).mp hstage]
        cases d' <;> decide
      rw [hstage] at hshown
      rcases eq_or_other d d' with rfl | rfl
      · rw [(lamp_yellow _ _).mpr rfl, if_neg (by decide)] at hshown
        exact hshown ▸ .yellow hstage
      · rw [if_pos (lamp_other d).2] at hshown
        split at hshown
        · omega
        · rename_i hwaits
          exact hshown ▸ .clearing hstage (hnone hwaits rfl)

theorem changesAfter_iff (h : LocalSafe s) (hfree : Free (signalOf s)) {ticks : List Draws}
    (hshows : Shows (signalOf s) d ticks.length) (hne : ticks ≠ []) :
    ChangesAfter s d ticks ↔ ¬ Stays (signalOf s) d := by
  induction ticks generalizing s with
  | nil => exact absurd rfl hne
  | cons draws ticks ih =>
      have hnext := h.step (.trafficTick draws)
      have hsignal := h.signalOf_step (.trafficTick draws)
      have hlight : s.light d = (signalOf s).stage.lamp d := congrFun h.light_eq d
      have hlight' : (localStep s (.trafficTick draws)).light d =
          (signalOf (localStep s (.trafficTick draws))).stage.lamp d := congrFun hnext.light_eq d
      cases ticks with
      | nil =>
          unfold ChangesAfter
          rw [hlight, hlight', hsignal]
          exact hshows.last h.signal hfree rfl _
      | cons next more =>
          obtain ⟨hsame, hshows', hstays⟩ := hshows.tick h.signal hfree
            (by simp only [List.length_cons]; omega) (greenTimeForDirection s .ns)
          have hfree' := hfree.tick_free h.signal (greenTimeForDirection s .ns)
          have hlength : ((draws :: next :: more).length : Int) - 1 = (next :: more).length := by
            simp only [List.length_cons]
            omega
          rw [hlength] at hshows'
          have hrest := ih hnext (hsignal ▸ hfree') (hsignal ▸ hshows') (List.cons_ne_nil _ _)
          unfold ChangesAfter
          rw [hrest, hlight, hlight', hsignal]
          exact (and_iff_right hsame).trans (not_congr hstays)

/-- A countdown of `n` seconds is exact, unless the lamp is a Yellow that a waiting
coordination command continues. -/
theorem countdown_iff (hs : Reachable Booted localStep s) (d : Direction) {n : Nat} (hn : 1 ≤ n)
    (hshown : localVehicleSeconds (fillStatusLocked s) d = n) {ticks : List Draws}
    (hticks : ticks.length = n) : ChangesAfter s d ticks ↔ ¬ Prolonged s d := by
  have hsafe := localSafe_reachable hs
  obtain ⟨hfree, hshows⟩ := shows_of_seconds hsafe (inRange_reachable hs) hn hshown
  rw [← hticks] at hshows
  rw [changesAfter_iff hsafe hfree hshows (List.ne_nil_of_length_pos (by omega)), stays_iff hsafe]

/-- The Green of I1 at boot lasts for 20 seconds, and its Red for NS for two more. -/
theorem countdown_iff_boot :
    ChangesAfter (localStateInit 0 Draws.zero) .ns (List.replicate 22 Draws.zero) :=
  (countdown_iff (.init ⟨0, Draws.zero, rfl⟩) .ns (n := 22) (by decide) (by decide)
    (by decide)).mpr (by decide)

/-- The command asks for the last two seconds of the cycle, which are a Yellow of EW:
the first second of that Yellow shows 2, and the lamp is still Yellow two ticks later. -/
theorem countdown_prolonged :
    let s := run localStep (localStateInit 0 Draws.zero)
      (.frame (coordinationFrame 42) Draws.zero :: List.replicate 20 (.trafficTick Draws.zero))
    localVehicleSeconds (fillStatusLocked s) .ew = 2 ∧ s.ewLight = .yellow ∧
      (run localStep s [.trafficTick Draws.zero, .trafficTick Draws.zero]).ewLight = .yellow := by
  decide +kernel

end TrafficLight.Countdown
