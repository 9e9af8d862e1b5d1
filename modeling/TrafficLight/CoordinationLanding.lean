import TrafficLight.FreeRun

namespace TrafficLight.CoordinationLanding

open TrafficLight.Runs
open TrafficLight.Protocol
open TrafficLight.LocalData
open TrafficLight.LocalTraffic
open TrafficLight.LocalMessages
open TrafficLight.LocalCore
open TrafficLight.SignalMachine
open TrafficLight.SignalView
open TrafficLight.SignalRefinement
open TrafficLight.SignalInvariant
open TrafficLight.SignalChanges
open TrafficLight.LocalSafety
open TrafficLight.LocalCommands
open TrafficLight.LampSequence
open TrafficLight.GreenPlan
open TrafficLight.GreenTransfer
open TrafficLight.FreeRun

variable {s : LocalState} {σ : Signal} {base : Direction} {offset position : Int}

/-- A pedestrian request that is accepted, from a frame or a key. -/
def requestsWalk (s : LocalState) : LocalOp → Bool
  | .frame msg _ =>
      handlerOf msg = some .ped ∧
        targetMatchesLocal s (PedMsg.ofData msg.data).intersectionId ∧
          (PedMsg.ofData msg.data).direction ≤ Direction.ew.toByte ∧
            (PedMsg.ofData msg.data).pressed ≠ 0
  | .input command _ => command = ['n'] ∨ command = ['e']
  | _ => false

theorem requestsWalk_of_signalOp {op : LocalOp} {d : Direction} (h : signalOp s op = .press d) :
    requestsWalk s op = true := by
  cases op with
  | linkTimeout | temporaryMode | trafficTick | vehicleCounts | markDirty | links => cases h
  | timeOfDay =>
      unfold signalOp at h
      dsimp only at h
      split at h <;> cases h
  | frame msg draws =>
      have hop : frameSignalOp s msg = .press d := h
      unfold frameSignalOp at hop
      split at hop
      · unfold railwaySignalOp at hop
        dsimp only at hop
        split_ifs at hop
      · unfold coordinationSignalOp at hop
        dsimp only at hop
        split at hop <;> cases hop
      · rename_i hhandler
        unfold pedSignalOp at hop
        dsimp only at hop
        split at hop
        · rename_i hvalid
          exact decide_eq_true ⟨hhandler, hvalid⟩
        · cases hop
      · cases hop
  | input command draws =>
      unfold signalOp at h
      dsimp only at h
      split at h
      · rename_i hvalid
        obtain ⟨key, rfl, -⟩ := (validInput_iff command).mp hvalid
        unfold keySignalOp at h
        dsimp only [List.headD] at h
        split at h <;> simp_all [requestsWalk]
      · cases h

/-- The seconds until the running or the next Yellow ends. -/
def untilYellowEnds (σ : Signal) : Int :=
  match σ.stage with
  | .yellow _ => σ.remaining
  | _ => σ.remaining + 2

/-- What an undisturbing step makes of signals with a waiting command. -/
inductive WaitingStep (σ : Signal) (base : Direction) (offset : Int) (op : SignalOp) :
    Signal → Prop
  | waits (σ' : Signal) (hcoordination : σ'.coordination = some (base, offset))
      (hends : ¬ (op.ticks = 1 ∧ (∃ d, σ.stage = .yellow d) ∧ σ.remaining = 1))
      (hless : untilYellowEnds σ' + op.ticks ≤ untilYellowEnds σ) : WaitingStep σ base offset op σ'
  | lands (d : Direction) (htick : op.ticks = 1) (hyellow : σ.stage = .yellow d)
      (hlast : σ.remaining = 1) :
      WaitingStep σ base offset op ((elapse σ).coordinate base offset)

theorem waiting_tick (hsafe : SignalSafe σ) (hfree : Free σ)
    (hsome : σ.coordination = some (base, offset)) (nsGreen : Int) :
    WaitingStep σ base offset (.tick nsGreen) (σ.tick nsGreen) := by
  have htick := hfree.tick hsafe nsGreen
  obtain ⟨hstage, hremaining, -, -, -, -, -, -, -, hcoordination⟩ := elapse_frame σ
  generalize σ.tick nsGreen = σ' at htick
  cases htick with
  | second hlong =>
      refine .waits _ (hcoordination.trans hsome) (by omega) ?_
      unfold untilYellowEnds
      rw [hstage, hremaining]
      split <;> (show _ + ((1 : Nat) : Int) ≤ _; omega)
  | yellow d hgreen hlast =>
      refine .waits _ ?_ ?_ ?_
      · rw [startStage_coordination, hcoordination, hsome]
      · rintro ⟨-, ⟨d', hyellow⟩, -⟩
        exact absurd (hgreen.symm.trans hyellow) nofun
      · unfold untilYellowEnds
        rw [startStage_stage, startStage_remaining, hgreen, hlast]
        exact le_refl (3 : Int)
  | green _ _ _ hnone => cases hnone.symm.trans hsome
  | coordinated d base' offset' hyellow hlast hsome' =>
      cases hsome.symm.trans hsome'
      exact .lands d rfl hyellow hlast

theorem waiting_step (hsafe : SignalSafe σ) (hfree : Free σ)
    (hsome : σ.coordination = some (base, offset)) {op : SignalOp} (hop : Undisturbing op) :
    WaitingStep σ base offset op (signalStep σ op) := by
  have hnow : ¬ ((0 : Nat) = 1 ∧ (∃ d, σ.stage = .yellow d) ∧ σ.remaining = 1) := by simp
  cases op with
  | idle => exact .waits _ hsome hnow (Int.add_zero _).le
  | tick nsGreen => exact waiting_tick hsafe hfree hsome nsGreen
  | press d =>
      obtain ⟨hstage, hcoordination, hless⟩ := press_frame σ d
      refine .waits _ (hcoordination.trans hsome) hnow ?_
      show untilYellowEnds (σ.press d) + ((0 : Nat) : Int) ≤ _
      unfold untilYellowEnds
      rw [hstage]
      split <;> omega
  | clear =>
      show WaitingStep σ base offset .clear σ.clear
      rw [hfree.clear]
      exact .waits _ hsome hnow (Int.add_zero _).le
  | demoTrain | preempt | coordinate | reset => exact hop.elim

/-- The signals are at a position of the coordinated cycle and nothing else will
change the Greens that follow. -/
structure OnCycle (σ : Signal) (base : Direction) (position : Int) : Prop where
  place : cyclePosition base position = (σ.stage, σ.remaining)
  none : σ.coordination = none
  cycle : ∀ d, σ.cycle d = 20
  extra : ∀ d, σ.extra d = 0

theorem cyclePosition_second {stage : Stage} {remaining : Int} (h0 : 0 ≤ position)
    (h44 : position < 44) (h : cyclePosition base position = (stage, remaining))
    (hlong : 1 < remaining) :
    cyclePosition base ((position + 1) % 44) = (stage, remaining - 1) := by
  have hmod : (position + 1) % 44 = position + 1 ∨ position = 43 := by omega
  unfold cyclePosition at h ⊢
  split_ifs at h
  all_goals
    obtain ⟨rfl, rfl⟩ := Prod.mk.inj h
    rcases hmod with hmod | rfl
    · rw [hmod]
      split_ifs <;> first | omega | (congr 1; omega)
    · omega

theorem cyclePosition_yellow {d : Direction} (h0 : 0 ≤ position) (h44 : position < 44)
    (h : cyclePosition base position = (.green d, 1)) :
    cyclePosition base ((position + 1) % 44) = (.yellow d, 2) := by
  have hplace : (position = 19 ∧ base = d) ∨ (position = 41 ∧ base.other = d) := by
    unfold cyclePosition at h
    split_ifs at h
    all_goals obtain ⟨hd, hone⟩ := Prod.mk.inj h
    · exact .inl ⟨by omega, Stage.green.inj hd⟩
    · cases hd
    · exact .inr ⟨by omega, Stage.green.inj hd⟩
    · cases hd
  obtain ⟨rfl, rfl⟩ | ⟨rfl, rfl⟩ := hplace
  · rfl
  · rfl

theorem cyclePosition_green {d : Direction} (h0 : 0 ≤ position) (h44 : position < 44)
    (h : cyclePosition base position = (.yellow d, 1)) :
    cyclePosition base ((position + 1) % 44) = (.green d.other, 20) := by
  have hplace : (position = 21 ∧ base = d) ∨ (position = 43 ∧ base.other = d) := by
    unfold cyclePosition at h
    split_ifs at h
    all_goals obtain ⟨hd, hone⟩ := Prod.mk.inj h
    · cases hd
    · exact .inl ⟨by omega, Stage.yellow.inj hd⟩
    · cases hd
    · exact .inr ⟨by omega, Stage.yellow.inj hd⟩
  obtain ⟨rfl, rfl⟩ | ⟨rfl, rfl⟩ := hplace
  · rfl
  · rw [other_other]
    rfl

theorem onCycle_coordinate (σ : Signal) (base : Direction) (h0 : 0 ≤ offset) (h44 : offset < 44) :
    OnCycle (σ.coordinate base offset) base offset := by
  obtain ⟨hstage, hremaining, -, hnone, -⟩ := coordinate_frame σ base h0 h44
  refine ⟨?_, hnone, fun d => ?_, fun d => ?_⟩
  · rw [hstage, hremaining]
  · unfold Signal.coordinate
    rw [startStage_cycle]
  · unfold Signal.coordinate
    rw [startStage_extra]

theorem startGreen_even (d : Direction) (hcycle : ∀ d, σ.cycle d = 20)
    (hextra : ∀ d, σ.extra d = 0) :
    (σ.startGreen 20 d).remaining = 20 ∧ (∀ d', (σ.startGreen 20 d).cycle d' = 20) ∧
      ∀ d', (σ.startGreen 20 d).extra d' = 0 := by
  obtain ⟨hkept, -⟩ := planFor_frame σ 20 d
  have hplan : ∀ d', (σ.planFor 20 d).cycle d' = 20 := by
    intro d'
    unfold Signal.planFor Signal.plan
    split
    · cases d' <;> simp [hextra, greenMinSec, greenMaxSec, greenBaseSec]
    · exact hcycle d'
  unfold Signal.startGreen
  refine ⟨?_, fun d' => ?_, fun d' => ?_⟩
  · rw [startStage_remaining, hplan, hkept, hextra]
    rfl
  · rw [startStage_cycle]
    exact hplan d'
  · rw [startStage_extra, hkept]
    show Function.update σ.extra d 0 d' = 0
    rcases eq_or_ne d' d with rfl | hne
    · exact Function.update_self ..
    · rw [Function.update_of_ne hne, hextra]

theorem OnCycle.tick (hsafe : SignalSafe σ) (hfree : Free σ) (h0 : 0 ≤ position)
    (h44 : position < 44) (h : OnCycle σ base position) :
    OnCycle (σ.tick 20) base ((position + 1) % 44) := by
  have htick := hfree.tick hsafe 20
  obtain ⟨hstage, hremaining, -, hcycle, hextra, -, -, -, -, hcoordination⟩ := elapse_frame σ
  have hplace := h.place
  have hcycle' : ∀ d, (elapse σ).cycle d = 20 := by
    rw [hcycle]
    exact h.cycle
  have hextra' : ∀ d, (elapse σ).extra d = 0 := by
    rw [hextra]
    exact h.extra
  generalize σ.tick 20 = σ' at htick
  cases htick with
  | second hlong =>
      refine ⟨?_, hcoordination.trans h.none, hcycle', hextra'⟩
      rw [hstage, hremaining]
      exact cyclePosition_second h0 h44 hplace hlong
  | yellow d hgreen hlast =>
      rw [hgreen, hlast] at hplace
      refine ⟨?_, (startStage_coordination ..).trans (hcoordination.trans h.none), ?_, ?_⟩
      · rw [startStage_stage, startStage_remaining]
        exact cyclePosition_yellow h0 h44 hplace
      · rw [startStage_cycle]
        exact hcycle'
      · rw [startStage_extra]
        exact hextra'
  | green d hyellow hlast =>
      obtain ⟨hfull, hnext, hnone⟩ := startGreen_even d.other hcycle' hextra'
      rw [hyellow, hlast] at hplace
      refine ⟨?_, (startGreen_coordination ..).trans (hcoordination.trans h.none), hnext, hnone⟩
      rw [(started_startGreen ..).stage, hfull]
      exact cyclePosition_green h0 h44 hplace
  | coordinated _ _ _ _ _ hsome => cases h.none.symm.trans hsome

/-- A position of the cycle base Green, Yellow, other Green, Yellow, with the
configured Green times. -/
def AtPosition (s : LocalState) (base : Direction) (position : Int) : Prop :=
  let first := configuredGreenTimeForDirection s base
  let second := configuredGreenTimeForDirection s base.other
  if position < first then s.phase = greenOf base ∧ s.timeRemaining = first - position
  else if position < first + yellowSec then
    s.phase = yellowOf base ∧ s.timeRemaining = first + yellowSec - position
  else if position < first + yellowSec + second then
    s.phase = greenOf base.other ∧ s.timeRemaining = first + yellowSec + second - position
  else
    s.phase = yellowOf base.other ∧
      s.timeRemaining = localFixedCycleSecondsLocked s - position

/-- The ticks until the command was applied, and those since then. -/
structure LandingLog where
  waited : Nat
  since : Option Nat

def LandingLog.start : LandingLog := { waited := 0, since := none }

def observeLanding (_ : LocalState) (op : LocalOp) (s' : LocalState) (log : LandingLog) :
    LandingLog :=
  match log.since with
  | none =>
      { waited := log.waited + ticksOf op
        since := if s'.coordinationPending then none else some 0 }
  | some ticks => { log with since := some (ticks + ticksOf op) }

/-- The fixed mode is kept; there is no train, no reset, no further command and, once
the command is applied, no pedestrian. -/
def Steady (w : LocalState × LandingLog) (op : LocalOp) : Prop :=
  w.1.trafficMode = .fixed ∧ Calm w.1 op ∧
    (w.2.since ≠ none → requestsWalk w.1 op = false)

instance (w : LocalState × LandingLog) (op : LocalOp) : Decidable (Steady w op) := by
  unfold Steady
  infer_instance

/-- The last second of a Yellow. -/
def EndsYellow (s : LocalState) (op : LocalOp) : Prop :=
  ticksOf op = 1 ∧ (s.phase = .nsYellow ∨ s.phase = .ewYellow) ∧ s.timeRemaining = 1

/-- The command is applied by the tick that ends a Yellow and by no other step. -/
def AppliedAfterYellow (w : LocalState × LandingLog) (op : LocalOp) : Prop :=
  w.2.since = none →
    ((localStep w.1 op).coordinationPending = false ↔ EndsYellow w.1 op)

/-- The ticks to the end of the running or the next Yellow, if nothing shortens the
running Green. -/
def yellowDue (s : LocalState) : Int :=
  if s.phase = .nsYellow ∨ s.phase = .ewYellow then s.timeRemaining
  else s.timeRemaining + yellowSec

/-- What is promised of every state: the command waits for at most `due` ticks, and
after it the position follows the ticks. -/
def OnSchedule (base : Direction) (offset due : Int) (w : LocalState × LandingLog) : Prop :=
  match w.2.since with
  | none => w.1.coordinationPending = true ∧ w.2.waited < due
  | some ticks =>
      w.2.waited ≤ due ∧ w.1.coordinationPending = false ∧
        w.1.pedExtraNsGreen = 0 ∧ w.1.pedExtraEwGreen = 0 ∧
          AtPosition w.1 base ((offset + ticks) % localFixedCycleSecondsLocked w.1)

/-- The state of the signals that the promise is read off. -/
def Follows (base : Direction) (offset due : Int) (w : LocalState × LandingLog) : Prop :=
  LocalSafe w.1 ∧ Free (signalOf w.1) ∧
    match w.2.since with
    | none =>
        (signalOf w.1).coordination = some (base, offset) ∧
          w.2.waited + untilYellowEnds (signalOf w.1) ≤ due
    | some ticks => w.2.waited ≤ due ∧ OnCycle (signalOf w.1) base ((offset + ticks) % 44)

theorem greenTime_fixed (hs : Settings s) (hmode : s.trafficMode = .fixed) (d : Direction) :
    greenTimeForDirection s d = 20 := by
  unfold greenTimeForDirection
  rw [configuredGreen_eq hs, hmode]
  rfl

theorem cycleSeconds_eq (hs : Settings s) : localFixedCycleSecondsLocked s = 44 := by
  unfold localFixedCycleSecondsLocked
  rw [configuredGreen_eq hs, configuredGreen_eq hs]
  rfl

theorem coordination_none_iff (s : LocalState) :
    (signalOf s).coordination = none ↔ s.coordinationPending = false := by
  cases h : s.coordinationPending <;> simp [signalOf, h]

theorem endsYellow_iff (s : LocalState) (op : LocalOp) :
    EndsYellow s op ↔ (signalOp s op).ticks = 1 ∧ (∃ d, (signalOf s).stage = .yellow d) ∧
      (signalOf s).remaining = 1 := by
  have hyellow : (∃ d, (signalOf s).stage = .yellow d) ↔
      s.phase = .nsYellow ∨ s.phase = .ewYellow := by
    constructor
    · rintro ⟨d, hstage⟩
      rw [(yellowOf_iff _ _).mp hstage]
      cases d <;> decide
    · rintro (hphase | hphase)
      · exact ⟨.ns, (yellowOf_iff _ _).mpr hphase⟩
      · exact ⟨.ew, (yellowOf_iff _ _).mpr hphase⟩
  rw [hyellow, signalOp_ticks]
  rfl

theorem yellowDue_eq (hsafe : LocalSafe s) (hfree : Free (signalOf s)) :
    yellowDue s = untilYellowEnds (signalOf s) := by
  have hroad : s.phase ≠ .railwayHold :=
    fun hhold => hfree.road hsafe.signal ((stageOf_eq_hold _).mpr hhold)
  unfold yellowDue untilYellowEnds
  show _ = match stageOf s.phase with | .yellow _ => s.timeRemaining | _ => s.timeRemaining + 2
  cases hphase : s.phase with
  | nsGreen | ewGreen => rfl
  | nsYellow | ewYellow => rfl
  | railwayHold => exact absurd hphase hroad

theorem Follows.step {due : Int} {w : LocalState × LandingLog} {op : LocalOp}
    (hoffset : 0 ≤ offset ∧ offset < 44) (h : Follows base offset due w) (hop : Steady w op) :
    Follows base offset due (watch localStep observeLanding w op) ∧ AppliedAfterYellow w op := by
  obtain ⟨s, waited, since⟩ := w
  obtain ⟨hsafe, hfree, hrest⟩ := h
  dsimp only at hsafe hfree hrest
  have hundisturbing : Undisturbing (signalOp s op) := undisturbing_of_calm hop.2.1
  have hnext := hsafe.step op
  have hfree' : Free (signalOf (localStep s op)) := by
    rw [hsafe.signalOf_step]
    exact hfree.step hsafe.signal hundisturbing
  cases since with
  | none =>
      obtain ⟨hsome, hdue⟩ := hrest
      have hstep := waiting_step hsafe.signal hfree hsome hundisturbing
      rw [← hsafe.signalOf_step] at hstep
      have hends := endsYellow_iff s op
      have hticks := signalOp_ticks s op
      have hlog : watch localStep observeLanding (s, { waited, since := none }) op =
          (localStep s op, { waited := waited + ticksOf op
                             since := if (localStep s op).coordinationPending then none
                               else some 0 }) := rfl
      rw [hlog]
      have hnone := coordination_none_iff (localStep s op)
      generalize hσ : signalOf (localStep s op) = σ' at hstep hfree' hnone
      cases hstep with
      | waits _ hcoordination hstays hless =>
          have hpending : (localStep s op).coordinationPending = true := by
            rw [← Bool.not_eq_false, ← hnone, hcoordination]
            exact nofun
          rw [if_pos hpending]
          refine ⟨⟨hnext, ?_, ?_, ?_⟩, fun _ => ?_⟩
          · rw [hσ]
            exact hfree'
          · rw [hσ]
            exact hcoordination
          · rw [hσ]
            push_cast
            omega
          · rw [hends]
            refine iff_of_false ?_ hstays
            rw [hpending]
            exact nofun
      | lands d htick hyellow hlast =>
          have hcycle := onCycle_coordinate (elapse (signalOf s)) base hoffset.1 hoffset.2
          have hpending : (localStep s op).coordinationPending = false := hnone.mp hcycle.none
          rw [hpending, if_neg nofun]
          refine ⟨⟨hnext, ?_, ?_, ?_⟩, fun _ => ?_⟩
          · rw [hσ]
            exact hfree'
          · unfold untilYellowEnds at hdue
            rw [hyellow, hlast] at hdue
            dsimp only at hdue
            rw [hticks] at htick
            push_cast
            omega
          · have hmod : (offset + ((0 : Nat) : Int)) % 44 = offset := by omega
            show OnCycle _ base ((offset + ((0 : Nat) : Int)) % 44)
            rw [hσ, hmod]
            exact hcycle
          · rw [hends]
            exact iff_of_true hpending ⟨htick, ⟨d, hyellow⟩, hlast⟩
  | some ticks =>
      obtain ⟨hdue, hcycle⟩ := hrest
      refine ⟨⟨hnext, hfree', hdue, ?_⟩, nofun⟩
      have hbounds : 0 ≤ (offset + ticks) % 44 ∧ (offset + ticks) % 44 < 44 := by omega
      have hticks := signalOp_ticks s op
      show OnCycle (signalOf (localStep s op)) base ((offset + ((ticks + ticksOf op : Nat))) % 44)
      rw [hsafe.signalOf_step, ← hticks]
      cases hsignal : signalOp s op with
      | tick nsGreen =>
          obtain rfl := tick_of_signalOp hsignal
          rw [greenTime_fixed hsafe.settings hop.1]
          have hpast := hcycle.tick hsafe.signal hfree hbounds.1 hbounds.2
          have hmod : ((offset + ticks) % 44 + 1) % 44 =
              (offset + ((ticks + 1 : Nat) : Int)) % 44 := by omega
          rw [hmod] at hpast
          exact hpast
      | idle => exact hcycle
      | clear =>
          show OnCycle (signalOf s).clear _ _
          rw [hfree.clear]
          exact hcycle
      | press d =>
          have hpress := requestsWalk_of_signalOp hsignal
          exact absurd (hpress.symm.trans (hop.2.2 nofun)) nofun
      | demoTrain | preempt | coordinate | reset =>
          rw [hsignal] at hundisturbing
          exact hundisturbing.elim

theorem Follows.onSchedule {due : Int} {w : LocalState × LandingLog}
    (h : Follows base offset due w) : OnSchedule base offset due w := by
  obtain ⟨s, waited, since⟩ := w
  obtain ⟨hsafe, hfree, hrest⟩ := h
  have hroad := hfree.road hsafe.signal
  cases since with
  | none =>
      obtain ⟨hsome, hdue⟩ := hrest
      have hremaining : 0 < (signalOf s).remaining := (hsafe.signal.remaining hroad).1
      refine ⟨?_, ?_⟩
      · rw [← Bool.not_eq_false, ← coordination_none_iff, hsome]
        exact nofun
      · unfold untilYellowEnds at hdue
        dsimp only at hdue ⊢
        split at hdue <;> omega
  | some ticks =>
      obtain ⟨hdue, hcycle⟩ := hrest
      refine ⟨hdue, (coordination_none_iff s).mp hcycle.none, hcycle.extra .ns, hcycle.extra .ew,
        ?_⟩
      have hplace := hcycle.place
      dsimp only at hplace ⊢
      unfold AtPosition
      rw [cycleSeconds_eq hsafe.settings, configuredGreen_eq hsafe.settings,
        configuredGreen_eq hsafe.settings]
      generalize (offset + (ticks : Int)) % 44 = position at hplace ⊢
      unfold cyclePosition at hplace
      have hsec : yellowSec = 2 := rfl
      have htime : (signalOf s).remaining = s.timeRemaining := rfl
      split_ifs at hplace with h20 h22 h42
      all_goals obtain ⟨hstage, hremaining⟩ := Prod.mk.inj hplace
      · rw [if_pos h20]
        exact ⟨(stageOf_eq_green _ _).mp hstage.symm, hremaining.symm⟩
      · rw [if_neg h20, if_pos (by omega)]
        exact ⟨(yellowOf_iff _ _).mp hstage.symm, by omega⟩
      · rw [if_neg h20, if_neg (by omega), if_pos (by omega)]
        exact ⟨(stageOf_eq_green _ _).mp hstage.symm, by omega⟩
      · rw [if_neg h20, if_neg (by omega), if_neg (by omega)]
        exact ⟨(yellowOf_iff _ _).mp hstage.symm, by omega⟩

/-- A coordination command that waits is applied at the end of the running or the
next Yellow, and `k` ticks later the Local is at position offset plus `k`. A Local that
still recovers from a train is left out: its all-red hold comes before any Yellow. -/
theorem coordination_lands (hs : Reachable Booted localStep s)
    (hpending : s.coordinationPending = true) (hbase : s.coordinationPhase = greenOf base)
    (htrain : s.trainPending = false ∧ s.trainActive = false ∧ s.trainRecoveryRemaining ≤ 0)
    {ops : List LocalOp} (hops : Along (watch localStep observeLanding) Steady (s, .start) ops) :
    Along (watch localStep observeLanding) AppliedAfterYellow (s, .start) ops ∧
      Throughout (watch localStep observeLanding)
        (OnSchedule base s.coordinationOffsetSec (yellowDue s)) (s, .start) ops := by
  have hsafe := localSafe_reachable hs
  have hsome : (signalOf s).coordination = some (base, s.coordinationOffsetSec) := by
    have hpoint : baseOf s.coordinationPhase = base := by
      rw [hbase]
      cases base <;> rfl
    simp [signalOf, hpending, hpoint]
  have hoffset := hsafe.signal.coordination _ _ hsome
  have hfree : Free (signalOf s) :=
    ⟨htrain.1, htrain.2.1, le_antisymm htrain.2.2 hsafe.signal.recovery.1⟩
  have hstart : Follows base s.coordinationOffsetSec (yellowDue s) (s, .start) := by
    refine ⟨hsafe, hfree, hsome, ?_⟩
    show ((0 : Nat) : Int) + untilYellowEnds (signalOf s) ≤ yellowDue s
    rw [yellowDue_eq hsafe hfree]
    omega
  refine ⟨hops.of_invariant (fun w op h hop => (h.step hoffset hop).1)
    (fun w op h hop => (h.step hoffset hop).2) hstart, ?_⟩
  exact hops.throughout (fun w op h hop => (h.step hoffset hop).1) (fun w h => h.onSchedule) hstart

/-- A command at boot for the last second of the NS Green, 22 ticks before it lands
and three after that. -/
theorem coordination_lands_boot :
    let s := localStep (localStateInit 0 Draws.zero) (.frame (coordinationFrame 19) Draws.zero)
    let ticks := List.replicate 25 (LocalOp.trafficTick Draws.zero)
    Along (watch localStep observeLanding) AppliedAfterYellow (s, .start) ticks ∧
      Throughout (watch localStep observeLanding)
        (OnSchedule .ns 19 (yellowDue s)) (s, .start) ticks :=
  coordination_lands ((Reachable.init ⟨0, Draws.zero, rfl⟩).step _) rfl rfl (by decide)
    (by decide +kernel)

end TrafficLight.CoordinationLanding
