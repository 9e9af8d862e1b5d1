import TrafficLight.LocalCommands

namespace TrafficLight.ClearingYellow

open TrafficLight.Runs
open TrafficLight.Protocol
open TrafficLight.LocalData
open TrafficLight.LocalTraffic
open TrafficLight.LocalMessages
open TrafficLight.LocalCore
open TrafficLight.SignalMachine
open TrafficLight.SignalView
open TrafficLight.SignalRefinement
open TrafficLight.SignalInvariant
open TrafficLight.SignalChanges
open TrafficLight.LocalSafety
open TrafficLight.LocalCommands

/-- For each lamp the ticks of the Yellow that followed a Green. -/
def countYellow (s : LocalState) (op : LocalOp) (s' : LocalState)
    (ticks : Direction → Option Nat) : Direction → Option Nat := fun d =>
  if s'.light d ≠ .yellow then none
  else if s.light d = .green then some 0
  else (ticks d).map (· + ticksOf op)

/-- A Yellow that followed a Green does not end too early. -/
def YellowKept (w : LocalState × (Direction → Option Nat)) (op : LocalOp) : Prop :=
  ∀ d ticks, w.2 d = some ticks → w.1.light d = .yellow → (localStep w.1 op).light d = .red →
    yellowSec ≤ (ticks + ticksOf op : Nat)

theorem yellow_step {σ : Signal} (h : SignalSafe σ) {d : Direction} (hyellow : σ.stage = .yellow d)
    {op : SignalOp} (hclear : σ.pending = true → op ≠ .clear) (hreset : op ≠ .reset) :
    (signalStep σ op).stage = .yellow d ∧ σ.remaining ≤ (signalStep σ op).remaining + op.ticks ∨
      σ.remaining ≤ op.ticks := by
  have hremaining := (h.remaining (by simp [hyellow])).1
  cases signalStep_change h op with
  | keep hstage hsame =>
      refine .inl ⟨hstage.trans hyellow, ?_⟩
      omega
  | second nsGreen hop _ _ hstage hless =>
      subst hop
      refine .inl ⟨hstage.trans hyellow, ?_⟩
      simp only [SignalOp.ticks]
      omega
  | green nsGreen _ hop _ hlast | coordinated nsGreen _ _ _ hop _ hlast
  | passed nsGreen _ hop _ hlast =>
      rw [hop]
      exact .inr hlast.le
  | cleared _ hop _ hpending => exact absurd hop (hclear hpending)
  | reset hop => exact absurd hop hreset
  | cap _ hgreen | yellow _ hgreen => exact absurd (hyellow.symm.trans hgreen) (by simp)
  | held hhold | restart _ _ hhold => exact absurd (hyellow.symm.trans hhold) (by simp)

theorem green_step {σ : Signal} (h : SignalSafe σ) {d : Direction} (hgreen : σ.stage = .green d)
    {op : SignalOp} (hyellow : (signalStep σ op).stage = .yellow d) :
    (signalStep σ op).remaining = 2 := by
  cases signalStep_change h op with
  | yellow _ _ _ hremaining => exact hremaining
  | keep hstage | second _ _ _ _ hstage =>
      exact absurd (hyellow.symm.trans (hstage.trans hgreen)) (by simp)
  | cap _ _ hstage | held _ hstage | passed _ _ _ _ _ _ hstage | cleared _ _ _ _ hstage =>
      exact absurd (hyellow.symm.trans hstage) (by simp)
  | green _ _ _ hbefore | coordinated _ _ _ _ _ hbefore =>
      exact absurd (hgreen.symm.trans hbefore) (by simp)
  | restart _ _ _ _ _ hstart | reset _ hstart =>
      exact absurd (hyellow.symm.trans hstart.stage) (by simp)

theorem light_yellow {s : LocalState} (h : LocalSafe s) (d : Direction) :
    s.light d = .yellow ↔ (signalOf s).stage = .yellow d := by
  rw [h.light_eq]
  exact lamp_yellow _ d

theorem light_green {s : LocalState} (h : LocalSafe s) (d : Direction) :
    s.light d = .green ↔ (signalOf s).stage = .green d := by
  rw [h.light_eq]
  exact lamp_green _ d

/-- The recorded ticks and the stored time of a running Yellow add up. -/
structure YellowServed (s : LocalState) (ticks : Direction → Option Nat) : Prop where
  safe : LocalSafe s
  served : ∀ d n, ticks d = some n → s.light d = .yellow ∧ yellowSec ≤ n + s.timeRemaining

theorem local_yellow_step {s : LocalState} (h : LocalSafe s) {d : Direction} {op : LocalOp}
    (hyellow : s.light d = .yellow) (hreset : resets op = false)
    (hclear : s.trainPending = true → clears s op = false) :
    (localStep s op).light d = .yellow ∧
        s.timeRemaining ≤ (localStep s op).timeRemaining + ticksOf op ∨
      s.timeRemaining ≤ ticksOf op := by
  have hstep := yellow_step h.signal ((light_yellow h d).mp hyellow)
    (fun hpending => noClear (hclear hpending)) (noReset hreset)
  rw [← h.signalOf_step, signalOp_ticks] at hstep
  exact hstep.imp_left fun hkept => ⟨(light_yellow (h.step op) d).mpr hkept.1, hkept.2⟩

theorem YellowServed.step {s : LocalState} {ticks : Direction → Option Nat}
    (h : YellowServed s ticks) {op : LocalOp} (hreset : resets op = false)
    (hclear : s.trainPending = true → clears s op = false) :
    YellowServed (localStep s op) (countYellow s op (localStep s op) ticks) := by
  have hsafe := h.safe.step op
  refine ⟨hsafe, fun d n hn => ?_⟩
  unfold countYellow at hn
  split_ifs at hn with hother hgreen
  · have hyellow : (localStep s op).light d = .yellow := not_not.mp hother
    obtain rfl : n = 0 := (Option.some.inj hn).symm
    have hstage := (light_yellow hsafe d).mp hyellow
    rw [h.safe.signalOf_step] at hstage
    have hstart := green_step h.safe.signal ((light_green h.safe d).mp hgreen) hstage
    rw [← h.safe.signalOf_step] at hstart
    have hfull : (localStep s op).timeRemaining = 2 := hstart
    refine ⟨hyellow, ?_⟩
    rw [hfull]
    decide
  · have hyellow : (localStep s op).light d = .yellow := not_not.mp hother
    obtain ⟨n₀, hn₀, rfl⟩ := Option.map_eq_some_iff.mp hn
    obtain ⟨hbefore, hsum⟩ := h.served d n₀ hn₀
    have hroad : (signalOf (localStep s op)).stage ≠ .hold := by
      rw [(light_yellow hsafe d).mp hyellow]
      simp
    have hpositive : 0 < (localStep s op).timeRemaining := (hsafe.signal.remaining hroad).1
    refine ⟨hyellow, ?_⟩
    push_cast
    rcases local_yellow_step h.safe hbefore hreset hclear with ⟨-, hspent⟩ | hspent <;> omega

theorem YellowServed.kept {s : LocalState} {ticks : Direction → Option Nat}
    (h : YellowServed s ticks) {op : LocalOp} (hreset : resets op = false)
    (hclear : s.trainPending = true → clears s op = false) : YellowKept (s, ticks) op := by
  intro d n hn hyellow hred
  have hsum := (h.served d n hn).2
  push_cast
  rcases local_yellow_step h.safe hyellow hreset hclear with ⟨hstill, -⟩ | hspent
  · exact absurd (hstill.symm.trans hred) (by decide)
  · omega

/-- In every run from a reachable state in which no clear message or key meets
a pending train, each Yellow that followed a Green is kept. -/
theorem yellowKept_of_run {s : LocalState} (hs : Reachable Booted localStep s)
    {ops : List LocalOp} (hreset : ∀ op ∈ ops, resets op = false)
    (hclear : Along localStep (fun s op => s.trainPending = true → clears s op = false) s ops) :
    Along (watch localStep countYellow) YellowKept (s, fun _ => none) ops := by
  have hrun := (along_and ..).mpr
    ⟨(along_forall localStep (fun op => resets op = false) s ops).mpr hreset, hclear⟩
  have hwatch := (along_watch localStep countYellow _ (s, fun _ => none) ops).mpr hrun
  refine hwatch.of_invariant (I := fun w => YellowServed w.1 w.2) ?_ ?_ ?_
  · rintro ⟨s, ticks⟩ op hserved ⟨hnoreset, hnoclear⟩
    exact hserved.step hnoreset hnoclear
  · rintro ⟨s, ticks⟩ op hserved ⟨hnoreset, hnoclear⟩
    exact hserved.kept hnoreset hnoclear
  · exact ⟨localSafe_reachable hs, fun d n hn => by cases hn⟩

/-- A train that passes in the Green of the other approach. -/
def passingOps : List LocalOp :=
  [.frame (railwayFrame msgRailwayPreempt 1 1 20) .zero, .trafficTick .zero,
    .trafficTick .zero, .frame (railwayFrame msgTrainClear 1 0 0) .zero]

theorem yellowKept_passing :
    Along (watch localStep countYellow) YellowKept
      (localStateInit 0 .zero, fun _ => none) passingOps :=
  yellowKept_of_run (.init ⟨0, .zero, rfl⟩) (by decide) (by decide)

/-- A clear message that arrives one tick after its train leaves one second of
Yellow. -/
theorem yellowKept_cut :
    ¬ ∀ (s : LocalState) (ops : List LocalOp), Reachable Booted localStep s →
      (∀ op ∈ ops, resets op = false ∧ coordinates op = false) →
        Along (watch localStep countYellow) YellowKept (s, fun _ => none) ops := by
  intro h
  have hcut := h (localStateInit 0 .zero)
    [.frame (railwayFrame msgRailwayPreempt 1 1 20) .zero, .trafficTick .zero,
      .frame (railwayFrame msgTrainClear 1 0 0) .zero]
    (.init ⟨0, .zero, rfl⟩) (by decide)
  exact absurd (hcut.2.2.1 .ew 1 (by decide) (by decide) (by decide)) (by decide)

end TrafficLight.ClearingYellow
