import TrafficLight.FreeRun

namespace TrafficLight.PedestrianService

open TrafficLight.Runs
open TrafficLight.Protocol
open TrafficLight.LocalData
open TrafficLight.LocalTraffic
open TrafficLight.LocalMessages
open TrafficLight.LocalCore
open TrafficLight.SignalMachine
open TrafficLight.SignalView
open TrafficLight.SignalRefinement
open TrafficLight.SignalInvariant
open TrafficLight.SignalChanges
open TrafficLight.LocalSafety
open TrafficLight.GreenPlan
open TrafficLight.GreenTransfer
open TrafficLight.FreeRun

variable {s : LocalState} {σ : Signal} {d : Direction}

/-- A Green never has more than its maximum left. -/
def GreenShort (σ : Signal) : Prop :=
  ∀ d, σ.stage = .green d → σ.remaining ≤ 30

theorem GreenShort.of_stage {stage : Stage} (hstage : σ.stage = stage)
    (hne : ∀ d, stage ≠ .green d) : GreenShort σ :=
  fun d hgreen => absurd (hstage.symm.trans hgreen) (hne d)

theorem greenShort_startGreen (σ : Signal) (nsGreen : Int) (d : Direction) :
    GreenShort (σ.startGreen nsGreen d) := by
  intro _ _
  unfold Signal.startGreen
  rw [startStage_remaining]
  exact (clampGreenTime_bounds _).2

theorem greenShort_startTrain (σ : Signal) (h : GreenShort σ) (waiting : Bool) (pass : Int) :
    GreenShort (σ.startTrain waiting pass) := by
  unfold Signal.startTrain
  split
  · exact h
  · dsimp only
    split
    · exact .of_stage (startStage_stage ..) nofun
    · exact h
    · exact .of_stage (startStage_stage ..) nofun

theorem greenShort_clear (h : GreenShort σ) : GreenShort σ.clear := by
  unfold Signal.clear
  split
  · exact .of_stage (startStage_stage ..) nofun
  · exact h

theorem greenShort_tick (hsafe : SignalSafe σ) (h : GreenShort σ) (nsGreen : Int) :
    GreenShort (σ.tick nsGreen) := by
  unfold Signal.tick
  split_ifs with hpending hactive hrecovery
  · obtain ⟨⟨d, hstage⟩, -⟩ := hsafe.pending_stage hpending
    rw [pendingTick_eq hsafe hpending]
    split
    · exact .of_stage (startStage_stage ..) nofun
    · exact .of_stage hstage nofun
  · unfold Signal.activeTick
    dsimp only
    split_ifs
    · exact .of_stage (showLights_stage _) nofun
    · exact greenShort_clear (σ := σ.countPass) h
    · exact .of_stage (startStage_stage ..) nofun
  · unfold Signal.recoveryTick
    dsimp only
    split
    · exact greenShort_startGreen _ _ _
    · exact .of_stage (showLights_stage _) nofun
  · have hfree : Free σ := by
      refine ⟨by simpa using hpending, by simpa using hactive, ?_⟩
      exact le_antisymm (not_lt.mp hrecovery) hsafe.recovery.1
    have htick := hfree.tick hsafe nsGreen
    rw [show σ.tick nsGreen = σ.runTick nsGreen by
      simp [Signal.tick, hpending, hactive, hrecovery]] at htick
    obtain ⟨hstage, hremaining, -⟩ := elapse_frame σ
    generalize σ.runTick nsGreen = σ' at htick
    cases htick with
    | second =>
        intro d hgreen
        have hshort := h d (hstage.symm.trans hgreen)
        omega
    | yellow => exact .of_stage (startStage_stage ..) nofun
    | green => exact greenShort_startGreen _ _ _
    | coordinated _ base offset _ _ hsome =>
        obtain ⟨h0, h44⟩ := hsafe.coordination base offset hsome
        intro d hgreen
        obtain ⟨-, hplace, -⟩ := coordinate_frame (elapse σ) base h0 h44
        rw [hplace]
        unfold cyclePosition
        split_ifs <;> (dsimp only; omega)

theorem greenShort_step (hsafe : SignalSafe σ) (h : GreenShort σ) (op : SignalOp) :
    GreenShort (signalStep σ op) := by
  cases op with
  | idle | coordinate => exact h
  | tick nsGreen => exact greenShort_tick hsafe h nsGreen
  | press d =>
      obtain ⟨hstage, -, hless⟩ := press_frame σ d
      exact fun d' hgreen => hless.trans (h d' (hstage.symm.trans hgreen))
  | demoTrain => exact greenShort_startTrain σ h _ _
  | preempt eta =>
      show GreenShort (σ.preempt eta)
      unfold Signal.preempt
      dsimp only
      split_ifs
      · exact .of_stage (startStage_stage ..) nofun
      · exact h
      · exact greenShort_startTrain σ h _ _
  | clear => exact greenShort_clear h
  | reset => exact greenShort_startGreen _ _ _

theorem greenShort_reachable (hs : Reachable Booted localStep s) : GreenShort (signalOf s) := by
  refine (hs.invariant (I := fun s => LocalSafe s ∧ GreenShort (signalOf s)) ?_ ?_).2
  · rintro s ⟨intersectionId, draws, rfl⟩
    refine ⟨localSafe_init intersectionId draws, fun d _ => ?_⟩
    rw [signalOf_init]
    show (20 : Int) ≤ 30
    decide
  · rintro s op ⟨hsafe, hshort⟩
    refine ⟨hsafe.step op, ?_⟩
    rw [hsafe.signalOf_step]
    exact greenShort_step hsafe.signal hshort _

/-- The next tick serves pedestrians of direction `d`. -/
def DueNow (σ : Signal) (d : Direction) : Prop :=
  σ.stage = .green d.other ∧ 7 ≤ σ.remaining

instance (σ : Signal) (d : Direction) : Decidable (DueNow σ d) := by
  unfold DueNow
  infer_instance

theorem startStage_pedestrians (σ : Signal) (stage : Stage) (duration : Int) :
    (σ.startStage stage duration).walk = (fun _ => false) ∧
      (σ.startStage stage duration).request = σ.request := by
  unfold Signal.startStage Signal.showLights
  split
  · exact ⟨rfl, rfl⟩
  · exact ⟨rfl, rfl⟩

theorem startGreen_pedestrians (σ : Signal) (nsGreen : Int) (d : Direction) :
    (σ.startGreen nsGreen d).walk = (fun _ => false) ∧
      (σ.startGreen nsGreen d).request = σ.request := by
  unfold Signal.startGreen
  refine ⟨(startStage_pedestrians ..).1, (startStage_pedestrians ..).2.trans ?_⟩
  unfold Signal.planFor Signal.plan
  dsimp only
  split
  · rfl
  · rfl

theorem coordinate_pedestrians (σ : Signal) (base : Direction) (offset : Int) :
    (σ.coordinate base offset).walk = (fun _ => false) ∧
      (σ.coordinate base offset).request = σ.request := by
  unfold Signal.coordinate
  exact startStage_pedestrians ..

theorem elapse_serves (hsafe : SignalSafe σ) (hfree : Free σ) (d : Direction) :
    (elapse σ).walk d = decide (DueNow σ d) ∧
      (elapse σ).request d = if DueNow σ d then false else σ.request d := by
  have hduration := (hsafe.remaining (hfree.road hsafe)).2
  have hserves : Signal.serves { σ with remaining := σ.remaining - 1 } d = decide (DueNow σ d) := by
    unfold Signal.serves DueNow
    refine decide_eq_decide.mpr ⟨fun h => ⟨h.1, ?_⟩, fun h => ⟨h.1, ?_, ?_⟩⟩
    · have := h.2.2
      dsimp only at this
      omega
    · dsimp only
      omega
    · have := h.2
      dsimp only
      omega
  unfold elapse Signal.serveWalk
  rw [if_neg (by simp [hfree.active, hfree.recovery])]
  refine ⟨hserves, ?_⟩
  dsimp only
  rw [hserves]
  simp only [decide_eq_true_eq]

theorem tick_serves (hsafe : SignalSafe σ) (hfree : Free σ) (d : Direction) (nsGreen : Int) :
    (σ.tick nsGreen).walk d = decide (DueNow σ d) ∧
      (σ.tick nsGreen).request d = if DueNow σ d then false else σ.request d := by
  have hserves := elapse_serves hsafe hfree d
  have hends : ∀ σ' : Signal, σ.remaining = 1 →
      σ'.walk = (fun _ => false) ∧ σ'.request = (elapse σ).request →
        σ'.walk d = decide (DueNow σ d) ∧
          σ'.request d = if DueNow σ d then false else σ.request d := by
    rintro σ' hlast ⟨hwalk, hrequest⟩
    have hlater : ¬ DueNow σ d := fun hdue => by
      have hlong := hdue.2
      omega
    rw [hwalk, hrequest, hserves.2]
    exact ⟨(decide_eq_false hlater).symm, rfl⟩
  have htick := hfree.tick hsafe nsGreen
  generalize σ.tick nsGreen = σ' at htick
  cases htick with
  | second => exact hserves
  | yellow _ _ hlast => exact hends _ hlast (startStage_pedestrians ..)
  | green _ _ hlast => exact hends _ hlast (startGreen_pedestrians ..)
  | coordinated _ _ _ _ hlast => exact hends _ hlast (coordinate_pedestrians ..)

/-- The ticks to the next WALK of a direction, at most. -/
def ticksToWalk (σ : Signal) (d : Direction) : Int :=
  match σ.stage with
  | .green d' =>
      if d' = d then σ.remaining + 3
      else if 7 ≤ σ.remaining then 1 else σ.remaining + 35
  | .yellow d' => if d' = d then σ.remaining + 1 else σ.remaining + 33
  | .hold => 0

theorem ticksToWalk_bounds (hsafe : SignalSafe σ) (hfree : Free σ) (hshort : GreenShort σ)
    (d : Direction) : 1 ≤ ticksToWalk σ d ∧ ticksToWalk σ d ≤ 41 := by
  have hroad := hfree.road hsafe
  obtain ⟨hpositive, hduration⟩ := hsafe.remaining hroad
  unfold ticksToWalk
  cases hstage : σ.stage with
  | hold => exact absurd hstage hroad
  | green d' =>
      have hgreen := hshort d' hstage
      dsimp only
      split_ifs <;> omega
  | yellow d' =>
      have hyellow := hsafe.yellow d' hstage
      dsimp only
      split_ifs <;> omega

theorem ticksToWalk_green {d' : Direction} (hstage : σ.stage = .green d') :
    ticksToWalk σ d =
      if d' = d then σ.remaining + 3 else if 7 ≤ σ.remaining then 1 else σ.remaining + 35 := by
  unfold ticksToWalk
  rw [hstage]

theorem ticksToWalk_yellow {d' : Direction} (hstage : σ.stage = .yellow d') :
    ticksToWalk σ d = if d' = d then σ.remaining + 1 else σ.remaining + 33 := by
  unfold ticksToWalk
  rw [hstage]

theorem rank_tick (hsafe : SignalSafe σ) (hplan : PlanSafe σ) (hidle : Idle σ)
    (hlater : ¬ DueNow σ d) (nsGreen : Int) :
    ticksToWalk (σ.tick nsGreen) d + 1 ≤ ticksToWalk σ d := by
  have hroad : σ.stage ≠ .hold := Free.road ⟨hidle.pending, hidle.active, hidle.recovery⟩ hsafe
  cases (greenStep_tick hsafe hplan hidle nsGreen).change with
  | same hstage hremaining =>
      cases hbefore : σ.stage with
      | hold => exact absurd hbefore hroad
      | green d' =>
          rw [ticksToWalk_green (hstage.trans hbefore), ticksToWalk_green hbefore]
          rcases eq_or_other d d' with rfl | rfl
          · rw [if_pos rfl, if_pos rfl]
            omega
          · have hlow : σ.remaining < 7 := not_le.mp fun hlong => hlater ⟨hbefore, hlong⟩
            rw [if_neg (other_ne d), if_neg (other_ne d), if_neg (by omega), if_neg (by omega)]
            omega
      | yellow d' =>
          rw [ticksToWalk_yellow (hstage.trans hbefore), ticksToWalk_yellow hbefore]
          split_ifs <;> omega
  | transfer _ _ hticks => cases hticks
  | yellow d' _ hgreen hlast hstage hremaining =>
      rw [ticksToWalk_yellow hstage, ticksToWalk_green hgreen, hremaining, hlast]
      split_ifs <;> omega
  | green d' _ hyellow hlast hstart =>
      obtain ⟨hlong, hshort⟩ := hstart.limits
      rw [ticksToWalk_green hstart.stage, ticksToWalk_yellow hyellow, hlast]
      rcases eq_or_other d d' with rfl | rfl
      · rw [if_neg (other_ne d'), if_pos (by omega), if_pos rfl]
      · rw [other_other, if_pos rfl, if_neg (other_ne d)]
        omega

theorem rank_press (hidle : Idle σ) (d' : Direction) :
    ticksToWalk (σ.press d') d ≤ ticksToWalk σ d := by
  cases (greenStep_press hidle d').change with
  | same hstage hremaining =>
      have hsame : (σ.press d').remaining = σ.remaining := by simpa using hremaining
      unfold ticksToWalk
      rw [hstage, hsame]
  | transfer d'' seconds _ hgreen hstage hremaining hleft _ hseconds =>
      rw [ticksToWalk_green (hstage.trans hgreen), ticksToWalk_green hgreen]
      split_ifs <;> omega
  | yellow _ hticks | green _ hticks => cases hticks

def requested (s : LocalState) : Direction → Bool
  | .ns => s.pedNsRequest
  | .ew => s.pedEwRequest

/-- The ticks that a request of direction `d` has waited for, until a tick shows its
WALK. -/
def observeWalk (d : Direction) (_ : LocalState) (op : LocalOp) (s' : LocalState) :
    Option Nat → Option Nat
  | none => none
  | some ticks =>
      if ticksOf op = 1 ∧ s'.walk d = true then none else some (ticks + ticksOf op)

/-- A whole Green of the other direction and two Yellows, and the part of the own
service Green in which there is no WALK. -/
def walkBound : Int :=
  greenMaxSec + 2 * yellowSec + pedWalkStartSec + pedWalkEndSec + 1

/-- A request that has not been served is still there, and has not waited too long. -/
def InTime (d : Direction) (w : LocalState × Option Nat) : Prop :=
  ∀ ticks : Nat, w.2 = some ticks → requested w.1 d = true ∧ ticks < walkBound

/-- Only a tick that shows the WALK takes a request. -/
def TakenByWalk (d : Direction) (s : LocalState) (op : LocalOp) : Prop :=
  requested s d = true → requested (localStep s op) d = false →
    ticksOf op = 1 ∧ (localStep s op).walk d = true

/-- The state of the signals that the promise is read off. -/
structure Serving (d : Direction) (s : LocalState) : Prop where
  safe : LocalSafe s
  plan : PlanSafe (signalOf s)
  idle : Idle (signalOf s)
  short : GreenShort (signalOf s)

theorem Serving.free (h : Serving d s) : Free (signalOf s) :=
  ⟨h.idle.pending, h.idle.active, h.idle.recovery⟩

theorem requested_eq (s : LocalState) (d : Direction) :
    requested s d = (signalOf s).request d := by
  cases d <;> rfl

theorem Serving.step (h : Serving d s) {op : LocalOp} (hop : Calm s op) :
    Serving d (localStep s op) := by
  have hsignal := h.safe.signalOf_step op
  refine ⟨h.safe.step op, ?_, ?_, ?_⟩
  · rw [hsignal]
    exact h.plan.step h.safe.signal _
  · rw [hsignal]
    exact (greenStep h.safe.signal h.plan h.idle (undisturbing_of_calm hop)).idle
  · rw [hsignal]
    exact greenShort_step h.safe.signal h.short _

theorem press_request (σ : Signal) (d' : Direction) (h : σ.request d = true) :
    (σ.press d').request d = true := by
  have hupdate : Function.update σ.request d' true d = true := by
    rcases eq_or_ne d d' with rfl | hne
    · exact Function.update_self ..
    · rw [Function.update_of_ne hne]
      exact h
  unfold Signal.press Signal.cap
  split
  · exact h
  · split
    · exact hupdate
    · exact hupdate

theorem Serving.serves (h : Serving d s) {op : LocalOp} (hop : Calm s op)
    (hrequest : requested s d = true) :
    (ticksOf op = 1 ∧ (localStep s op).walk d = true) ∨
      requested (localStep s op) d = true ∧
        ¬ (ticksOf op = 1 ∧ (localStep s op).walk d = true) ∧
          ticksToWalk (signalOf (localStep s op)) d + ticksOf op ≤ ticksToWalk (signalOf s) d := by
  have hundisturbing := undisturbing_of_calm hop
  have hwalk : (localStep s op).walk d = (signalOf (localStep s op)).walk d := rfl
  rw [requested_eq] at hrequest
  rw [hwalk, requested_eq, h.safe.signalOf_step, ← signalOp_ticks s op]
  generalize signalOp s op = sop at hundisturbing ⊢
  cases sop with
  | tick nsGreen =>
      obtain ⟨hshown, htaken⟩ := tick_serves h.safe.signal h.free d nsGreen
      by_cases hdue : DueNow (signalOf s) d
      · exact .inl ⟨rfl, hshown.trans (decide_eq_true hdue)⟩
      · refine .inr ⟨?_, ?_, rank_tick h.safe.signal h.plan h.idle hdue nsGreen⟩
        · exact htaken.trans ((if_neg hdue).trans hrequest)
        · rintro ⟨-, hon⟩
          exact hdue (of_decide_eq_true (hshown.symm.trans hon))
  | press d' =>
      have hrank := rank_press (d := d) h.idle d'
      refine .inr ⟨press_request _ d' hrequest, nofun, ?_⟩
      exact (Int.add_zero _).trans_le hrank
  | idle => exact .inr ⟨hrequest, nofun, (Int.add_zero _).le⟩
  | clear =>
      rw [show signalStep (signalOf s) .clear = signalOf s from h.free.clear]
      exact .inr ⟨hrequest, nofun, (Int.add_zero _).le⟩
  | demoTrain | preempt | coordinate | reset => exact hundisturbing.elim

/-- A request is served within 41 ticks, whatever calm operations come between them,
and it is not lost before that. -/
theorem pedestrian_served (hs : Reachable Booted localStep s) (hrequest : requested s d = true)
    (htrain : s.trainPending = false ∧ s.trainActive = false ∧ s.trainRecoveryRemaining ≤ 0)
    (hcoordination : s.coordinationPending = false) {ops : List LocalOp}
    (hops : Along localStep Calm s ops) :
    Along localStep (TakenByWalk d) s ops ∧
      Throughout (watch localStep (observeWalk d)) (InTime d) (s, some 0) ops := by
  have hsafe := localSafe_reachable hs
  have hserving : Serving d s := by
    refine ⟨hsafe, planSafe_reachable hs, ⟨htrain.1, htrain.2.1, ?_, ?_⟩, greenShort_reachable hs⟩
    · exact le_antisymm htrain.2.2 hsafe.signal.recovery.1
    · simp [signalOf, hcoordination]
  refine ⟨hops.of_invariant (fun s op h hop => h.step hop) (fun s op h hop hwaits htaken => ?_)
    hserving, ?_⟩
  · obtain hserved | ⟨hkept, -⟩ := h.serves hop hwaits
    · exact hserved
    · rw [hkept] at htaken
      cases htaken
  · have hwatch := (along_watch localStep (observeWalk d) _ (s, some 0) ops).mpr hops
    refine hwatch.throughout (J := fun w => Serving d w.1 ∧ ∀ ticks : Nat, w.2 = some ticks →
      requested w.1 d = true ∧ ticks + ticksToWalk (signalOf w.1) d ≤ walkBound) ?_ ?_ ?_
    · rintro ⟨s, log⟩ op ⟨h, hlog⟩ hop
      refine ⟨h.step hop, fun ticks hticks => ?_⟩
      cases log with
      | none => cases hticks
      | some waited =>
          obtain ⟨hwaits, hrank⟩ := hlog waited rfl
          have hobserved : (if ticksOf op = 1 ∧ (localStep s op).walk d = true then none
              else some (waited + ticksOf op)) = some ticks := hticks
          obtain hserved | ⟨hkept, hunserved, hless⟩ := h.serves hop hwaits
          · rw [if_pos hserved] at hobserved
            cases hobserved
          · rw [if_neg hunserved] at hobserved
            obtain rfl := Option.some.inj hobserved
            refine ⟨hkept, ?_⟩
            dsimp only at hrank hless
            show ((waited + ticksOf op : Nat) : Int) + ticksToWalk (signalOf (localStep s op)) d ≤ _
            push_cast
            omega
    · rintro ⟨s, log⟩ ⟨h, hlog⟩ ticks hticks
      obtain ⟨hwaits, hrank⟩ := hlog ticks hticks
      have hpositive := (ticksToWalk_bounds h.safe.signal h.free h.short d).1
      refine ⟨hwaits, ?_⟩
      dsimp only at hrank hpositive ⊢
      omega
    · refine ⟨hserving, fun ticks hticks => ?_⟩
      obtain rfl := Option.some.inj hticks
      have hbound := (ticksToWalk_bounds hsafe.signal hserving.free hserving.short d).2
      have h41 : walkBound = 41 := rfl
      refine ⟨hrequest, ?_⟩
      dsimp only
      omega

/-- A request for NS with six seconds of the EW Green left comes too late for that
Green and waits for the next one. -/
theorem pedestrian_served_late :
    let early := List.replicate 14 (LocalOp.trafficTick Draws.zero)
    let s := run localStep (localStateInit 0 Draws.zero) (early ++ [.input ['n'] Draws.zero])
    let ops := LocalOp.input ['e'] Draws.zero :: List.replicate 41 (.trafficTick Draws.zero)
    Along localStep (TakenByWalk .ns) s ops ∧
      Throughout (watch localStep (observeWalk .ns)) (InTime .ns) (s, some 0) ops :=
  pedestrian_served ((Reachable.init ⟨0, Draws.zero, rfl⟩).run _) (by decide +kernel)
    (by decide +kernel) (by decide +kernel) (by decide +kernel)

end TrafficLight.PedestrianService
