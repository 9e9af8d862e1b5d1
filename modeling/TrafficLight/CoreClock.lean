import TrafficLight.CentralMonitor
import TrafficLight.ClearingYellow
import TrafficLight.FixedDelay
import TrafficLight.RailwayHold

/-!
The clock of a Local, from `run_core`: a tick is due a second after the last one
ended, and a request that changes the phase puts it off to a second after itself.
What the signals count in ticks therefore takes at least as many seconds. Readings of
`monotonic_ns` never go back and stay far below the range of the code's type.
-/

namespace TrafficLight.CoreClock

open TrafficLight.Runs
open TrafficLight.Protocol
open TrafficLight.LocalData
open TrafficLight.LocalTraffic
open TrafficLight.LocalMessages
open TrafficLight.LocalCore
open TrafficLight.SignalMachine
open TrafficLight.SignalView
open TrafficLight.SignalRefinement
open TrafficLight.SignalInvariant
open TrafficLight.SignalChanges
open TrafficLight.LocalSafety
open TrafficLight.LocalCommands
open TrafficLight.ClearingYellow
open TrafficLight.RailwayHold
open TrafficLight.CentralMonitor
open TrafficLight.FixedDelay

def localTickNs : Nat := 1000000000
def localLinkTimeoutNs : Nat := heartbeatMissLimit * localTickNs

/-- A request to the core. -/
inductive CoreRequest
  | snapshot
  | frame (msg : TestMessage) (draws : Draws)
  | input (command : List Char) (draws : Draws)
  | links (centralUp trainUp : Bool)

def CoreRequest.step : CoreRequest → CoreStep
  | .snapshot => .snapshot
  | .frame msg draws => .frame msg draws
  | .input command draws => .input command draws
  | .links centralUp trainUp => .links centralUp trainUp

/-- The Local, the last reading of the clock, `next_tick` and `link_deadline`. -/
structure CoreLoop where
  state : LocalState
  clock : Nat
  nextTick : Nat
  linkDeadline : Nat

def loopStart (intersectionId : UInt8) (draws : Draws) (now : Nat) : CoreLoop :=
  ⟨localStateInit intersectionId draws, now, now + localTickNs, 0⟩

def linkExpired (c : CoreLoop) (now : Nat) : Bool :=
  c.linkDeadline ≠ 0 ∧ c.linkDeadline ≤ now

/-- The top of the loop: a tick, if it is due. It takes `work` nanoseconds. -/
def poll (c : CoreLoop) (now work : Nat) (draws : Draws) : CoreLoop :=
  if c.nextTick ≤ now then
    { c with
      state := coreTick c.state (linkExpired c now) draws
      clock := now + work
      nextTick := now + work + localTickNs }
  else { c with clock := now }

/-- The rest of the loop for a request that has arrived. -/
def receive (c : CoreLoop) (now : Nat) (request : CoreRequest) : CoreLoop :=
  { state := coreStep c.state request.step
    clock := now
    nextTick :=
      if (coreStep c.state request.step).phase ≠ c.state.phase then now + localTickNs
      else c.nextTick
    linkDeadline :=
      match request with
      | .links _ _ => now + localLinkTimeoutNs
      | _ => c.linkDeadline }

/-- The two halves of a turn, `wait` nanoseconds after the one before. -/
inductive LoopStep
  | poll (wait work : Nat) (draws : Draws)
  | receive (wait : Nat) (request : CoreRequest)

/-- The reading of the clock that a step starts with. -/
def LoopStep.reading (c : CoreLoop) : LoopStep → Nat
  | .poll wait _ _ => c.clock + wait
  | .receive wait _ => c.clock + wait

def loopStep (c : CoreLoop) : LoopStep → CoreLoop
  | .poll wait work draws => poll c (c.clock + wait) work draws
  | .receive wait request => receive c (c.clock + wait) request

/-- The operations of a step on the Local. -/
def loopOps (c : CoreLoop) : LoopStep → List LocalOp
  | .poll wait _ draws =>
      if c.nextTick ≤ c.clock + wait then
        (CoreStep.tick (linkExpired c (c.clock + wait)) draws).ops
      else []
  | .receive _ request => request.step.ops

theorem loopStep_state (c : CoreLoop) (step : LoopStep) :
    (loopStep c step).state = run localStep c.state (loopOps c step) := by
  cases step with
  | poll wait work draws =>
      show (poll c (c.clock + wait) work draws).state = _
      unfold poll loopOps
      dsimp only
      split
      · exact coreStep_eq_run c.state (.tick (linkExpired c (c.clock + wait)) draws)
      · rfl
  | receive wait request => exact coreStep_eq_run c.state request.step

theorem localSafe_loopStep {c : CoreLoop} (h : LocalSafe c.state) (step : LoopStep) :
    LocalSafe (loopStep c step).state := by
  rw [loopStep_state]
  exact run_invariant (I := LocalSafe) (fun _ op hs => hs.step op) h _

def ticksIn (ops : List LocalOp) : Nat := (ops.map ticksOf).sum

/-- A countdown of the Local, `none` while it does not run. Operations that spare it
leave it to the ticks, and so does every operation of a tick. -/
structure CountsDown (running : LocalState → Option Int) (spares : LocalState → LocalOp → Prop) :
    Prop where
  pos : ∀ s left, LocalSafe s → running s = some left → 1 ≤ left
  tick : ∀ s linkExpired draws, ∀ op ∈ (CoreStep.tick linkExpired draws).ops, spares s op
  step : ∀ s op left, LocalSafe s → spares s op → running s = some left →
    (∃ left', running (localStep s op) = some left' ∧ left ≤ left' + ticksOf op) ∨
      left ≤ ticksOf op

variable {running : LocalState → Option Int} {spares : LocalState → LocalOp → Prop}

theorem CountsDown.run (h : CountsDown running spares) {s : LocalState} (hs : LocalSafe s)
    {ops : List LocalOp} (hops : Along localStep spares s ops) {left : Int}
    (hleft : running s = some left) :
    (∃ left', running (run localStep s ops) = some left' ∧ left ≤ left' + ticksIn ops) ∨
      left ≤ ticksIn ops := by
  induction ops generalizing s left with
  | nil => exact Or.inl ⟨left, hleft, by simp [ticksIn]⟩
  | cons op ops ih =>
      have hsum : (ticksIn (op :: ops) : Int) = ticksOf op + ticksIn ops := by
        simp [ticksIn]
      rcases h.step s op left hs hops.1 hleft with ⟨left', hrunning, hspent⟩ | hspent
      · rcases ih (hs.step op) hops.2 hrunning with ⟨last, hlast, hrest⟩ | hrest
        · exact Or.inl ⟨last, hlast, by omega⟩
        · exact Or.inr (by omega)
      · exact Or.inr (by omega)

theorem along_request (request : CoreRequest) (s : LocalState)
    (h : ∀ op ∈ request.step.ops, spares s op) :
    Along localStep spares s request.step.ops ∧ ticksIn request.step.ops = 0 := by
  cases request with
  | snapshot => exact ⟨trivial, rfl⟩
  | frame msg draws => exact ⟨⟨h _ (List.mem_singleton_self _), trivial⟩, rfl⟩
  | input command draws => exact ⟨⟨h _ (List.mem_singleton_self _), trivial⟩, rfl⟩
  | links centralUp trainUp => exact ⟨⟨h _ (List.mem_singleton_self _), trivial⟩, rfl⟩

theorem CountsDown.along_tick (h : CountsDown running spares) (s : LocalState)
    (linkExpired : Bool) (draws : Draws) :
    Along localStep spares s (CoreStep.tick linkExpired draws).ops ∧
      ticksIn (CoreStep.tick linkExpired draws).ops = 1 := by
  constructor
  · have hall : ∀ (ops : List LocalOp) (s : LocalState),
        (∀ op ∈ ops, ∀ s, spares s op) → Along localStep spares s ops := by
      intro ops
      induction ops with
      | nil => exact fun _ _ => trivial
      | cons op ops ih =>
          intro s hops
          exact ⟨hops op List.mem_cons_self s,
            ih _ fun op' hop' => hops op' (List.mem_cons_of_mem _ hop')⟩
    exact hall _ s fun op hop s => h.tick s linkExpired draws op hop
  · cases linkExpired <;> rfl

/-! ### Time -/

/-- The step sets `next_tick`. -/
def restarts (c : CoreLoop) : LoopStep → Bool
  | .poll wait _ _ => c.nextTick ≤ c.clock + wait
  | .receive _ request => (coreStep c.state request.step).phase ≠ c.state.phase

/-- When a countdown began, and its full seconds: the first tick after a request that
left the phase as it was may come at once. -/
def observe (running : LocalState → Option Int) (c : CoreLoop) (step : LoopStep) (c' : CoreLoop)
    (begun : Option (Nat × Int)) : Option (Nat × Int) :=
  match running c'.state with
  | none => none
  | some left =>
      if (running c.state).isSome then begun
      else some (c'.clock, if restarts c step then left else left - 1)

/-- A countdown that ends has lasted its full seconds on the clock. -/
def Lasts (running : LocalState → Option Int) (w : CoreLoop × Option (Nat × Int))
    (step : LoopStep) : Prop :=
  ∀ since n, w.2 = some (since, n) → running (loopStep w.1 step).state = none →
    since + n * localTickNs ≤ step.reading w.1

/-- The requests of a run spare a countdown. -/
def Spared (spares : LocalState → LocalOp → Prop) (c : CoreLoop) : LoopStep → Prop
  | .poll _ _ _ => True
  | .receive _ request => ∀ op ∈ request.step.ops, spares c.state op

structure OnTime (running : LocalState → Option Int) (w : CoreLoop × Option (Nat × Int)) :
    Prop where
  safe : LocalSafe w.1.state
  near : w.1.nextTick ≤ w.1.clock + localTickNs
  counts : ∀ since n, w.2 = some (since, n) → ∃ left, running w.1.state = some left ∧
    Counts localTickNs since n left w.1.nextTick w.1.clock

theorem loopStep_clock {c : CoreLoop} (h : c.nextTick ≤ c.clock + localTickNs) (step : LoopStep) :
    step.reading c ≤ (loopStep c step).clock ∧ c.clock ≤ step.reading c ∧
      max c.nextTick c.clock ≤ max (loopStep c step).nextTick (loopStep c step).clock ∧
      (loopStep c step).nextTick ≤ (loopStep c step).clock + localTickNs ∧
      (restarts c step = true →
        (loopStep c step).nextTick = (loopStep c step).clock + localTickNs) := by
  cases step with
  | poll wait work draws =>
      simp only [loopStep, poll, LoopStep.reading, restarts]
      split
      · rename_i hdue
        dsimp only
        refine ⟨by omega, by omega, by omega, by omega, fun _ => rfl⟩
      · rename_i hdue
        dsimp only
        refine ⟨by omega, by omega, by omega, by omega, ?_⟩
        rw [decide_eq_false hdue]
        exact fun hfalse => absurd hfalse Bool.false_ne_true
  | receive wait request =>
      simp only [loopStep, receive, LoopStep.reading, restarts]
      split
      · rename_i hphase
        refine ⟨by omega, by omega, by omega, by omega, fun _ => rfl⟩
      · rename_i hphase
        refine ⟨by omega, by omega, by omega, by omega, ?_⟩
        rw [decide_eq_false hphase]
        exact fun hfalse => absurd hfalse Bool.false_ne_true

theorem OnTime.spent {w : CoreLoop × Option (Nat × Int)} (h : OnTime running w)
    (hcount : CountsDown running spares) {step : LoopStep} (hspared : Spared spares w.1 step)
    {since : Nat} {n : Int} (hbegun : w.2 = some (since, n)) :
    (running (loopStep w.1 step).state = none → since + n * localTickNs ≤ step.reading w.1) ∧
      ∀ left', running (loopStep w.1 step).state = some left' →
        Counts localTickNs since n left' (loopStep w.1 step).nextTick
          (loopStep w.1 step).clock := by
  obtain ⟨c, begun⟩ := w
  obtain ⟨left, hleft, hcounts⟩ := h.counts since n hbegun
  have hpos := hcount.pos _ left h.safe hleft
  have hsafe := localSafe_loopStep h.safe step
  obtain ⟨hafter, -, hmax, -, -⟩ := loopStep_clock h.near step
  have hstate := loopStep_state c step
  -- operations without a tick
  have hquiet : Along localStep spares c.state (loopOps c step) → ticksIn (loopOps c step) = 0 →
      (running (loopStep c step).state = none → since + n * localTickNs ≤ step.reading c) ∧
      ∀ left', running (loopStep c step).state = some left' →
        Counts localTickNs since n left' (loopStep c step).nextTick (loopStep c step).clock := by
    intro halong hticks
    rcases hcount.run h.safe halong hleft with ⟨last, hlast, hspent⟩ | hspent
    · rw [hticks] at hspent
      rw [← hstate] at hlast
      constructor
      · exact fun hnone => absurd (hlast.symm.trans hnone) (Option.some_ne_none last)
      · intro left' hleft'
        obtain rfl : last = left' := Option.some.inj (hlast.symm.trans hleft')
        exact hcounts.mono (by omega) hmax
    · rw [hticks] at hspent
      exact absurd hspent (by omega)
  cases step with
  | poll wait work draws =>
      by_cases hdue : c.nextTick ≤ c.clock + wait
      · obtain ⟨halong, hone⟩ :=
          hcount.along_tick c.state (linkExpired c (c.clock + wait)) draws
        have hops : loopOps c (.poll wait work draws) =
            (CoreStep.tick (linkExpired c (c.clock + wait)) draws).ops := if_pos hdue
        have hnow : max c.nextTick c.clock ≤ c.clock + wait := by omega
        have hnext : (loopStep c (.poll wait work draws)).nextTick =
            (loopStep c (.poll wait work draws)).clock + localTickNs := by
          simp only [loopStep, poll, if_pos hdue]
        have hended : left ≤ 1 → since + n * localTickNs ≤ (c.clock + wait : Nat) :=
          fun hlast => hcounts.due hnow hlast
        rcases hcount.run h.safe halong hleft with ⟨last, hlast, hspent⟩ | hspent
        · rw [hone] at hspent
          rw [← hops, ← hstate] at hlast
          constructor
          · exact fun hnone => absurd (hlast.symm.trans hnone) (Option.some_ne_none last)
          · intro left' hleft'
            obtain rfl : last = left' := Option.some.inj (hlast.symm.trans hleft')
            rw [hnext]
            exact hcounts.release hnow (by omega) hafter
        · rw [hone] at hspent
          constructor
          · exact fun _ => hended (by omega)
          · intro left' hleft'
            have hpos' := hcount.pos _ left' hsafe hleft'
            rw [hnext]
            exact hcounts.release hnow (by omega) hafter
      · have hops : loopOps c (.poll wait work draws) = [] := if_neg hdue
        exact hquiet (by rw [hops]; trivial) (by rw [hops]; rfl)
  | receive wait request =>
      obtain ⟨halong, hnone⟩ := along_request request c.state hspared
      exact hquiet halong hnone

theorem OnTime.step {w : CoreLoop × Option (Nat × Int)} (h : OnTime running w)
    (hcount : CountsDown running spares) {step : LoopStep} (hspared : Spared spares w.1 step) :
    OnTime running (watch loopStep (observe running) w step) := by
  obtain ⟨-, hlater, -, hnear, hrestart⟩ := loopStep_clock h.near step
  refine ⟨localSafe_loopStep h.safe step, hnear, ?_⟩
  intro since n hbegun
  show ∃ left, running (loopStep w.1 step).state = some left ∧ _
  rw [watch_snd, observe] at hbegun
  cases hafter : running (loopStep w.1 step).state with
  | none =>
      rw [hafter] at hbegun
      exact absurd hbegun.symm (Option.some_ne_none _)
  | some left' =>
      rw [hafter] at hbegun
      dsimp only at hbegun
      refine ⟨left', rfl, ?_⟩
      split at hbegun
      · exact (h.spent hcount hspared hbegun).2 left' hafter
      · obtain ⟨hsince, hn⟩ := Prod.mk.inj (Option.some.inj hbegun)
        show Counts localTickNs since n left' (loopStep w.1 step).nextTick
          (loopStep w.1 step).clock
        rw [← hsince, ← hn]
        split
        · rename_i hfull
          exact counts_full (hrestart hfull)
        · exact counts_late le_rfl

/-- Along a run that spares a countdown, every countdown lasts its full seconds, and every
step does what a step does in a state that is on time. -/
theorem CountsDown.along (hcount : CountsDown running spares) {c : CoreLoop}
    (hsafe : LocalSafe c.state) (hnear : c.nextTick ≤ c.clock + localTickNs)
    {steps : List LoopStep} (hspared : Along loopStep (Spared spares) c steps)
    {shown : CoreLoop × Option (Nat × Int) → LoopStep → Prop}
    (hshown : ∀ w step, OnTime running w → shown w step) :
    Along (watch loopStep (observe running))
      (fun w step => Lasts running w step ∧ shown w step) (c, none) steps := by
  have hwatch := (along_watch loopStep (observe running) (Spared spares) (c, none) steps).mpr
    hspared
  apply hwatch.of_invariant (I := OnTime running)
  · exact fun w step h hstep => h.step hcount hstep
  · intro w step h hstep
    refine ⟨?_, hshown w step h⟩
    intro since n hbegun hended
    exact (h.spent hcount hstep hbegun).1 hended
  · exact ⟨hsafe, hnear, fun _ _ hbegun => absurd hbegun.symm (Option.some_ne_none _)⟩

def yellow (d : Direction) (s : LocalState) : Option Int :=
  if s.light d = .yellow then some s.timeRemaining else none

/-- No console reset in the Yellow, and no clear while its train is still on its way. -/
def SparesYellow (d : Direction) (s : LocalState) (op : LocalOp) : Prop :=
  s.light d = .yellow → resets op = false ∧ (s.trainPending = true → clears s op = false)

theorem tick_ops {linkExpired : Bool} {draws : Draws} {op : LocalOp}
    (h : op ∈ (CoreStep.tick linkExpired draws).ops) :
    resets op = false ∧ (∀ s, clears s op = false) ∧
      (op = .timeOfDay ∨ ∀ s, startsTrain s op = false) := by
  cases linkExpired <;>
    simp only [CoreStep.ops, if_true, Bool.false_eq_true, if_false, List.cons_append,
      List.nil_append, List.mem_cons, List.not_mem_nil, or_false] at h
  · rcases h with rfl | rfl | rfl | rfl | rfl <;> simp [resets, clears, startsTrain]
  · rcases h with rfl | rfl | rfl | rfl | rfl | rfl <;> simp [resets, clears, startsTrain]

theorem countsDown_yellow (d : Direction) : CountsDown (yellow d) (SparesYellow d) where
  pos s left hs hleft := by
    unfold yellow at hleft
    split at hleft
    · rename_i hlit
      have hroad : (signalOf s).stage ≠ .hold := by
        rw [(light_yellow hs d).mp hlit]
        exact Stage.noConfusion
      rw [← Option.some.inj hleft]
      exact (hs.signal.remaining hroad).1
    · exact absurd hleft.symm (Option.some_ne_none _)
  tick s linkExpired draws op hop _ := ⟨(tick_ops hop).1, fun _ => (tick_ops hop).2.1 s⟩
  step s op left hs hspares hleft := by
    unfold yellow at hleft
    split at hleft
    · rename_i hlit
      obtain rfl : s.timeRemaining = left := Option.some.inj hleft
      obtain ⟨hreset, hclear⟩ := hspares hlit
      rcases local_yellow_step hs hlit hreset hclear with ⟨hstill, hspent⟩ | hspent
      · exact Or.inl ⟨_, if_pos hstill, hspent⟩
      · exact Or.inr hspent
    · exact absurd hleft.symm (Option.some_ne_none _)

/-- The Local when a tick has looked at the deadline of its links. -/
def pastDeadline (s : LocalState) (linkExpired : Bool) : LocalState :=
  if linkExpired then { s with centralConnected := false, trainConnected := false } else s

/-- The timetable of the Local itself starts a train in this step. -/
def ownTrain (c : CoreLoop) : LoopStep → Bool
  | .poll wait _ _ =>
      decide (c.nextTick ≤ c.clock + wait) &&
        trainDue (pastDeadline c.state (linkExpired c (c.clock + wait)))
  | .receive _ _ => false

theorem signalOf_pastDeadline (s : LocalState) (linkExpired : Bool) :
    signalOf (pastDeadline s linkExpired) = signalOf s := by
  cases linkExpired <;> rfl

theorem signalOf_coreTick {s : LocalState} (h : LocalSafe s) (linkExpired : Bool)
    (draws : Draws) :
    ∃ nsGreen, signalOf (coreTick s linkExpired draws) =
      signalStep (signalStep (signalOf s)
        (if trainDue (pastDeadline s linkExpired) then .demoTrain else .idle))
        (.tick nsGreen) := by
  have hcleared : ∀ t : LocalState, LocalSafe t → ∃ nsGreen,
      signalOf (coreTick t false draws) =
        signalStep (signalStep (signalOf t) (if trainDue t then .demoTrain else .idle))
          (.tick nsGreen) := by
    intro t ht
    refine ⟨greenTimeForDirection (localStep (localStep t .timeOfDay) .temporaryMode) .ns, ?_⟩
    have hday := ht.step .timeOfDay
    have hmode := hday.step .temporaryMode
    have htraffic := hmode.step (.trafficTick draws)
    have hcounts := htraffic.step (.vehicleCounts draws)
    show signalOf (localStep (localStep (localStep (localStep (localStep t .timeOfDay)
      .temporaryMode) (.trafficTick draws)) (.vehicleCounts draws)) .markDirty) = _
    rw [hcounts.signalOf_step, htraffic.signalOf_step, hmode.signalOf_step,
      hday.signalOf_step, ht.signalOf_step]
    rfl
  cases linkExpired with
  | false => exact hcleared s h
  | true =>
      have hlost := h.step .linkTimeout
      obtain ⟨nsGreen, hsignal⟩ := hcleared _ hlost
      rw [h.signalOf_step] at hsignal
      exact ⟨nsGreen, hsignal⟩

/-- A train of the timetable takes a second of its clearing Yellow in the tick that
starts it. -/
theorem demoTrain_tick {σ : Signal} (h : SignalSafe σ) {d : Direction}
    (hgreen : σ.stage = .green d) (hidle : σ.active = false ∧ σ.pending = false)
    (nsGreen : Int) :
    (signalStep (signalStep σ .demoTrain) (.tick nsGreen)).stage = .yellow d ∧
      (signalStep (signalStep σ .demoTrain) (.tick nsGreen)).remaining = 1 := by
  have hstart : (signalStep σ .demoTrain).stage = .yellow d ∧
      (signalStep σ .demoTrain).remaining = 2 := by
    simp only [signalStep, Signal.startTrain, hidle.1, hidle.2, hgreen, Bool.false_eq_true,
      or_self, if_false]
    exact ⟨showLights_stage _, showLights_remaining _⟩
  have hsafe : SignalSafe (signalStep σ .demoTrain) := h.step trivial
  cases signalStep_change hsafe (.tick nsGreen) with
  | second _ _ _ _ hstage hremaining =>
      refine ⟨hstage.trans hstart.1, ?_⟩
      rw [hremaining, hstart.2]
      rfl
  | keep _ _ _ hop => exact absurd rfl (hop nsGreen)
  | cap _ _ _ _ _ hop => exact absurd rfl (hop nsGreen)
  | yellow _ hbefore => exact absurd (hstart.1.symm.trans hbefore) (by simp)
  | green _ _ _ _ hlast => exact absurd (hstart.2.symm.trans hlast) (by decide)
  | coordinated _ _ _ _ _ _ hlast => exact absurd (hstart.2.symm.trans hlast) (by decide)
  | held hhold => exact absurd (hstart.1.symm.trans hhold) (by simp)
  | passed _ _ _ _ hlast => exact absurd (hstart.2.symm.trans hlast) (by decide)
  | cleared _ hop => exact absurd hop (by simp)
  | restart _ _ hhold => exact absurd (hstart.1.symm.trans hhold) (by simp)
  | reset hop => exact absurd hop (by simp)

theorem idle_of_trainDue {s : LocalState} (h : trainDue s = true) :
    (signalOf s).active = false ∧ (signalOf s).pending = false := by
  have hidle : trainIdle (advanceClock s) = true := (of_decide_eq_true h).2.2
  have hadvance : (advanceClock s).trainActive = s.trainActive ∧
      (advanceClock s).trainPending = s.trainPending := by
    have hsignal := signalOf_advanceClock s
    exact ⟨congrArg Signal.active hsignal, congrArg Signal.pending hsignal⟩
  have hflags := of_decide_eq_true hidle
  exact ⟨hadvance.1.symm.trans hflags.2.1, hadvance.2.symm.trans hflags.1⟩

theorem stage_request {c : CoreLoop} (h : LocalSafe c.state) (wait : Nat)
    (request : CoreRequest) :
    ∃ op, signalOf (loopStep c (.receive wait request)).state =
      signalStep (signalOf c.state) op := by
  cases request with
  | snapshot => exact ⟨.idle, rfl⟩
  | frame msg draws => exact ⟨_, h.signalOf_step (.frame msg draws)⟩
  | input command draws => exact ⟨_, h.signalOf_step (.input command draws)⟩
  | links centralUp trainUp => exact ⟨_, h.signalOf_step (.links centralUp trainUp)⟩

theorem yellow_begins {c : CoreLoop} (h : LocalSafe c.state) (d : Direction) (step : LoopStep)
    (hgreen : c.state.light d = .green)
    (hyellow : (loopStep c step).state.light d = .yellow) :
    (loopStep c step).state.timeRemaining = (if ownTrain c step then 1 else 2) ∧
      restarts c step = true := by
  have hsafe := localSafe_loopStep h step
  have hbefore := (light_green h d).mp hgreen
  have hafter := (light_yellow hsafe d).mp hyellow
  cases step with
  | poll wait work draws =>
      by_cases hdue : c.nextTick ≤ c.clock + wait
      · refine ⟨?_, decide_eq_true hdue⟩
        have hstate : (loopStep c (.poll wait work draws)).state =
            coreTick c.state (linkExpired c (c.clock + wait)) draws := by
          simp only [loopStep, poll, if_pos hdue]
        rw [hstate] at hafter
        rw [hstate]
        obtain ⟨nsGreen, hsignal⟩ := signalOf_coreTick h (linkExpired c (c.clock + wait)) draws
        show (signalOf (coreTick c.state _ draws)).remaining = _
        rw [hsignal] at hafter ⊢
        simp only [ownTrain, decide_eq_true hdue, Bool.true_and]
        by_cases htrain : trainDue (pastDeadline c.state (linkExpired c (c.clock + wait))) = true
        · have hidle := idle_of_trainDue htrain
          rw [signalOf_pastDeadline] at hidle
          rw [if_pos htrain, if_pos htrain]
          exact (demoTrain_tick h.signal hbefore hidle nsGreen).2
        · rw [if_neg htrain] at hafter ⊢
          rw [if_neg htrain]
          exact green_step h.signal hbefore hafter
      · have hstate : (loopStep c (.poll wait work draws)).state = c.state := by
          simp only [loopStep, poll, if_neg hdue]
        rw [hstate] at hyellow
        exact absurd (hgreen.symm.trans hyellow) LightState.noConfusion
  | receive wait request =>
      obtain ⟨op, hsignal⟩ := stage_request h wait request
      rw [hsignal] at hafter
      have hremaining := green_step h.signal hbefore hafter
      rw [← hsignal] at hremaining
      refine ⟨hremaining, decide_eq_true ?_⟩
      intro hphase
      have hstage : (signalOf (loopStep c (.receive wait request)).state).stage =
          (signalOf c.state).stage := congrArg stageOf hphase
      rw [hsignal, hafter, hbefore] at hstage
      exact absurd hstage Stage.noConfusion

/-- Whatever arrives, a Yellow lasts on the clock as many seconds as it shows after the
step that lit it: two when it follows a Green, or one when the timetable of the Local
itself starts a train. -/
theorem yellow_lasts (d : Direction) (intersectionId : UInt8) (draws : Draws) (now : Nat)
    {steps : List LoopStep}
    (hspared : Along loopStep (Spared (SparesYellow d)) (loopStart intersectionId draws now)
      steps) :
    Along (watch loopStep (observe (yellow d)))
      (fun w step => Lasts (yellow d) w step ∧
        (w.1.state.light d = .green → (loopStep w.1 step).state.light d = .yellow →
          observe (yellow d) w.1 step (loopStep w.1 step) w.2 =
            some ((loopStep w.1 step).clock, if ownTrain w.1 step then 1 else 2)))
      (loopStart intersectionId draws now, none) steps := by
  apply (countsDown_yellow d).along (localSafe_init intersectionId draws) le_rfl hspared
  intro w step h hgreen hyellow
  obtain ⟨hremaining, hrestarts⟩ := yellow_begins h.safe d step hgreen hyellow
  have hnone : yellow d w.1.state = none :=
    if_neg fun hlit => absurd (hgreen.symm.trans hlit) LightState.noConfusion
  have hsome : yellow d (loopStep w.1 step).state =
      some (loopStep w.1 step).state.timeRemaining := if_pos hyellow
  simp only [observe, hsome, hnone, Option.isSome_none, Bool.false_eq_true, if_false,
    hrestarts, if_true, hremaining]

/-- A train is announced, and the clearing Yellow runs off. -/
theorem yellow_lasts_train :
    Along (watch loopStep (observe (yellow .ns)))
      (fun w step => Lasts (yellow .ns) w step ∧
        (w.1.state.light .ns = .green → (loopStep w.1 step).state.light .ns = .yellow →
          observe (yellow .ns) w.1 step (loopStep w.1 step) w.2 =
            some ((loopStep w.1 step).clock, if ownTrain w.1 step then 1 else 2)))
      (loopStart 1 Draws.zero 5, none)
      [.receive 7 (.frame (railwayFrame msgRailwayPreempt 1 1 20) Draws.zero),
        .poll localTickNs 3 Draws.zero, .poll localTickNs 3 Draws.zero] := by
  apply yellow_lasts
  refine ⟨?_, trivial, trivial, trivial⟩
  intro op hop
  obtain rfl := List.mem_singleton.mp hop
  exact fun _ => ⟨rfl, fun _ => by decide⟩

def recovering (s : LocalState) : Option Int :=
  if 0 < s.trainRecoveryRemaining then some s.trainRecoveryRemaining else none

/-- No console reset and no new train in the recovery time. -/
def SparesRecovery (s : LocalState) (op : LocalOp) : Prop :=
  0 < s.trainRecoveryRemaining →
    resets op = false ∧ (op = .timeOfDay ∨ startsTrain s op = false)

theorem recovery_of_trainDue {s : LocalState} (h : trainDue s = true) :
    s.trainRecoveryRemaining ≤ 0 := by
  have hidle : trainIdle (advanceClock s) = true := (of_decide_eq_true h).2.2
  have hsame : (advanceClock s).trainRecoveryRemaining = s.trainRecoveryRemaining :=
    congrArg Signal.recovery (signalOf_advanceClock s)
  have hle := (of_decide_eq_true hidle).2.2.1
  omega

theorem countsDown_recovery : CountsDown recovering SparesRecovery where
  pos s left _ hleft := by
    unfold recovering at hleft
    split at hleft
    · rename_i hpos
      obtain rfl := Option.some.inj hleft
      exact hpos
    · exact absurd hleft.symm (Option.some_ne_none _)
  tick s linkExpired draws op hop := by
    obtain ⟨hreset, -, hstart⟩ := tick_ops hop
    exact fun _ => ⟨hreset, hstart.imp_right fun h => h s⟩
  step s op left hs hspares hleft := by
    unfold recovering at hleft
    split at hleft
    · rename_i hpos
      obtain rfl : s.trainRecoveryRemaining = left := Option.some.inj hleft
      obtain ⟨hreset, hspared⟩ := hspares hpos
      have hhold : (signalOf s).stage = .hold := hs.signal.hold.mpr (Or.inr hpos)
      have hactive : (signalOf s).active = false := by
        apply Bool.eq_false_iff.mpr
        intro hactive
        exact absurd (hs.signal.active hactive) hpos.ne'
      have hpending : (signalOf s).pending = false := by
        apply Bool.eq_false_iff.mpr
        intro hpending
        obtain ⟨d, hyellow⟩ := hs.signal.pending hpending
        exact absurd (hyellow.symm.trans hhold) Stage.noConfusion
      have hstart : ¬ (signalOp s op = .demoTrain ∨ ∃ eta, signalOp s op = .preempt eta) := by
        intro hop
        have hstarts := startsTrain_of_signalOp hop
        rcases hspared with rfl | hnone
        · exact absurd (recovery_of_trainDue hstarts) (not_le.mpr hpos)
        · exact absurd (hnone.symm.trans hstarts) Bool.false_ne_true
      have hspent := (recovery_step hactive hpending hpos hstart (noReset hreset)).2.2.1
      rw [← hs.signalOf_step, signalOp_ticks] at hspent
      have hsum : (localStep s op).trainRecoveryRemaining + ticksOf op =
          s.trainRecoveryRemaining := hspent
      by_cases hstill : 0 < (localStep s op).trainRecoveryRemaining
      · exact Or.inl ⟨_, if_pos hstill, hsum.ge⟩
      · exact Or.inr (by omega)
    · exact absurd hleft.symm (Option.some_ne_none _)

theorem startTrain_recovery {σ : Signal} (h : ¬ 0 < σ.recovery) (waiting : Bool) (pass : Int) :
    ¬ 0 < (σ.startTrain waiting pass).recovery := by
  unfold Signal.startTrain
  split
  · exact h
  · dsimp only
    split
    · rw [startStage_recovery]
      exact lt_irrefl 0
    · exact lt_irrefl 0
    · rw [startStage_recovery]
      exact lt_irrefl 0

theorem clear_recovery {σ : Signal} (h : ¬ 0 < σ.recovery) (hafter : 0 < σ.clear.recovery) :
    σ.clear.recovery = railwayRecoverySec := by
  unfold Signal.clear at hafter ⊢
  split at hafter
  · rename_i htrain
    rw [if_pos htrain, startStage_recovery]
  · exact absurd hafter h

theorem advance_recovery (σ : Signal) (nsGreen : Int) :
    (σ.advance nsGreen).recovery = σ.recovery := by
  unfold Signal.advance
  split
  · exact startStage_recovery ..
  · exact startStage_recovery ..
  · exact startGreen_recovery ..
  · exact startGreen_recovery ..

theorem recovery_begins {σ : Signal} (h : ¬ 0 < σ.recovery) (op : SignalOp)
    (hafter : 0 < (signalStep σ op).recovery) :
    (signalStep σ op).recovery = railwayRecoverySec := by
  cases op with
  | idle => exact absurd hafter h
  | coordinate base offset => exact absurd hafter h
  | press d =>
      have hsame : (signalStep σ (.press d)).recovery = σ.recovery := press_recovery σ d
      rw [hsame] at hafter
      exact absurd hafter h
  | demoTrain => exact absurd hafter (startTrain_recovery h _ _)
  | preempt eta =>
      refine absurd hafter ?_
      show ¬ 0 < (σ.preempt eta).recovery
      unfold Signal.preempt
      dsimp only
      split
      · split
        · rw [startStage_recovery]
          exact h
        · exact h
      · exact startTrain_recovery h _ _
  | clear => exact clear_recovery h hafter
  | reset =>
      have hzero : (signalStep σ .reset).recovery = 0 := startGreen_recovery ..
      rw [hzero] at hafter
      exact absurd hafter (lt_irrefl 0)
  | tick nsGreen =>
      have htick : signalStep σ (.tick nsGreen) = σ.tick nsGreen := rfl
      rw [htick] at hafter ⊢
      unfold Signal.tick at hafter ⊢
      by_cases hpending : σ.pending = true
      · rw [if_pos hpending] at hafter
        refine absurd hafter ?_
        unfold Signal.pendingTick
        dsimp only
        split
        · rw [startStage_recovery, showLights_recovery]
          exact h
        · rw [showLights_recovery]
          exact h
      · rw [if_neg hpending] at hafter ⊢
        by_cases hactive : σ.active = true
        · rw [if_pos hactive] at hafter ⊢
          unfold Signal.activeTick at hafter ⊢
          dsimp only at hafter ⊢
          split at hafter
          · rw [showLights_recovery] at hafter
            exact absurd hafter h
          · rename_i hwait
            rw [if_neg hwait]
            split at hafter
            · rename_i hpass
              rw [if_pos hpass]
              exact clear_recovery h hafter
            · rw [startStage_recovery] at hafter
              exact absurd hafter h
        · rw [if_neg hactive, if_neg h] at hafter
          refine absurd hafter ?_
          unfold Signal.runTick
          dsimp only
          have hsame : σ.countDown.showLights.serveWalk.recovery = σ.recovery := by
            unfold Signal.serveWalk
            split <;> exact showLights_recovery _
          split
          · rw [advance_recovery, hsame]
            exact h
          · rw [hsame]
            exact h

theorem recovery_shows {c : CoreLoop} (h : LocalSafe c.state) (step : LoopStep)
    (hbefore : recovering c.state = none)
    {left : Int} (hafter : recovering (loopStep c step).state = some left) :
    left = railwayRecoverySec := by
  have hnone : ¬ 0 < (signalOf c.state).recovery := by
    intro hpos
    have hsome : recovering c.state = some c.state.trainRecoveryRemaining := if_pos hpos
    exact absurd (hsome.symm.trans hbefore) (Option.some_ne_none _)
  unfold recovering at hafter
  split at hafter
  · rename_i hpos
    rw [← Option.some.inj hafter]
    change (signalOf (loopStep c step).state).recovery = railwayRecoverySec
    have hsignal : 0 < (signalOf (loopStep c step).state).recovery := hpos
    cases step with
    | poll wait work draws =>
        by_cases hdue : c.nextTick ≤ c.clock + wait
        · have hstate : (loopStep c (.poll wait work draws)).state =
              coreTick c.state (linkExpired c (c.clock + wait)) draws := by
            simp only [loopStep, poll, if_pos hdue]
          rw [hstate] at hsignal ⊢
          obtain ⟨nsGreen, htick⟩ := signalOf_coreTick h (linkExpired c (c.clock + wait)) draws
          rw [htick] at hsignal ⊢
          apply recovery_begins _ _ hsignal
          split
          · exact startTrain_recovery hnone _ _
          · exact hnone
        · have hstate : (loopStep c (.poll wait work draws)).state = c.state := by
            simp only [loopStep, poll, if_neg hdue]
          rw [hstate] at hsignal
          exact absurd hsignal hnone
    | receive wait request =>
        obtain ⟨op, hstep⟩ := stage_request h wait request
        rw [hstep] at hsignal ⊢
        exact recovery_begins hnone op hsignal
  · exact absurd hafter.symm (Option.some_ne_none _)

/-- After a train both lamps are Red for the recovery time, on the clock as well; a
clear request that finds the lamps on hold may lose the first of its seconds, because
it leaves the next tick where it was. -/
theorem recovery_lasts (intersectionId : UInt8) (draws : Draws) (now : Nat)
    {steps : List LoopStep}
    (hspared : Along loopStep (Spared SparesRecovery) (loopStart intersectionId draws now) steps) :
    Along (watch loopStep (observe recovering))
      (fun w step => Lasts recovering w step ∧
        (0 < w.1.state.trainRecoveryRemaining → ∀ d, w.1.state.light d = .red) ∧
        (recovering w.1.state = none → recovering (loopStep w.1 step).state ≠ none →
          observe recovering w.1 step (loopStep w.1 step) w.2 =
            some ((loopStep w.1 step).clock,
              if restarts w.1 step then railwayRecoverySec else railwayRecoverySec - 1)))
      (loopStart intersectionId draws now, none) steps := by
  apply countsDown_recovery.along (localSafe_init intersectionId draws) le_rfl hspared
  intro w step h
  refine ⟨fun hpos d => (h.safe.held (Or.inr hpos) d).1, ?_⟩
  intro hbefore hafter
  obtain ⟨left, hleft⟩ := Option.ne_none_iff_exists'.mp hafter
  have hfull := recovery_shows h.safe step hbefore hleft
  simp only [observe, hleft, hbefore, Option.isSome_none, Bool.false_eq_true, if_false, hfull]

/-- A train that is cleared as soon as it has the road. -/
theorem recovery_lasts_clear :
    Along (watch loopStep (observe recovering))
      (fun w step => Lasts recovering w step ∧
        (0 < w.1.state.trainRecoveryRemaining → ∀ d, w.1.state.light d = .red) ∧
        (recovering w.1.state = none → recovering (loopStep w.1 step).state ≠ none →
          observe recovering w.1 step (loopStep w.1 step) w.2 =
            some ((loopStep w.1 step).clock,
              if restarts w.1 step then railwayRecoverySec else railwayRecoverySec - 1)))
      (loopStart 1 Draws.zero 5, none)
      [.receive 7 (.frame (railwayFrame msgRailwayPreempt 1 1 20) Draws.zero),
        .poll localTickNs 3 Draws.zero, .poll localTickNs 3 Draws.zero,
        .receive 7 (.frame (railwayFrame msgTrainClear 1 0 0) Draws.zero),
        .poll localTickNs 3 Draws.zero, .poll localTickNs 3 Draws.zero] := by
  have hclear : ∀ s, startsTrain s (.frame (railwayFrame msgTrainClear 1 0 0) Draws.zero) =
      false := by
    intro s
    apply decide_eq_false
    rintro ⟨-, htype, -⟩
    exact absurd htype (by decide)
  apply recovery_lasts
  refine ⟨?_, trivial, trivial, ?_, trivial, trivial, trivial⟩
  · intro op hop hrecovery
    exact absurd hrecovery (by decide)
  · intro op hop _
    obtain rfl := List.mem_singleton.mp hop
    exact ⟨rfl, Or.inr (hclear _)⟩

end TrafficLight.CoreClock
