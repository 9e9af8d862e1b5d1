import TrafficLight.CoreClock
import TrafficLight.LocalProfile

namespace TrafficLight.LinkFreshness

open TrafficLight.Runs
open TrafficLight.Protocol
open TrafficLight.LocalData
open TrafficLight.LocalTraffic
open TrafficLight.LocalCore
open TrafficLight.SignalRefinement
open TrafficLight.LocalProfile
open TrafficLight.CoreClock

/-- The connections to Central and to the Train controller. -/
def connectionsOf (s : LocalState) : Bool × Bool := (s.centralConnected, s.trainConnected)

variable (s : LocalState)

theorem connections_of_profileStep {s t : LocalState} (h : ProfileStep s t) :
    connectionsOf t = connectionsOf s := by
  cases h with
  | kept h | cleared h | conflict h =>
      exact congrArg (fun p : Profile => (p.centralConnected, p.trainConnected)) h

theorem connections_step (op : LocalOp) :
    connectionsOf (localStep s op) =
      match op with
      | .linkTimeout => (false, false)
      | .links centralUp trainUp => (centralUp, trainUp)
      | _ => connectionsOf s := by
  cases op with
  | linkTimeout | links => rfl
  | _ => exact connections_of_profileStep (profileStep_localStep s rfl)

theorem connections_init (intersectionId : UInt8) (draws : Draws) :
    connectionsOf (localStateInit intersectionId draws) = (false, false) := by
  unfold localStateInit
  extract_lets id config t u v w direction duration x
  have hsettings : connectionsOf v = (false, false) :=
    connections_of_profileStep (.kept (profile_applyTimeSettings u))
  split <;> exact hsettings

theorem connections_pastDeadline (linkExpired : Bool) :
    connectionsOf (pastDeadline s linkExpired) =
      if linkExpired then (false, false) else connectionsOf s := by
  cases linkExpired <;> rfl

theorem connections_tick (linkExpired : Bool) (draws : Draws) :
    connectionsOf (coreTick s linkExpired draws) =
      if linkExpired then (false, false) else connectionsOf s := by
  have htick : ∀ t : LocalState, connectionsOf (coreTick t false draws) = connectionsOf t := by
    intro t
    calc connectionsOf (coreTick t false draws)
        = connectionsOf (localStep (localStep (localStep (localStep t .timeOfDay) .temporaryMode)
            (.trafficTick draws)) (.vehicleCounts draws)) := rfl
      _ = connectionsOf (localStep (localStep (localStep t .timeOfDay) .temporaryMode)
            (.trafficTick draws)) := connections_step _ _
      _ = connectionsOf (localStep (localStep t .timeOfDay) .temporaryMode) :=
          connections_step _ _
      _ = connectionsOf (localStep t .timeOfDay) := connections_step _ _
      _ = connectionsOf t := connections_step _ _
  cases linkExpired with
  | false => exact htick s
  | true => exact htick _

/-- The last report of the network process: its time and the two connections. -/
abbrev Report := Nat × Bool × Bool

def noteReport (_ : CoreLoop) (step : LoopStep) (c' : CoreLoop) (last : Option Report) :
    Option Report :=
  match step with
  | .receive _ (.links centralUp trainUp) => some (c'.clock, centralUp, trainUp)
  | _ => last

/-- What a report says at a time. -/
def reported (now : Nat) : Option Report → Bool × Bool
  | none => (false, false)
  | some (time, centralUp, trainUp) =>
      if now < time + localLinkTimeoutNs then (centralUp, trainUp) else (false, false)

/-- The deadline is that of the last report, and the connections are as reported or
were given up at a tick after it. -/
structure Fresh (w : CoreLoop × Option Report) : Prop where
  near : w.1.nextTick ≤ w.1.clock + localTickNs
  silent : w.2 = none → w.1.linkDeadline = 0 ∧ connectionsOf w.1.state = (false, false)
  heard : ∀ time centralUp trainUp, w.2 = some (time, centralUp, trainUp) →
    w.1.linkDeadline = time + localLinkTimeoutNs ∧
      (connectionsOf w.1.state = (centralUp, trainUp) ∨
        connectionsOf w.1.state = (false, false) ∧ time + localLinkTimeoutNs ≤ w.1.clock)

/-- Whether the step is a tick. -/
def ticks (c : CoreLoop) : LoopStep → Bool
  | .poll wait _ _ => c.nextTick ≤ c.clock + wait
  | .receive _ _ => false

theorem Fresh.expired {w : CoreLoop × Option Report} (h : Fresh w) {now : Nat}
    (hnow : w.1.clock ≤ now) :
    (if linkExpired w.1 now then (false, false) else connectionsOf w.1.state) =
      reported now w.2 := by
  obtain ⟨c, last⟩ := w
  cases last with
  | none =>
      obtain ⟨_, hdown⟩ := h.silent rfl
      split
      · rfl
      · exact hdown
  | some report =>
      obtain ⟨time, centralUp, trainUp⟩ := report
      obtain ⟨hdeadline, hup⟩ := h.heard time centralUp trainUp rfl
      have hpositive : 0 < localLinkTimeoutNs := by decide
      have hexpired : linkExpired c now = true ↔ ¬ now < time + localLinkTimeoutNs := by
        have hdeadline : c.linkDeadline = time + localLinkTimeoutNs := hdeadline
        simp only [linkExpired, decide_eq_true_eq, hdeadline]
        omega
      have hnow : c.clock ≤ now := hnow
      simp only [reported]
      by_cases hlate : now < time + localLinkTimeoutNs
      · rw [if_neg (fun h => absurd hlate (hexpired.mp h)), if_pos hlate]
        rcases hup with hsame | ⟨_, hgiven⟩
        · exact hsame
        · have hgiven : time + localLinkTimeoutNs ≤ c.clock := hgiven
          omega
      · rw [if_pos (hexpired.mpr hlate), if_neg hlate]

theorem Fresh.step {w : CoreLoop × Option Report} (h : Fresh w) (step : LoopStep) :
    Fresh (watch loopStep noteReport w step) := by
  obtain ⟨hclock, hlater, -, hnear, -⟩ := loopStep_clock h.near step
  cases step with
  | poll wait work draws =>
      by_cases hdue : w.1.nextTick ≤ w.1.clock + wait
      · have hconnections := connections_tick w.1.state
          (linkExpired w.1 (w.1.clock + wait)) draws
        rw [h.expired (Nat.le_add_right ..)] at hconnections
        have hloop : loopStep w.1 (.poll wait work draws) =
            { w.1 with
              state := coreTick w.1.state (linkExpired w.1 (w.1.clock + wait)) draws
              clock := w.1.clock + wait + work
              nextTick := w.1.clock + wait + work + localTickNs } := by
          simp only [loopStep, poll, if_pos hdue]
        refine ⟨hnear, ?_, ?_⟩
        · intro hnone
          have hnone : w.2 = none := hnone
          rw [watch_fst, hloop]
          rw [hnone] at hconnections
          exact ⟨(h.silent hnone).1, hconnections⟩
        · intro time centralUp trainUp hsome
          have hsome : w.2 = some (time, centralUp, trainUp) := hsome
          rw [watch_fst, hloop]
          rw [hsome] at hconnections
          refine ⟨(h.heard _ _ _ hsome).1, ?_⟩
          simp only [reported] at hconnections
          -- the tick is the moment at which an old report is given up
          by_cases hlate : w.1.clock + wait < time + localLinkTimeoutNs
          · rw [if_pos hlate] at hconnections
            exact Or.inl hconnections
          · rw [if_neg hlate] at hconnections
            refine Or.inr ⟨hconnections, ?_⟩
            show _ ≤ w.1.clock + wait + work
            omega
      · have hloop : loopStep w.1 (.poll wait work draws) =
            { w.1 with clock := w.1.clock + wait } := by
          simp only [loopStep, poll, if_neg hdue]
        refine ⟨hnear, ?_, ?_⟩
        · intro hnone
          rw [watch_fst, hloop]
          exact h.silent hnone
        · intro time centralUp trainUp hsome
          rw [watch_fst, hloop]
          obtain ⟨hdeadline, hup⟩ := h.heard time centralUp trainUp hsome
          exact ⟨hdeadline, hup.imp_right fun hgiven =>
            ⟨hgiven.1, hgiven.2.trans (Nat.le_add_right ..)⟩⟩
  | receive wait request =>
      have hkeep : (∀ centralUp trainUp, request ≠ .links centralUp trainUp) →
          connectionsOf (coreStep w.1.state request.step) = connectionsOf w.1.state ∧
            (loopStep w.1 (.receive wait request)).linkDeadline = w.1.linkDeadline ∧
            noteReport w.1 (.receive wait request) (loopStep w.1 (.receive wait request)) w.2 =
              w.2 := by
        intro hother
        cases request with
        | snapshot => exact ⟨rfl, rfl, rfl⟩
        | frame msg draws =>
            exact ⟨connections_step w.1.state (.frame msg draws), rfl, rfl⟩
        | input command draws =>
            exact ⟨connections_step w.1.state (.input command draws), rfl, rfl⟩
        | links centralUp trainUp => exact absurd rfl (hother centralUp trainUp)
      by_cases hlinks : ∃ centralUp trainUp, request = .links centralUp trainUp
      · obtain ⟨centralUp, trainUp, rfl⟩ := hlinks
        refine ⟨hnear, ?_, ?_⟩
        · exact fun hnone => absurd hnone (Option.some_ne_none _)
        · intro time up up' hsome
          obtain ⟨rfl, hups⟩ := Prod.mk.inj (Option.some.inj hsome)
          obtain ⟨rfl, rfl⟩ := Prod.mk.inj hups
          exact ⟨rfl, Or.inl rfl⟩
      · obtain ⟨hconnections, hdeadline, hnote⟩ := hkeep fun centralUp trainUp hrequest =>
          hlinks ⟨centralUp, trainUp, hrequest⟩
        have hstate : connectionsOf (loopStep w.1 (.receive wait request)).state =
            connectionsOf w.1.state := hconnections
        refine ⟨hnear, ?_, ?_⟩
        · rw [watch_fst, watch_snd, hnote, hdeadline, hstate]
          exact h.silent
        · intro time centralUp trainUp
          rw [watch_fst, watch_snd, hnote, hdeadline, hstate]
          intro hsome
          obtain ⟨htime, hup⟩ := h.heard time centralUp trainUp hsome
          exact ⟨htime, hup.imp_right fun hgiven => ⟨hgiven.1, hgiven.2.trans
            (Nat.le_add_right ..)⟩⟩

/-- After every tick the connections are those of the last report, unless that is three
seconds old; the timetable of the Local starts a train only when a report of the last
three seconds, if there is one, has the Train controller away. -/
theorem links_fresh (intersectionId : UInt8) (draws : Draws) (now : Nat)
    (steps : List LoopStep) :
    Along (watch loopStep noteReport)
      (fun w step => (ticks w.1 step = true →
          connectionsOf (loopStep w.1 step).state = reported (step.reading w.1) w.2) ∧
        (ownTrain w.1 step = true → (reported (step.reading w.1) w.2).2 = false))
      (loopStart intersectionId draws now, none) steps := by
  have hrun : Along (watch loopStep noteReport) (fun _ _ => True)
      (loopStart intersectionId draws now, none) steps :=
    (along_forall _ (fun _ => True) _ steps).mpr fun _ _ => trivial
  refine hrun.of_invariant (I := Fresh) (fun w step h _ => h.step step) ?_ ?_
  · intro w step h _
    cases step with
    | receive wait request =>
        exact ⟨fun hfalse => absurd hfalse Bool.false_ne_true,
          fun hfalse => absurd hfalse Bool.false_ne_true⟩
    | poll wait work draws =>
        have hexpired := h.expired (Nat.le_add_right w.1.clock wait)
        constructor
        · intro hdue
          have hdue : w.1.nextTick ≤ w.1.clock + wait := of_decide_eq_true hdue
          simp only [loopStep, poll, if_pos hdue]
          exact (connections_tick w.1.state _ draws).trans hexpired
        · intro hown
          have htrain : trainDue (pastDeadline w.1.state
              (linkExpired w.1 (w.1.clock + wait))) = true := (Bool.and_eq_true_iff.mp hown).2
          have hidle : trainIdle (advanceClock (pastDeadline w.1.state
              (linkExpired w.1 (w.1.clock + wait)))) = true := (of_decide_eq_true htrain).2.2
          show (reported (w.1.clock + wait) w.2).2 = false
          rw [← hexpired, ← connections_pastDeadline,
            ← connections_of_profileStep (.kept (profile_advanceClock _))]
          exact (of_decide_eq_true hidle).2.2.2
  · refine ⟨le_rfl, fun _ => ⟨rfl, connections_init _ _⟩, ?_⟩
    exact fun _ _ _ hsome => absurd hsome.symm (Option.some_ne_none _)

end TrafficLight.LinkFreshness
