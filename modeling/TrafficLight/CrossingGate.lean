import TrafficLight.CrossingInvariant

namespace TrafficLight.CrossingGate

open TrafficLight.Runs
open TrafficLight.Protocol
open TrafficLight.CrossingMachine
open TrafficLight.CrossingOutcomes
open TrafficLight.CrossingCalls
open TrafficLight.CrossingRuns
open TrafficLight.CrossingInvariant

instance (cx : Crossing) (dir : TrackDirection) : Decidable (Busy cx dir) :=
  inferInstanceAs (Decidable (_ ∨ _))

/-- The gate was never told to open, and is not opening, against a train. -/
def OpensClear (sys : CrossingSystem) : Prop :=
  (∀ call ∈ sys.log, call.op = .gateCommand .open → ∀ dir, ¬ Busy call.cx dir) ∧
    (sys.cx.gate = .opening → ∀ dir, ¬ Busy sys.cx dir)

instance (sys : CrossingSystem) : Decidable (OpensClear sys) :=
  inferInstanceAs (Decidable ((∀ _ ∈ sys.log, _ → ∀ _, _) ∧ (_ → ∀ _, _)))

/-- The verification after a reset does not end while a train is around. -/
def VerifiedClear (cx : Crossing) (event : CrossingEvent) : Prop :=
  event = .gateClosed → cx.fault = .none → cx.gate = .closing → cx.resetPending = true →
    ∀ dir, ¬ Busy cx dir

instance (cx : Crossing) (event : CrossingEvent) : Decidable (VerifiedClear cx event) :=
  inferInstanceAs (Decidable (_ → _ → _ → _ → ∀ _, _))

theorem outcome_open {cx cx' : Crossing} {event : CrossingEvent} {os : List CxOp}
    (h : Outcome cx event cx' os) (hopen : .gateCommand .open ∈ os) :
    cx'.gate = .opening := by
  cases h with
  | exitOpen | closedReset => rfl
  | _ => simp at hopen

theorem opening_outcome {cx cx' : Crossing} {event : CrossingEvent} {os : List CxOp}
    (hclear : cx.gate = .opening → ∀ dir, ¬ Busy cx dir) (h : Outcome cx event cx' os)
    (hverified : VerifiedClear cx event) (hgate' : cx'.gate = .opening)
    (dir : TrackDirection) : ¬ Busy cx' dir := by
  cases h with
  | ignoredFaulted | approachIgnored | enterIgnored | exitIgnored | closedIgnored
  | openedIgnored | timerStale | resetIgnored => exact hclear hgate' dir
  | approachDelay _ _ hgate => exact absurd (hgate.symm.trans hgate') (by decide)
  | approachOther _ _ _ hnot => exact absurd hgate' hnot
  | enterClosed _ _ hgate => exact absurd (hgate.symm.trans hgate') (by decide)
  | @exitBusy d _ htrack => exact absurd (.inr htrack) (hclear hgate' d)
  | exitOpen | exitReleased => simp [Busy, openStarted, released]
  | closedReset hfault hgate hreset => exact hverified rfl hfault hgate hreset dir
  | timerCloseIdle _ _ hnot => exact absurd (.inr hgate') hnot
  | approachReclose | enterEarly | closedHeld | openedReclose | openedClear | timerClose
  | timerFault | injected | reset => cases hgate'

theorem opensClear_deliver {sys : CrossingSystem} {d : Delivery} (hsys : OpensClear sys)
    (hverified : VerifiedClear sys.cx d.toEvent) : OpensClear (deliver sys d) := by
  have hout := outcome_deliver sys d
  have hopening : (deliver sys d).cx.gate = .opening → ∀ dir, ¬ Busy (deliver sys d).cx dir :=
    opening_outcome hsys.2 hout hverified
  refine ⟨fun call hcall hop dir => ?_, hopening⟩
  rcases List.mem_append.mp hcall with hold | hnew
  · exact hsys.1 call hold hop dir
  · have hgate := outcome_open hout (hop ▸ List.mem_map_of_mem hnew)
    have htrack : call.cx.track = (deliver sys d).cx.track :=
      (settled sys.cx d.toEvent call hnew).1 hop
    simpa [Busy, htrack] using hopening hgate dir

theorem verifiedClear_of_opensClear {sys : CrossingSystem} {d : Delivery}
    (h : OpensClear (deliver sys d)) : VerifiedClear sys.cx d.toEvent := by
  intro hevent hfault hgate hreset dir hbusy
  have hcx : (deliver sys d).cx = openStarted { closedGate sys.cx with resetPending := false } := by
    rw [← handle_gateClosed hfault hgate hreset, ← hevent]
    rfl
  refine h.2 (by rw [hcx]; rfl) dir ?_
  rw [hcx]
  exact hbusy

/-- The gate opens over clear tracks throughout a run exactly if no train is
approaching when the verification after a reset ends. -/
theorem opensClear_iff_verifiedClear (id : UInt8) (name : String)
    (localId1 localId2 : UInt8) (ds : List Delivery)
    (h : Along deliver Deliverable (crossingStart id name localId1 localId2) ds) :
    Throughout deliver OpensClear (crossingStart id name localId1 localId2) ds ↔
      Along deliver (fun sys d => VerifiedClear sys.cx d.toEvent)
        (crossingStart id name localId1 localId2) ds := by
  refine throughout_iff_of_invariant (J := OpensClear) ?_ (fun _ hsys => hsys) ?_ ?_ h
  · intro sys d hsys _ hverified
    exact opensClear_deliver hsys hverified
  · intro sys d _ _ hopens
    exact verifiedClear_of_opensClear hopens
  · exact ⟨fun _ hcall => absurd hcall List.not_mem_nil, fun hgate => by cases hgate⟩

/-- A train approaches while the gate closes for verification. -/
def approachDuringReset : List Delivery :=
  [.occurs .injectFault, .occurs .resetFault, .occurs (.trainApproach .up)]

theorem opensClear_iff_verifiedClear_reset :
    Throughout deliver OpensClear (crossingStart 1 "P1" 1 2) approachDuringReset ↔
      Along deliver (fun sys d => VerifiedClear sys.cx d.toEvent)
        (crossingStart 1 "P1" 1 2) approachDuringReset :=
  opensClear_iff_verifiedClear 1 "P1" 1 2 approachDuringReset (by decide)

/-- The verified gate opens against the train. -/
theorem opensClear_against_train :
    ¬ ∀ ds, Along deliver Deliverable (crossingStart 1 "P1" 1 2) ds →
      Throughout deliver OpensClear (crossingStart 1 "P1" 1 2) ds := by
  intro hclaim
  have hopens := hclaim (approachDuringReset ++ [.occurs .gateClosed]) (by decide)
  exact absurd hopens (by decide)

end TrafficLight.CrossingGate
