import TrafficLight.CrossingInvariant

namespace TrafficLight.CrossingTrains

open TrafficLight.Runs
open TrafficLight.Protocol
open TrafficLight.CrossingMachine
open TrafficLight.CrossingOutcomes
open TrafficLight.CrossingRuns
open TrafficLight.CrossingInvariant

/-- Where the train of a track really is. -/
inductive TrainPosition
  | away
  | approaching
  | inside
  deriving DecidableEq, Repr

abbrev Trains := TrackDirection → TrainPosition

def moveTrains (trains : Trains) : CrossingEvent → Trains
  | .trainApproach dir => Function.update trains dir .approaching
  | .trainEnter dir => Function.update trains dir .inside
  | .trainExit dir => Function.update trains dir .away
  | _ => trains

/-- The train events of a track come in cyclic order. -/
def InOrder (trains : Trains) : CrossingEvent → Prop
  | .trainApproach dir => trains dir = .away
  | .trainEnter dir => trains dir = .approaching
  | .trainExit dir => trains dir = .inside
  | _ => True

instance (trains : Trains) (event : CrossingEvent) : Decidable (InOrder trains event) := by
  cases event <;> unfold InOrder <;> infer_instance

/-- The crossing and the trains, which move whether or not the crossing listens. -/
abbrev Railway := CrossingSystem × Trains

def railwayStart (id : UInt8) (name : String) (localId1 localId2 : UInt8) : Railway :=
  (crossingStart id name localId1 localId2, fun _ => .away)

def railwayStep : Railway → Delivery → Railway :=
  watch deliver fun _ d _ trains => moveTrains trains d.toEvent

/-- Timer events come from timers, train events come in order. -/
def Orderly (r : Railway) (d : Delivery) : Prop :=
  Deliverable r.1 d ∧ InOrder r.2 d.toEvent

instance (r : Railway) (d : Delivery) : Decidable (Orderly r d) :=
  inferInstanceAs (Decidable (_ ∧ _))

/-- What the crossing records of the train at each position. -/
def Follows (cx : Crossing) (dir : TrackDirection) : TrainPosition → Prop
  | .away => cx.track dir = .none ∨ cx.track dir = .cleared
  | .approaching => cx.track dir = .approaching
  | .inside => cx.track dir = .onCrossing ∧ cx.gate = .closed

/-- An approach meets a track that is not still marked as cleared. -/
def Registered (cx : Crossing) (event : CrossingEvent) : Prop :=
  ∀ dir, event = .trainApproach dir → cx.fault = .none → cx.track dir ≠ .cleared

/-- No train escapes the record at this event: an approach is registered, and a
fault is reset with no train around. -/
def Accounted (cx : Crossing) (trains : Trains) (event : CrossingEvent) : Prop :=
  Registered cx event ∧
    (event = .resetFault → cx.fault ≠ .none → ∀ dir, trains dir = .away)

instance (cx : Crossing) (event : CrossingEvent) : Decidable (Registered cx event) :=
  inferInstanceAs (Decidable (∀ _, _))

instance (cx : Crossing) (trains : Trains) (event : CrossingEvent) :
    Decidable (Accounted cx trains event) :=
  inferInstanceAs (Decidable (_ ∧ (_ → _ → ∀ _, _)))

theorem follows_outcome {cx cx' : Crossing} {trains : Trains} {event : CrossingEvent}
    {os : List CxOp} (hfollows : cx.fault = .none → ∀ dir, Follows cx dir (trains dir))
    (h : Outcome cx event cx' os) (horder : InOrder trains event)
    (haccounted : Accounted cx trains event) (hfault' : cx'.fault = .none)
    (dir : TrackDirection) : Follows cx' dir (moveTrains trains event dir) := by
  obtain ⟨happroach, hreset⟩ := haccounted
  cases h with
  | ignoredFaulted hfault => exact absurd hfault' hfault
  | enterEarly _ _ _ => cases hfault'
  | injected _ => cases hfault'
  | timerFault _ _ _ hnone => exact absurd hfault' hnone
  | closedIgnored hfault | openedIgnored hfault | timerStale hfault | resetIgnored hfault
  | timerCloseIdle hfault => exact hfollows hfault dir
  | reset hfault =>
      have haway : trains dir = .away := hreset rfl hfault dir
      simp [moveTrains, haway, Follows, resetStarted]
  | closedHeld hfault hgate | closedReset hfault hgate | openedReclose hfault hgate
  | openedClear hfault hgate | timerClose hfault _ hgate =>
      have hdir := hfollows hfault dir
      cases hpos : trains dir <;>
        simp_all [moveTrains, Follows, closedGate, openStarted, closeStarted, openedGate]
  | @approachIgnored d hfault htrack =>
      -- the train is away, so its track could only be marked as cleared still
      have hother := hfollows hfault dir
      have hd := hfollows hfault d
      have hclear := happroach d rfl hfault
      simp_all [InOrder, Follows]
  | @approachDelay d hfault htrack hgate | @approachReclose d hfault htrack hgate
  | @approachOther d hfault htrack =>
      have hdir := hfollows hfault dir
      by_cases hd : dir = d
      · subst hd
        simp [moveTrains, Follows, approached, closeStarted]
      · cases hpos : trains dir <;>
          simp_all [moveTrains, Follows, approached, closeStarted]
  | @enterIgnored d hfault htrack =>
      have hd := hfollows hfault d
      simp_all [InOrder, Follows]
  | @enterClosed d hfault htrack hgate =>
      have hdir := hfollows hfault dir
      by_cases hd : dir = d
      · subst hd
        simp [moveTrains, Follows, entered, hgate]
      · cases hpos : trains dir <;> simp_all [moveTrains, Follows, entered]
  | @exitIgnored d hfault htrack =>
      have hd := hfollows hfault d
      simp_all [InOrder, Follows]
  | @exitBusy d hfault htrack hother =>
      have hdir := hfollows hfault dir
      by_cases hd : dir = d
      · subst hd
        simp [moveTrains, Follows, exited]
      · cases hpos : trains dir <;> simp_all [moveTrains, Follows, exited]
  | @exitOpen d hfault htrack hother | @exitReleased d hfault htrack hother =>
      have hdir := hfollows hfault dir
      by_cases hd : dir = d
      · subst hd
        simp [moveTrains, Follows, openStarted, released]
      · have hdir_eq : dir = d.other := by
          cases dir <;> cases d <;> simp_all [TrackDirection.other]
        cases hpos : trains dir <;>
          simp_all [moveTrains, Follows, openStarted, released]

/-- The invariant of runs in which every train is accounted for. -/
def Tracked (r : Railway) : Prop :=
  (r.1.cx.fault = .none → ∀ dir, Follows r.1.cx dir (r.2 dir)) ∧
    (r.1.cx.fault ≠ .none → r.1.cx.gate = .fault)

theorem tracked_start (id : UInt8) (name : String) (localId1 localId2 : UInt8) :
    Tracked (railwayStart id name localId1 localId2) :=
  ⟨fun _ _ => .inl rfl, fun hfault => absurd rfl hfault⟩

theorem gate_fault_outcome {cx cx' : Crossing} {event : CrossingEvent} {os : List CxOp}
    (hgate : cx.fault ≠ .none → cx.gate = .fault) (h : Outcome cx event cx' os) :
    cx'.fault ≠ .none → cx'.gate = .fault := by
  cases h with
  | ignoredFaulted => exact hgate
  | enterEarly | timerFault | injected => exact fun _ => rfl
  | reset => exact fun hfault => absurd rfl hfault
  | _ hfault => exact fun hfault' => absurd hfault hfault'

theorem Tracked.step {r : Railway} {d : Delivery} (hr : Tracked r) (horder : Orderly r d)
    (haccounted : Accounted r.1.cx r.2 d.toEvent) : Tracked (railwayStep r d) := by
  have hout := outcome_deliver r.1 d
  exact ⟨fun hfault' => follows_outcome hr.1 hout horder.2 haccounted hfault',
    gate_fault_outcome hr.2 hout⟩

/-- While there is no fault, the crossing knows every train that is coming, and
it has its gate closed for every train that is inside. -/
def TrainsKnown (r : Railway) : Prop :=
  r.1.cx.fault = .none → ∀ dir,
    (r.2 dir = .inside → r.1.cx.track dir = .onCrossing ∧ r.1.cx.gate = .closed) ∧
      (r.2 dir = .approaching → r.1.cx.track dir = .approaching)

instance (r : Railway) : Decidable (TrainsKnown r) :=
  inferInstanceAs (Decidable (_ → ∀ _, _))

theorem Tracked.trainsKnown {r : Railway} (hr : Tracked r) : TrainsKnown r := by
  intro hfault dir
  have hfollows := hr.1 hfault dir
  exact ⟨fun hinside => by rwa [hinside] at hfollows,
    fun happroaching => by rwa [happroaching] at hfollows⟩

/-- Orderly runs without injected faults and resets. -/
def Undisturbed (r : Railway) (d : Delivery) : Prop :=
  Orderly r d ∧ d.toEvent ≠ .injectFault ∧ d.toEvent ≠ .resetFault

instance (r : Railway) (d : Delivery) : Decidable (Undisturbed r d) :=
  inferInstanceAs (Decidable (_ ∧ _))

theorem registered_of_trainsKnown {r : Railway} {d : Delivery}
    (h : TrainsKnown (railwayStep r d)) : Registered r.1.cx d.toEvent := by
  intro dir hevent hfault hclear
  have hout := outcome_deliver r.1 d
  have hsame : (deliver r.1 d).cx = r.1.cx := by
    rw [hevent] at hout
    generalize ops (crossingHandleEvent r.1.cx (.trainApproach dir)) = os at hout
    generalize (deliver r.1 d).cx = cx' at hout ⊢
    cases hout <;> simp_all
  have hmoved : (railwayStep r d).2 dir = .approaching := by
    simp [railwayStep, hevent, moveTrains]
  have hknown := (h (by simpa [railwayStep, hsame] using hfault) dir).2 hmoved
  simp [railwayStep, hsame, hclear] at hknown

/-- The crossing knows its trains throughout a run exactly if no train
approaches a track that is still marked as cleared. -/
theorem trainsKnown_iff_registered (id : UInt8) (name : String) (localId1 localId2 : UInt8)
    (ds : List Delivery)
    (h : Along railwayStep Undisturbed (railwayStart id name localId1 localId2) ds) :
    Throughout railwayStep TrainsKnown (railwayStart id name localId1 localId2) ds ↔
      Along railwayStep (fun r d => Registered r.1.cx d.toEvent)
        (railwayStart id name localId1 localId2) ds := by
  refine throughout_iff_of_invariant (J := Tracked) ?_ (fun _ hr => hr.trainsKnown) ?_
    (tracked_start ..) h
  · rintro r d hr ⟨horder, -, hreset⟩ hregistered
    exact hr.step horder ⟨hregistered, fun hevent => absurd hevent hreset⟩
  · intro r d _ _ hknown
    exact registered_of_trainsKnown hknown

/-- Two trains on the two tracks, the second one after the gate has closed. -/
def twoTrains : List Delivery :=
  [.occurs (.trainApproach .up), .occurs (.trainApproach .down),
    .expires ⟨.gateCloseDelay, 1, 1⟩, .occurs .gateClosed, .occurs (.trainEnter .up),
    .occurs (.trainExit .up)]

theorem trainsKnown_iff_registered_twoTrains :
    Throughout railwayStep TrainsKnown (railwayStart 1 "P1" 1 2) twoTrains ↔
      Along railwayStep (fun r d => Registered r.1.cx d.toEvent)
        (railwayStart 1 "P1" 1 2) twoTrains :=
  trainsKnown_iff_registered 1 "P1" 1 2 twoTrains (by decide)

/-- The next train on the cleared track is not registered. -/
theorem trainsKnown_overlooked :
    ¬ ∀ ds, Along railwayStep Undisturbed (railwayStart 1 "P1" 1 2) ds →
      Throughout railwayStep TrainsKnown (railwayStart 1 "P1" 1 2) ds := by
  intro hclaim
  have hknown := hclaim (twoTrains ++ [.occurs (.trainApproach .up)]) (by decide)
  exact absurd hknown (by decide)

/-- The gate is not open while a train is inside. -/
def GateHeld (r : Railway) : Prop :=
  ∀ dir, r.2 dir = .inside → r.1.cx.gate ≠ .open

/-- No CLEAR is sent while a train is inside. -/
def ClearHeld (r : Railway) (d : Delivery) : Prop :=
  .sendClear ∈ ops (crossingHandleEvent r.1.cx d.toEvent) →
    ∀ dir, (railwayStep r d).2 dir ≠ .inside

instance (r : Railway) : Decidable (GateHeld r) :=
  inferInstanceAs (Decidable (∀ _, _ → _))

instance (r : Railway) (d : Delivery) : Decidable (ClearHeld r d) :=
  inferInstanceAs (Decidable (_ → ∀ _, _))

theorem Tracked.gateHeld {r : Railway} (hr : Tracked r) : GateHeld r := by
  intro dir hinside hopen
  by_cases hfault : r.1.cx.fault = .none
  · have hfollows := hr.1 hfault dir
    rw [hinside] at hfollows
    exact absurd (hopen.symm.trans hfollows.2) (by decide)
  · exact absurd (hopen.symm.trans (hr.2 hfault)) (by decide)

theorem outcome_sendClear {cx cx' : Crossing} {event : CrossingEvent} {os : List CxOp}
    (h : Outcome cx event cx' os) (hclear : .sendClear ∈ os) :
    event = .gateOpened ∧ cx.fault = .none ∧ cx.gate = .opening ∧
      crossingBothTracksClear cx = true := by
  cases h with
  | openedClear hfault hgate hboth => exact ⟨rfl, hfault, hgate, hboth⟩
  | _ => simp [openOps] at hclear

theorem Tracked.clearHeld {r : Railway} {d : Delivery} (hr : Tracked r) : ClearHeld r d := by
  intro hclear dir hinside
  obtain ⟨hevent, hfault, hgate, -⟩ := outcome_sendClear (outcome_deliver r.1 d) hclear
  have hfollows := hr.1 hfault dir
  rw [show r.2 dir = .inside by simpa [railwayStep, hevent, moveTrains] using hinside]
    at hfollows
  exact absurd (hgate.symm.trans hfollows.2) (by decide)

/-- If every train is accounted for when it approaches and when a fault is
reset, no reset lets road traffic onto an occupied crossing. -/
theorem held_of_accounted (id : UInt8) (name : String) (localId1 localId2 : UInt8)
    (ds : List Delivery)
    (h : Along railwayStep (fun r d => Orderly r d ∧ Accounted r.1.cx r.2 d.toEvent)
      (railwayStart id name localId1 localId2) ds) :
    Throughout railwayStep GateHeld (railwayStart id name localId1 localId2) ds ∧
      Along railwayStep ClearHeld (railwayStart id name localId1 localId2) ds := by
  have hstep : ∀ r d, Tracked r → Orderly r d ∧ Accounted r.1.cx r.2 d.toEvent →
      Tracked (railwayStep r d) := fun r d hr hd => hr.step hd.1 hd.2
  exact ⟨h.throughout hstep (fun _ hr => hr.gateHeld) (tracked_start ..),
    h.of_invariant hstep (fun _ _ hr _ => hr.clearHeld) (tracked_start ..)⟩

/-- A train crosses, then a fault is injected, reset and verified. -/
theorem held_of_accounted_cycle :
    let ds : List Delivery := [.occurs (.trainApproach .up), .occurs .injectFault,
      .occurs (.trainEnter .up), .occurs (.trainExit .up), .occurs .resetFault,
      .occurs .gateClosed, .occurs .gateOpened]
    Throughout railwayStep GateHeld (railwayStart 1 "P1" 1 2) ds ∧
      Along railwayStep ClearHeld (railwayStart 1 "P1" 1 2) ds :=
  held_of_accounted 1 "P1" 1 2 _ (by decide)

/-- A reset with a train inside forgets the train and opens the road. -/
theorem held_forgotten :
    ¬ ∀ ds, Along railwayStep Orderly (railwayStart 1 "P1" 1 2) ds →
      Throughout railwayStep GateHeld (railwayStart 1 "P1" 1 2) ds ∧
        Along railwayStep ClearHeld (railwayStart 1 "P1" 1 2) ds := by
  intro hclaim
  have hheld := (hclaim [.occurs (.trainApproach .up), .expires ⟨.gateCloseDelay, 1, 1⟩,
    .occurs .gateClosed, .occurs (.trainEnter .up), .occurs .injectFault,
    .occurs .resetFault, .occurs .gateClosed, .occurs .gateOpened] (by decide)).1
  exact absurd hheld (by decide)

end TrafficLight.CrossingTrains
