import TrafficLight.CrossingMachine

namespace TrafficLight.CrossingCalls

open TrafficLight.Protocol
open TrafficLight.CrossingMachine

/-- No timer was started and the gate was not told to open. -/
def Quiet (h : Handling) : Prop :=
  ∀ call ∈ h.calls, call.op ≠ .gateCommand .open ∧
    ∀ id seconds, call.op ≠ .startTimer id seconds

/-- Every command to open the gate was made with the tracks the handler
returns, and every timer was started with the generation it returns. -/
def Settled (h : Handling) : Prop :=
  ∀ call ∈ h.calls, (call.op = .gateCommand .open → call.cx.track = h.cx.track) ∧
    ∀ id seconds, call.op = .startTimer id seconds →
      call.cx.timerGen id = h.cx.timerGen id

theorem quiet_start (cx : Crossing) : Quiet ⟨cx, []⟩ := by
  simp [Quiet]

theorem Quiet.set {h : Handling} (hquiet : Quiet h) (f : Crossing → Crossing) :
    Quiet (h.set f) := hquiet

theorem Quiet.call {h : Handling} (hquiet : Quiet h) (op : CxOp)
    (hgate : op ≠ .gateCommand .open) (htimer : ∀ id seconds, op ≠ .startTimer id seconds) :
    Quiet (h.call op) := by
  intro call hcall
  rcases List.mem_append.mp hcall with hold | hnew
  · exact hquiet call hold
  · rw [List.mem_singleton.mp hnew]
    exact ⟨hgate, htimer⟩

theorem Quiet.settled {h : Handling} (hquiet : Quiet h) : Settled h := by
  intro call hcall
  obtain ⟨hgate, htimer⟩ := hquiet call hcall
  exact ⟨fun hop => absurd hop hgate, fun id seconds hop => absurd hop (htimer id seconds)⟩

theorem Settled.call {h : Handling} (hsettled : Settled h) (op : CxOp) :
    Settled (h.call op) := by
  intro call hcall
  rcases List.mem_append.mp hcall with hold | hnew
  · exact hsettled call hold
  · rw [List.mem_singleton.mp hnew]
    exact ⟨fun _ => rfl, fun _ _ _ => rfl⟩

/-- The tracks may not change after the gate was told to open, nor anything
after a timer was started. -/
theorem Settled.set {h : Handling} (hsettled : Settled h) (f : Crossing → Crossing)
    (htrack : (f h.cx).track = h.cx.track)
    (hidle : ∀ call ∈ h.calls, ∀ id seconds, call.op ≠ .startTimer id seconds) :
    Settled (h.set f) := by
  intro call hcall
  refine ⟨fun hop => ?_, fun id seconds hop => absurd hop (hidle call hcall id seconds)⟩
  exact ((hsettled call hcall).1 hop).trans htrack.symm

theorem Quiet.turnFlashOn {h : Handling} (hquiet : Quiet h) : Quiet (turnFlashOn h) := by
  unfold CrossingMachine.turnFlashOn
  split
  · exact hquiet
  · exact (hquiet.set _).call _ (by simp) (by simp)

theorem Quiet.cancelAll {h : Handling} (hquiet : Quiet h) (ids : List TimerId) :
    Quiet (ids.foldl (fun h id => (h.set fun cx => cx.bumpTimer id).call
      (.cancelTimer id)) h) := by
  induction ids generalizing h with
  | nil => exact hquiet
  | cons id ids ih => exact ih ((hquiet.set _).call _ (by simp) (by simp))

theorem Quiet.enterFault {h : Handling} (hquiet : Quiet h) (fault : CxFault) :
    Quiet (enterFault h fault) := by
  have hcancelled := (hquiet.set fun cx =>
    { cx with fault := fault, gate := .fault, closeDelayPending := false }).turnFlashOn.cancelAll
      TimerId.all
  exact (hcancelled.call _ (by simp) (by simp)).call _ (by simp) (by simp)

theorem Quiet.startGateClose {h : Handling} (hquiet : Quiet h) :
    Settled (startGateClose h) := by
  unfold CrossingMachine.startGateClose
  split
  · have haborted : Quiet (if h.cx.gate = .opening then
        (h.set fun cx => cx.bumpTimer .gateOpenTimeout).call
          (.cancelTimer .gateOpenTimeout)
        else h) := by
      split
      · exact (hquiet.set _).call _ (by simp) (by simp)
      · exact hquiet
    have hclosing := (((haborted.set fun cx =>
      { cx with gate := .closing, closeDelayPending := false }).call
        (.gateCommand .close) (by simp) (by simp)).set fun cx =>
          cx.bumpTimer .gateCloseTimeout)
    exact (hclosing.settled.call _).call _
  · exact hquiet.settled

theorem Quiet.startGateOpen {h : Handling} (hquiet : Quiet h) :
    Settled (startGateOpen h) := by
  unfold CrossingMachine.startGateOpen
  split
  · have hcancelled := ((((hquiet.set fun cx =>
      { cx with gate := .opening, closeDelayPending := false }).set fun cx =>
        (cx.bumpTimer .gateCloseDelay).bumpTimer .gateCloseTimeout).call
          (.cancelTimer .gateCloseDelay) (by simp) (by simp)).call
            (.cancelTimer .gateCloseTimeout) (by simp) (by simp))
    have htimers := (hcancelled.settled.call (.gateCommand .open)).set
      (fun cx => cx.bumpTimer .gateOpenTimeout) rfl (by
        intro call hcall
        rcases List.mem_append.mp hcall with hold | hnew
        · exact (hcancelled call hold).2
        · rw [List.mem_singleton.mp hnew]
          simp)
    exact (htimers.call _).call _
  · exact hquiet.settled

theorem settled_trainApproach (cx : Crossing) (dir : TrackDirection) :
    Settled (handleTrainApproach ⟨cx, []⟩ dir) := by
  unfold handleTrainApproach
  split
  · have hsent := (((quiet_start cx).set fun cx =>
      cx.setTrack dir .approaching).turnFlashOn.call .sendPreempt (by simp) (by simp))
    refine Settled.call ?_ _
    split
    · exact ((hsent.set _).set _).settled.call _
    · split
      · exact hsent.startGateClose
      · exact hsent.settled
  · exact (quiet_start cx).settled

theorem settled_trainEnter (cx : Crossing) (dir : TrackDirection) :
    Settled (handleTrainEnter ⟨cx, []⟩ dir) := by
  unfold handleTrainEnter
  split
  · split
    · exact ((quiet_start cx).enterFault _).settled
    · exact (((((quiet_start cx).set _).set _).settled.call _).call _)
  · exact (quiet_start cx).settled

theorem settled_trainExit (cx : Crossing) (dir : TrackDirection) :
    Settled (handleTrainExit ⟨cx, []⟩ dir) := by
  unfold handleTrainExit
  split
  · have hleft := (((quiet_start cx).set fun cx => cx.setTrack dir .cleared).set
      fun cx => cx.bumpTimer (trainTimeoutTimer dir)).call
        (.cancelTimer (trainTimeoutTimer dir)) (by simp) (by simp)
    refine Settled.call ?_ _
    split
    · exact (hleft.set _).startGateOpen
    · exact hleft.settled
  · exact (quiet_start cx).settled

theorem settled_gateClosed (cx : Crossing) : Settled (handleGateClosed ⟨cx, []⟩) := by
  unfold handleGateClosed
  split
  · have hclosed := ((((quiet_start cx).set fun cx => { cx with gate := .closed }).set
      fun cx => cx.bumpTimer .gateCloseTimeout).call
        (.cancelTimer .gateCloseTimeout) (by simp) (by simp)).call
          .stateChanged (by simp) (by simp)
    dsimp only
    split
    · exact (hclosed.set _).startGateOpen
    · exact hclosed.settled
  · exact (quiet_start cx).settled

theorem settled_gateOpened (cx : Crossing) : Settled (handleGateOpened ⟨cx, []⟩) := by
  unfold handleGateOpened
  split
  · have hopened := (((quiet_start cx).set fun cx => { cx with gate := .open }).set
      fun cx => cx.bumpTimer .gateOpenTimeout).call
        (.cancelTimer .gateOpenTimeout) (by simp) (by simp)
    dsimp only
    split
    · exact hopened.startGateClose
    · exact (((hopened.set _).settled.call _).call _).call _
  · exact (quiet_start cx).settled

theorem settled_timer (cx : Crossing) (timerId : TimerId) (timerGen : UInt32) :
    Settled (handleTimer ⟨cx, []⟩ timerId timerGen) := by
  unfold handleTimer
  split
  · exact (quiet_start cx).settled
  · cases timerId with
    | gateCloseDelay => exact ((quiet_start cx).set _).startGateClose
    | gateCloseTimeout | gateOpenTimeout | trainTimeoutUp | trainTimeoutDown =>
        exact ((quiet_start cx).enterFault _).settled

theorem settled_resetFault (cx : Crossing) : Settled (handleResetFault ⟨cx, []⟩) := by
  unfold handleResetFault
  split
  · have hclosing := ((((quiet_start cx).set fun cx => { cx with fault := .none }).set
      fun cx => (cx.setTrack .up .none).setTrack .down .none).set
        fun cx => { cx with gate := .closing, resetPending := true }).call
          (.gateCommand .close) (by simp) (by simp)
    exact ((hclosing.set _).settled.call _).call _
  · exact (quiet_start cx).settled

theorem settled (cx : Crossing) (event : CrossingEvent) :
    Settled (crossingHandleEvent cx event) := by
  unfold crossingHandleEvent
  dsimp only
  split
  · exact (quiet_start cx).settled
  · cases event with
    | trainApproach dir => exact settled_trainApproach cx dir
    | trainEnter dir => exact settled_trainEnter cx dir
    | trainExit dir => exact settled_trainExit cx dir
    | gateClosed => exact settled_gateClosed cx
    | gateOpened => exact settled_gateOpened cx
    | timer timerId timerGen => exact settled_timer cx timerId timerGen
    | injectFault => exact ((quiet_start cx).enterFault _).settled
    | resetFault => exact settled_resetFault cx

/-- The number of the crossing and the Locals next to it. -/
def site (cx : Crossing) : UInt8 × UInt8 × UInt8 :=
  (cx.id, cx.localId1, cx.localId2)

/-- The handler and all callbacks so far are about one crossing. -/
def OnSite (place : UInt8 × UInt8 × UInt8) (h : Handling) : Prop :=
  site h.cx = place ∧ ∀ call ∈ h.calls, site call.cx = place

@[simp] theorem site_bumpTimer (cx : Crossing) (id : TimerId) :
    site (cx.bumpTimer id) = site cx := rfl

@[simp] theorem site_setTrack (cx : Crossing) (dir : TrackDirection) (t : TrackState) :
    site (cx.setTrack dir t) = site cx := rfl

@[simp] theorem site_releaseTrack (cx : Crossing) (dir : TrackDirection) :
    site (releaseTrack cx dir) = site cx := by
  unfold releaseTrack
  split <;> rfl

section Handlers

variable {place : UInt8 × UInt8 × UInt8} {h : Handling}

theorem OnSite.set (hsite : OnSite place h) (f : Crossing → Crossing)
    (hf : ∀ cx, site (f cx) = site cx) : OnSite place (h.set f) :=
  ⟨(hf h.cx).trans hsite.1, hsite.2⟩

theorem OnSite.call (hsite : OnSite place h) (op : CxOp) : OnSite place (h.call op) := by
  refine ⟨hsite.1, fun call hcall => ?_⟩
  rcases List.mem_append.mp hcall with hold | hnew
  · exact hsite.2 call hold
  · rw [List.mem_singleton.mp hnew]
    exact hsite.1

theorem OnSite.turnFlashOn (hsite : OnSite place h) : OnSite place (turnFlashOn h) := by
  unfold CrossingMachine.turnFlashOn
  split
  · exact hsite
  · exact (hsite.set _ (by intro; rfl)).call _

theorem OnSite.cancelAll (hsite : OnSite place h) (ids : List TimerId) :
    OnSite place (ids.foldl (fun h id => (h.set fun cx => cx.bumpTimer id).call
      (.cancelTimer id)) h) := by
  induction ids generalizing h with
  | nil => exact hsite
  | cons id ids ih => exact ih ((hsite.set _ (by intro; rfl)).call _)

theorem OnSite.enterFault (hsite : OnSite place h) (fault : CxFault) :
    OnSite place (enterFault h fault) := by
  have hfault := hsite.set (fun cx =>
    { cx with fault := fault, gate := .fault, closeDelayPending := false }) (by intro; rfl)
  exact ((hfault.turnFlashOn.cancelAll _).call _).call _

theorem OnSite.startGateClose (hsite : OnSite place h) : OnSite place (startGateClose h) := by
  unfold CrossingMachine.startGateClose
  split
  · have haborted : OnSite place (if h.cx.gate = .opening then
        (h.set fun cx => cx.bumpTimer .gateOpenTimeout).call (.cancelTimer .gateOpenTimeout)
        else h) := by
      split
      · exact (hsite.set _ (by intro; rfl)).call _
      · exact hsite
    exact (((((haborted.set _ (by intro; rfl)).call _).set _ (by intro; rfl)).call _).call _)
  · exact hsite

theorem OnSite.startGateOpen (hsite : OnSite place h) : OnSite place (startGateOpen h) := by
  unfold CrossingMachine.startGateOpen
  split
  · have hcancelled := ((((hsite.set (fun cx =>
      { cx with gate := .opening, closeDelayPending := false }) (by intro; rfl)).set (fun cx =>
        (cx.bumpTimer .gateCloseDelay).bumpTimer .gateCloseTimeout) (by intro; rfl)).call
          (.cancelTimer .gateCloseDelay)).call (.cancelTimer .gateCloseTimeout))
    exact ((((hcancelled.call _).set _ (by intro; rfl)).call _).call _)
  · exact hsite

theorem OnSite.trainApproach (hsite : OnSite place h) (dir : TrackDirection) :
    OnSite place (handleTrainApproach h dir) := by
  unfold handleTrainApproach
  split
  · have hsent := (hsite.set (fun cx => cx.setTrack dir .approaching)
      (by intro; rfl)).turnFlashOn.call .sendPreempt
    refine OnSite.call ?_ _
    split
    · exact ((hsent.set _ (by intro; rfl)).set _ (by intro; rfl)).call _
    · split
      · exact hsent.startGateClose
      · exact hsent
  · exact hsite

theorem OnSite.trainEnter (hsite : OnSite place h) (dir : TrackDirection) :
    OnSite place (handleTrainEnter h dir) := by
  unfold handleTrainEnter
  split
  · split
    · exact hsite.enterFault _
    · exact (((hsite.set _ (by intro; rfl)).set _ (by intro; rfl)).call _).call _
  · exact hsite

theorem OnSite.trainExit (hsite : OnSite place h) (dir : TrackDirection) :
    OnSite place (handleTrainExit h dir) := by
  unfold handleTrainExit
  split
  · have hleft := ((hsite.set (fun cx => cx.setTrack dir .cleared) (by intro; rfl)).set
      (fun cx => cx.bumpTimer (trainTimeoutTimer dir)) (by intro; rfl)).call
        (.cancelTimer (trainTimeoutTimer dir))
    refine OnSite.call ?_ _
    split
    · exact (hleft.set _ (by simp)).startGateOpen
    · exact hleft
  · exact hsite

theorem OnSite.gateClosed (hsite : OnSite place h) : OnSite place (handleGateClosed h) := by
  unfold handleGateClosed
  split
  · have hclosed := (((hsite.set (fun cx => { cx with gate := .closed }) (by intro; rfl)).set
      (fun cx => cx.bumpTimer .gateCloseTimeout) (by intro; rfl)).call
        (.cancelTimer .gateCloseTimeout)).call .stateChanged
    dsimp only
    split
    · exact (hclosed.set _ (by intro; rfl)).startGateOpen
    · exact hclosed
  · exact hsite

theorem OnSite.gateOpened (hsite : OnSite place h) : OnSite place (handleGateOpened h) := by
  unfold handleGateOpened
  split
  · have hopened := ((hsite.set (fun cx => { cx with gate := .open }) (by intro; rfl)).set
      (fun cx => cx.bumpTimer .gateOpenTimeout) (by intro; rfl)).call
        (.cancelTimer .gateOpenTimeout)
    dsimp only
    split
    · exact hopened.startGateClose
    · exact (((hopened.set _ (by intro; rfl)).call _).call _).call _
  · exact hsite

theorem OnSite.timer (hsite : OnSite place h) (timerId : TimerId) (timerGen : UInt32) :
    OnSite place (handleTimer h timerId timerGen) := by
  unfold handleTimer
  split
  · exact hsite
  · cases timerId with
    | gateCloseDelay => exact (hsite.set _ (by intro; rfl)).startGateClose
    | gateCloseTimeout | gateOpenTimeout | trainTimeoutUp | trainTimeoutDown =>
        exact hsite.enterFault _

theorem OnSite.resetFault (hsite : OnSite place h) : OnSite place (handleResetFault h) := by
  unfold handleResetFault
  split
  · have hclosing := (((hsite.set (fun cx => { cx with fault := .none }) (by intro; rfl)).set
      (fun cx => (cx.setTrack .up .none).setTrack .down .none) (by intro; rfl)).set
        (fun cx => { cx with gate := .closing, resetPending := true }) (by intro; rfl)).call
          (.gateCommand .close)
    exact ((hclosing.set _ (by intro; rfl)).call _).call _
  · exact hsite

end Handlers

theorem onSite (cx : Crossing) (event : CrossingEvent) :
    OnSite (site cx) (crossingHandleEvent cx event) := by
  have hstart : OnSite (site cx) ⟨cx, []⟩ := ⟨rfl, fun _ hcall => absurd hcall List.not_mem_nil⟩
  unfold crossingHandleEvent
  dsimp only
  split
  · exact hstart
  · cases event with
    | trainApproach dir => exact hstart.trainApproach dir
    | trainEnter dir => exact hstart.trainEnter dir
    | trainExit dir => exact hstart.trainExit dir
    | gateClosed => exact hstart.gateClosed
    | gateOpened => exact hstart.gateOpened
    | timer timerId timerGen => exact hstart.timer timerId timerGen
    | injectFault => exact hstart.enterFault _
    | resetFault => exact hstart.resetFault

end TrafficLight.CrossingCalls
