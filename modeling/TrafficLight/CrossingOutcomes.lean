import TrafficLight.CrossingMachine

namespace TrafficLight.CrossingOutcomes

open TrafficLight.Protocol
open TrafficLight.CrossingMachine

/-- The callbacks of a handler without the crossings they were handed. -/
def ops (h : Handling) : List CxOp := h.calls.map CxCall.op

@[simp] theorem set_cx (h : Handling) (f : Crossing → Crossing) :
    (h.set f).cx = f h.cx := rfl

@[simp] theorem call_cx (h : Handling) (op : CxOp) : (h.call op).cx = h.cx := rfl

@[simp] theorem ops_set (h : Handling) (f : Crossing → Crossing) :
    ops (h.set f) = ops h := rfl

@[simp] theorem ops_call (h : Handling) (op : CxOp) :
    ops (h.call op) = ops h ++ [op] := by
  simp [ops, Handling.call]

@[simp] theorem ops_start (cx : Crossing) : ops ⟨cx, []⟩ = [] := rfl

@[simp] theorem bumpTimer_track (cx : Crossing) (id : TimerId) :
    (cx.bumpTimer id).track = cx.track := rfl

@[simp] theorem bumpTimer_gate (cx : Crossing) (id : TimerId) :
    (cx.bumpTimer id).gate = cx.gate := rfl

@[simp] theorem bumpTimer_flashOn (cx : Crossing) (id : TimerId) :
    (cx.bumpTimer id).flashOn = cx.flashOn := rfl

@[simp] theorem bumpTimer_fault (cx : Crossing) (id : TimerId) :
    (cx.bumpTimer id).fault = cx.fault := rfl

@[simp] theorem bumpTimer_resetPending (cx : Crossing) (id : TimerId) :
    (cx.bumpTimer id).resetPending = cx.resetPending := rfl

@[simp] theorem bumpTimer_closeDelayPending (cx : Crossing) (id : TimerId) :
    (cx.bumpTimer id).closeDelayPending = cx.closeDelayPending := rfl

@[simp] theorem bumpTimer_timerGen (cx : Crossing) (i id : TimerId) :
    (cx.bumpTimer i).timerGen id =
      if id = i then cx.timerGen id + 1 else cx.timerGen id := by
  by_cases hid : id = i
  · simp [Crossing.bumpTimer, hid]
  · simp [Crossing.bumpTimer, hid]

@[simp] theorem setTrack_gate (cx : Crossing) (dir : TrackDirection) (t : TrackState) :
    (cx.setTrack dir t).gate = cx.gate := rfl

@[simp] theorem setTrack_flashOn (cx : Crossing) (dir : TrackDirection) (t : TrackState) :
    (cx.setTrack dir t).flashOn = cx.flashOn := rfl

@[simp] theorem setTrack_fault (cx : Crossing) (dir : TrackDirection) (t : TrackState) :
    (cx.setTrack dir t).fault = cx.fault := rfl

@[simp] theorem setTrack_resetPending (cx : Crossing) (dir : TrackDirection) (t : TrackState) :
    (cx.setTrack dir t).resetPending = cx.resetPending := rfl

@[simp] theorem setTrack_closeDelayPending (cx : Crossing) (dir : TrackDirection) (t : TrackState) :
    (cx.setTrack dir t).closeDelayPending = cx.closeDelayPending := rfl

@[simp] theorem setTrack_timerGen (cx : Crossing) (dir : TrackDirection) (t : TrackState) :
    (cx.setTrack dir t).timerGen = cx.timerGen := rfl

@[simp] theorem setTrack_track (cx : Crossing) (dir : TrackDirection) (t : TrackState)
    (d : TrackDirection) :
    (cx.setTrack dir t).track d = if d = dir then t else cx.track d := by
  simp [Crossing.setTrack, Function.update_apply]

/-- The lights are switched on by a callback only if they were off. -/
def flashOps (flashOn : Bool) : List CxOp :=
  if flashOn then [] else [.setFlash true]

@[simp] theorem mem_flashOps (op : CxOp) (flashOn : Bool) :
    op ∈ flashOps flashOn ↔ flashOn = false ∧ op = .setFlash true := by
  cases flashOn <;> simp [flashOps]

@[simp] theorem turnFlashOn_cx (h : Handling) :
    (turnFlashOn h).cx = { h.cx with flashOn := true } := by
  unfold turnFlashOn
  split
  · rename_i hon
    cases hcx : h.cx
    simp_all
  · rfl

@[simp] theorem ops_turnFlashOn (h : Handling) :
    ops (turnFlashOn h) = ops h ++ flashOps h.cx.flashOn := by
  unfold turnFlashOn flashOps
  split <;> simp

/-- The crossing after a fault: every timer generation moves on. -/
def faulted (cx : Crossing) (fault : CxFault) : Crossing :=
  { cx with
    fault := fault, gate := .fault, closeDelayPending := false, flashOn := true
    timerGen := fun id => cx.timerGen id + 1 }

def faultOps (flashOn : Bool) (fault : CxFault) : List CxOp :=
  flashOps flashOn ++ TimerId.all.map .cancelTimer ++ [.faultAlert fault, .stateChanged]

@[simp] theorem mem_faultOps (op : CxOp) (flashOn : Bool) (fault : CxFault) :
    op ∈ faultOps flashOn fault ↔ op ∈ flashOps flashOn ∨ (∃ id, op = .cancelTimer id) ∨
      op = .faultAlert fault ∨ op = .stateChanged := by
  have hall : (∃ id ∈ TimerId.all, CxOp.cancelTimer id = op) ↔ ∃ id, op = .cancelTimer id := by
    constructor
    · rintro ⟨id, -, rfl⟩
      exact ⟨id, rfl⟩
    · rintro ⟨id, rfl⟩
      exact ⟨id, by cases id <;> decide, rfl⟩
  simp [faultOps, hall]

theorem bumpAll (cx : Crossing) :
    TimerId.all.foldl Crossing.bumpTimer cx =
      { cx with timerGen := fun id => cx.timerGen id + 1 } := by
  simp only [TimerId.all, List.foldl_cons, List.foldl_nil, Crossing.bumpTimer]
  congr 1
  funext id
  cases id <;> simp [Function.update]

theorem foldl_cancel (ids : List TimerId) (h : Handling) :
    (ids.foldl (fun h id => (h.set fun cx => cx.bumpTimer id).call
        (.cancelTimer id)) h).cx = ids.foldl Crossing.bumpTimer h.cx ∧
      ops (ids.foldl (fun h id => (h.set fun cx => cx.bumpTimer id).call
        (.cancelTimer id)) h) = ops h ++ ids.map .cancelTimer := by
  induction ids generalizing h with
  | nil => simp
  | cons id ids ih =>
      obtain ⟨hcx, hops⟩ := ih ((h.set fun cx => cx.bumpTimer id).call (.cancelTimer id))
      refine ⟨hcx, ?_⟩
      simpa using hops

@[simp] theorem enterFault_cx (h : Handling) (fault : CxFault) :
    (enterFault h fault).cx = faulted h.cx fault := by
  simp only [enterFault, call_cx, (foldl_cancel _ _).1, turnFlashOn_cx, set_cx, bumpAll]
  rfl

@[simp] theorem ops_enterFault (h : Handling) (fault : CxFault) :
    ops (enterFault h fault) = ops h ++ faultOps h.cx.flashOn fault := by
  simp only [enterFault, ops_call, (foldl_cancel _ _).2, ops_turnFlashOn, ops_set,
    set_cx, faultOps, List.append_assoc, List.cons_append, List.nil_append]

/-- The crossing after an effective `startGateClose`. -/
def closeStarted (cx : Crossing) : Crossing :=
  { cx with
    gate := .closing, closeDelayPending := false
    timerGen := fun id =>
      if id = .gateCloseTimeout ∨ (id = .gateOpenTimeout ∧ cx.gate = .opening)
      then cx.timerGen id + 1 else cx.timerGen id }

def closeOps (gate : GateState) : List CxOp :=
  (if gate = .opening then [.cancelTimer .gateOpenTimeout] else []) ++
    [.gateCommand .close, .startTimer .gateCloseTimeout gateCloseTimeoutSec,
      .stateChanged]

@[simp] theorem mem_closeOps (op : CxOp) (gate : GateState) :
    op ∈ closeOps gate ↔ (gate = .opening ∧ op = .cancelTimer .gateOpenTimeout) ∨
      op = .gateCommand .close ∨ op = .startTimer .gateCloseTimeout gateCloseTimeoutSec ∨
        op = .stateChanged := by
  unfold closeOps
  split <;> simp_all

theorem startGateClose_cx (h : Handling) :
    (startGateClose h).cx =
      if h.cx.gate = .open ∨ h.cx.gate = .opening then closeStarted h.cx
      else h.cx := by
  unfold startGateClose
  split
  · by_cases hg : h.cx.gate = .opening
    all_goals
      simp only [hg, if_true, if_false, call_cx, set_cx, closeStarted,
        Crossing.bumpTimer]
      congr 1
      funext id
      cases id <;> simp [Function.update]
  · rfl

theorem ops_startGateClose (h : Handling) :
    ops (startGateClose h) =
      ops h ++ if h.cx.gate = .open ∨ h.cx.gate = .opening then closeOps h.cx.gate
        else [] := by
  unfold startGateClose
  split
  · by_cases hg : h.cx.gate = .opening <;> simp [hg, closeOps]
  · simp

/-- The crossing after an effective `startGateOpen`. -/
def openStarted (cx : Crossing) : Crossing :=
  { cx with
    gate := .opening, closeDelayPending := false
    timerGen := fun id =>
      if id = .gateCloseDelay ∨ id = .gateCloseTimeout ∨ id = .gateOpenTimeout
      then cx.timerGen id + 1 else cx.timerGen id }

def openOps : List CxOp :=
  [.cancelTimer .gateCloseDelay, .cancelTimer .gateCloseTimeout, .gateCommand .open,
    .startTimer .gateOpenTimeout gateOpenTimeoutSec, .stateChanged]

theorem startGateOpen_cx (h : Handling) :
    (startGateOpen h).cx =
      if h.cx.gate = .closed ∨ h.cx.gate = .closing then openStarted h.cx
      else h.cx := by
  unfold startGateOpen
  split
  · simp only [call_cx, set_cx, openStarted, Crossing.bumpTimer]
    congr 1
    funext id
    cases id <;> simp [Function.update]
  · rfl

theorem ops_startGateOpen (h : Handling) :
    ops (startGateOpen h) =
      ops h ++ if h.cx.gate = .closed ∨ h.cx.gate = .closing then openOps else [] := by
  unfold startGateOpen
  split <;> simp [openOps]

/-- The crossing once a new train is registered on a free track. -/
def approached (cx : Crossing) (dir : TrackDirection) : Crossing :=
  { cx.setTrack dir .approaching with flashOn := true }

def entered (cx : Crossing) (dir : TrackDirection) : Crossing :=
  (cx.setTrack dir .onCrossing).bumpTimer (trainTimeoutTimer dir)

def exited (cx : Crossing) (dir : TrackDirection) : Crossing :=
  (cx.setTrack dir .cleared).bumpTimer (trainTimeoutTimer dir)

/-- Both tracks free after the last train has left. -/
def released (cx : Crossing) (dir : TrackDirection) : Crossing :=
  { cx with track := fun _ => .none }.bumpTimer (trainTimeoutTimer dir)

theorem bothTracksClear_exited (cx : Crossing) (dir : TrackDirection) :
    crossingBothTracksClear (exited cx dir) = true ↔
      cx.track dir.other = .none ∨ cx.track dir.other = .cleared := by
  cases dir <;>
    simp [crossingBothTracksClear, exited, Crossing.setTrack, Crossing.bumpTimer,
      TrackDirection.other]

theorem releaseTrack_eq (cx : Crossing) (dir : TrackDirection) :
    releaseTrack cx dir =
      { cx with
        track := fun d =>
          if d = dir ∧ cx.track d = .cleared then .none else cx.track d } := by
  unfold releaseTrack Crossing.setTrack
  split
  · rename_i hclear
    congr 1
    funext d
    by_cases hd : d = dir
    · subst hd
      simp [hclear]
    · simp [hd]
  · rename_i hclear
    cases cx
    congr 1
    funext d
    by_cases hd : d = dir
    · subst hd
      simp_all
    · simp [hd]

theorem releaseTrack_exited (cx : Crossing) (dir : TrackDirection)
    (h : crossingBothTracksClear (exited cx dir) = true) :
    releaseTrack (releaseTrack (exited cx dir) .up) .down = released cx dir := by
  simp only [crossingBothTracksClear, decide_eq_true_eq] at h
  simp only [releaseTrack_eq, released, Crossing.bumpTimer]
  congr 1
  funext d
  cases d
  · rcases h.1 with hup | hup <;> simp [hup]
  · rcases h.2 with hdown | hdown <;> simp [hdown]

/-- The crossing after the gate reported closed. -/
def closedGate (cx : Crossing) : Crossing :=
  { cx with gate := .closed }.bumpTimer .gateCloseTimeout

/-- The crossing after the gate reported open. -/
def openedGate (cx : Crossing) : Crossing :=
  { cx with gate := .open }.bumpTimer .gateOpenTimeout

/-- The crossing after a reset: both tracks free, the gate closing once for
verification. -/
def resetStarted (cx : Crossing) : Crossing :=
  { cx with
    fault := .none, track := fun _ => .none, gate := .closing
    resetPending := true }.bumpTimer .gateCloseTimeout

/-- Every branch of `crossingHandleEvent`: the event, the crossing it leaves
and the callbacks it makes. -/
inductive Outcome (cx : Crossing) : CrossingEvent → Crossing → List CxOp → Prop
  | ignoredFaulted {event : CrossingEvent} (hfault : cx.fault ≠ .none)
      (hevent : event ≠ .resetFault) : Outcome cx event cx []
  | approachIgnored {dir : TrackDirection} (hfault : cx.fault = .none)
      (htrack : cx.track dir ≠ .none) : Outcome cx (.trainApproach dir) cx []
  | approachDelay {dir : TrackDirection} (hfault : cx.fault = .none)
      (htrack : cx.track dir = .none) (hgate : cx.gate = .open)
      (hpending : cx.closeDelayPending = false) :
      Outcome cx (.trainApproach dir)
        ({ approached cx dir with closeDelayPending := true }.bumpTimer .gateCloseDelay)
        (flashOps cx.flashOn ++
          [.sendPreempt, .startTimer .gateCloseDelay gateCloseDelaySec, .stateChanged])
  | approachReclose {dir : TrackDirection} (hfault : cx.fault = .none)
      (htrack : cx.track dir = .none) (hgate : cx.gate = .opening) :
      Outcome cx (.trainApproach dir) (closeStarted (approached cx dir))
        (flashOps cx.flashOn ++ [.sendPreempt] ++ closeOps cx.gate ++ [.stateChanged])
  | approachOther {dir : TrackDirection} (hfault : cx.fault = .none)
      (htrack : cx.track dir = .none)
      (hopen : cx.gate = .open → cx.closeDelayPending = true)
      (hopening : cx.gate ≠ .opening) :
      Outcome cx (.trainApproach dir) (approached cx dir)
        (flashOps cx.flashOn ++ [.sendPreempt, .stateChanged])
  | enterIgnored {dir : TrackDirection} (hfault : cx.fault = .none)
      (htrack : cx.track dir ≠ .approaching) : Outcome cx (.trainEnter dir) cx []
  | enterEarly {dir : TrackDirection} (hfault : cx.fault = .none)
      (htrack : cx.track dir = .approaching) (hgate : cx.gate ≠ .closed) :
      Outcome cx (.trainEnter dir) (faulted cx .trainEarly) (faultOps cx.flashOn .trainEarly)
  | enterClosed {dir : TrackDirection} (hfault : cx.fault = .none)
      (htrack : cx.track dir = .approaching) (hgate : cx.gate = .closed) :
      Outcome cx (.trainEnter dir) (entered cx dir)
        [.startTimer (trainTimeoutTimer dir) trainTimeoutSec, .stateChanged]
  | exitIgnored {dir : TrackDirection} (hfault : cx.fault = .none)
      (htrack : cx.track dir ≠ .onCrossing) : Outcome cx (.trainExit dir) cx []
  | exitBusy {dir : TrackDirection} (hfault : cx.fault = .none)
      (htrack : cx.track dir = .onCrossing)
      (hother : cx.track dir.other = .approaching ∨ cx.track dir.other = .onCrossing) :
      Outcome cx (.trainExit dir) (exited cx dir)
        [.cancelTimer (trainTimeoutTimer dir), .stateChanged]
  | exitOpen {dir : TrackDirection} (hfault : cx.fault = .none)
      (htrack : cx.track dir = .onCrossing)
      (hother : cx.track dir.other = .none ∨ cx.track dir.other = .cleared)
      (hgate : cx.gate = .closed ∨ cx.gate = .closing) :
      Outcome cx (.trainExit dir) (openStarted (released cx dir))
        (.cancelTimer (trainTimeoutTimer dir) :: openOps ++ [.stateChanged])
  | exitReleased {dir : TrackDirection} (hfault : cx.fault = .none)
      (htrack : cx.track dir = .onCrossing)
      (hother : cx.track dir.other = .none ∨ cx.track dir.other = .cleared)
      (hgate : ¬ (cx.gate = .closed ∨ cx.gate = .closing)) :
      Outcome cx (.trainExit dir) (released cx dir)
        [.cancelTimer (trainTimeoutTimer dir), .stateChanged]
  | closedIgnored (hfault : cx.fault = .none) (hgate : cx.gate ≠ .closing) :
      Outcome cx .gateClosed cx []
  | closedHeld (hfault : cx.fault = .none) (hgate : cx.gate = .closing)
      (hreset : cx.resetPending = false) :
      Outcome cx .gateClosed (closedGate cx)
        [.cancelTimer .gateCloseTimeout, .stateChanged]
  | closedReset (hfault : cx.fault = .none) (hgate : cx.gate = .closing)
      (hreset : cx.resetPending = true) :
      Outcome cx .gateClosed
        (openStarted { closedGate cx with resetPending := false })
        ([.cancelTimer .gateCloseTimeout, .stateChanged] ++ openOps)
  | openedIgnored (hfault : cx.fault = .none) (hgate : cx.gate ≠ .opening) :
      Outcome cx .gateOpened cx []
  | openedReclose (hfault : cx.fault = .none) (hgate : cx.gate = .opening)
      (hbusy : crossingBothTracksClear cx = false) :
      Outcome cx .gateOpened (closeStarted (openedGate cx))
        (.cancelTimer .gateOpenTimeout :: closeOps .open)
  | openedClear (hfault : cx.fault = .none) (hgate : cx.gate = .opening)
      (hclear : crossingBothTracksClear cx = true) :
      Outcome cx .gateOpened { openedGate cx with flashOn := false }
        [.cancelTimer .gateOpenTimeout, .setFlash false, .sendClear, .stateChanged]
  | timerStale {timerId : TimerId} {timerGen : UInt32} (hfault : cx.fault = .none)
      (hgen : timerGen ≠ cx.timerGen timerId) :
      Outcome cx (.timer timerId timerGen) cx []
  | timerClose {timerGen : UInt32} (hfault : cx.fault = .none)
      (hgen : timerGen = cx.timerGen .gateCloseDelay)
      (hgate : cx.gate = .open ∨ cx.gate = .opening) :
      Outcome cx (.timer .gateCloseDelay timerGen) (closeStarted cx) (closeOps cx.gate)
  | timerCloseIdle {timerGen : UInt32} (hfault : cx.fault = .none)
      (hgen : timerGen = cx.timerGen .gateCloseDelay)
      (hgate : ¬ (cx.gate = .open ∨ cx.gate = .opening)) :
      Outcome cx (.timer .gateCloseDelay timerGen)
        { cx with closeDelayPending := false } []
  | timerFault {timerId : TimerId} {timerGen : UInt32} {fault : CxFault}
      (hfault : cx.fault = .none) (hgen : timerGen = cx.timerGen timerId)
      (hid : timerId ≠ .gateCloseDelay) (hnone : fault ≠ .none) :
      Outcome cx (.timer timerId timerGen) (faulted cx fault) (faultOps cx.flashOn fault)
  | injected (hfault : cx.fault = .none) :
      Outcome cx .injectFault (faulted cx .injected) (faultOps cx.flashOn .injected)
  | resetIgnored (hfault : cx.fault = .none) : Outcome cx .resetFault cx []
  | reset (hfault : cx.fault ≠ .none) :
      Outcome cx .resetFault (resetStarted cx)
        [.gateCommand .close, .startTimer .gateCloseTimeout gateCloseTimeoutSec,
          .stateChanged]

section Branches

variable {cx : Crossing} (hfault : cx.fault = .none)
include hfault

theorem outcome_trainApproach (dir : TrackDirection) :
    Outcome cx (.trainApproach dir) (handleTrainApproach ⟨cx, []⟩ dir).cx
      (ops (handleTrainApproach ⟨cx, []⟩ dir)) := by
  by_cases htrack : cx.track dir = .none
  · by_cases hdelay : cx.gate = .open ∧ cx.closeDelayPending = false
    · have hout := Outcome.approachDelay hfault htrack hdelay.1 hdelay.2
      simpa [handleTrainApproach, htrack, hdelay.1, hdelay.2, approached,
        Crossing.setTrack] using hout
    · by_cases hopening : cx.gate = .opening
      · have hout := Outcome.approachReclose hfault htrack hopening
        simpa [handleTrainApproach, htrack, hopening, approached, Crossing.setTrack,
          startGateClose_cx, ops_startGateClose, closeOps] using hout
      · have hout := Outcome.approachOther hfault htrack (by
          intro hopen
          simpa [hopen] using hdelay) hopening
        simpa [handleTrainApproach, htrack, hdelay, hopening, approached,
          Crossing.setTrack] using hout
  · simpa [handleTrainApproach, htrack] using Outcome.approachIgnored hfault htrack

theorem outcome_trainEnter (dir : TrackDirection) :
    Outcome cx (.trainEnter dir) (handleTrainEnter ⟨cx, []⟩ dir).cx
      (ops (handleTrainEnter ⟨cx, []⟩ dir)) := by
  by_cases htrack : cx.track dir = .approaching
  · by_cases hgate : cx.gate = .closed
    · simpa [handleTrainEnter, htrack, hgate, entered] using
        Outcome.enterClosed hfault htrack hgate
    · simpa [handleTrainEnter, htrack, hgate] using
        Outcome.enterEarly hfault htrack hgate
  · simpa [handleTrainEnter, htrack] using Outcome.enterIgnored hfault htrack

theorem outcome_trainExit (dir : TrackDirection) :
    Outcome cx (.trainExit dir) (handleTrainExit ⟨cx, []⟩ dir).cx
      (ops (handleTrainExit ⟨cx, []⟩ dir)) := by
  by_cases htrack : cx.track dir = .onCrossing
  · by_cases hclear : crossingBothTracksClear (exited cx dir) = true
    · have hother := (bothTracksClear_exited cx dir).mp hclear
      have hrelease := releaseTrack_exited cx dir hclear
      have hstart : handleTrainExit ⟨cx, []⟩ dir =
          (startGateOpen ⟨released cx dir,
            [⟨.cancelTimer (trainTimeoutTimer dir), exited cx dir⟩]⟩).call
              .stateChanged := by
        simp only [handleTrainExit, htrack, if_true]
        rw [← hrelease]
        exact congrArg (Handling.call · .stateChanged) (if_pos hclear)
      rw [hstart, call_cx, ops_call, startGateOpen_cx, ops_startGateOpen]
      have hgate_eq : (released cx dir).gate = cx.gate := rfl
      simp only [hgate_eq]
      by_cases hgate : cx.gate = .closed ∨ cx.gate = .closing
      · rw [if_pos hgate, if_pos hgate]
        exact Outcome.exitOpen hfault htrack hother hgate
      · rw [if_neg hgate, if_neg hgate]
        exact Outcome.exitReleased hfault htrack hother hgate
    · have hother : cx.track dir.other = .approaching ∨
          cx.track dir.other = .onCrossing := by
        rw [bothTracksClear_exited cx dir] at hclear
        cases hstate : cx.track dir.other <;> simp_all
      have hhandle : handleTrainExit ⟨cx, []⟩ dir =
          (⟨exited cx dir, [⟨.cancelTimer (trainTimeoutTimer dir), exited cx dir⟩]⟩ :
            Handling).call .stateChanged := by
        simp only [handleTrainExit, htrack, if_true]
        exact congrArg (Handling.call · .stateChanged) (if_neg hclear)
      rw [hhandle]
      exact Outcome.exitBusy hfault htrack hother
  · simpa [handleTrainExit, htrack] using Outcome.exitIgnored hfault htrack

theorem outcome_gateClosed :
    Outcome cx .gateClosed (handleGateClosed ⟨cx, []⟩).cx
      (ops (handleGateClosed ⟨cx, []⟩)) := by
  by_cases hgate : cx.gate = .closing
  · cases hreset : cx.resetPending with
    | true =>
        simpa [handleGateClosed, hgate, hreset, closedGate, Crossing.bumpTimer,
          startGateOpen_cx, ops_startGateOpen] using
          Outcome.closedReset hfault hgate hreset
    | false =>
        simpa [handleGateClosed, hgate, hreset, closedGate, Crossing.bumpTimer] using
          Outcome.closedHeld hfault hgate hreset
  · simpa [handleGateClosed, hgate] using Outcome.closedIgnored hfault hgate

theorem outcome_gateOpened :
    Outcome cx .gateOpened (handleGateOpened ⟨cx, []⟩).cx
      (ops (handleGateOpened ⟨cx, []⟩)) := by
  by_cases hgate : cx.gate = .opening
  · have hhandle : handleGateOpened ⟨cx, []⟩ =
        if crossingBothTracksClear cx = false then
          startGateClose ⟨openedGate cx, [⟨.cancelTimer .gateOpenTimeout, openedGate cx⟩]⟩
        else
          (((Handling.set ⟨openedGate cx, [⟨.cancelTimer .gateOpenTimeout, openedGate cx⟩]⟩
            fun cx => { cx with flashOn := false }).call (.setFlash false)).call
              .sendClear).call .stateChanged := by
      simp only [handleGateOpened, hgate, if_true]
      rfl
    cases hclear : crossingBothTracksClear cx with
    | true =>
        rw [hhandle, hclear]
        exact Outcome.openedClear hfault hgate hclear
    | false =>
        rw [hhandle, hclear, if_pos rfl, startGateClose_cx, ops_startGateClose]
        exact Outcome.openedReclose hfault hgate hclear
  · simpa [handleGateOpened, hgate] using Outcome.openedIgnored hfault hgate

theorem outcome_timer (timerId : TimerId) (timerGen : UInt32) :
    Outcome cx (.timer timerId timerGen) (handleTimer ⟨cx, []⟩ timerId timerGen).cx
      (ops (handleTimer ⟨cx, []⟩ timerId timerGen)) := by
  by_cases hgen : timerGen = cx.timerGen timerId
  · cases timerId with
    | gateCloseDelay =>
        have hhandle : handleTimer ⟨cx, []⟩ .gateCloseDelay timerGen =
            startGateClose ⟨{ cx with closeDelayPending := false }, []⟩ := by
          simp only [handleTimer, hgen, ne_eq, not_true_eq_false, if_false]
          rfl
        rw [hhandle, startGateClose_cx, ops_startGateClose]
        by_cases hgate : cx.gate = .open ∨ cx.gate = .opening
        · rw [if_pos hgate, if_pos hgate]
          exact Outcome.timerClose hfault hgen hgate
        · rw [if_neg hgate, if_neg hgate]
          exact Outcome.timerCloseIdle hfault hgen hgate
    | gateCloseTimeout | gateOpenTimeout | trainTimeoutUp | trainTimeoutDown =>
        simp only [handleTimer, hgen, ne_eq, not_true_eq_false, if_false,
          enterFault_cx, ops_enterFault, ops_start, List.nil_append]
        exact Outcome.timerFault hfault rfl (by decide) (by decide)
  · simpa [handleTimer, hgen] using Outcome.timerStale hfault hgen

end Branches

theorem outcome_resetFault (cx : Crossing) :
    Outcome cx .resetFault (handleResetFault ⟨cx, []⟩).cx
      (ops (handleResetFault ⟨cx, []⟩)) := by
  by_cases hfault : cx.fault = .none
  · simpa [handleResetFault, hfault] using Outcome.resetIgnored hfault
  · have htrack : Function.update (Function.update cx.track .up TrackState.none)
        .down TrackState.none = fun _ => TrackState.none := by
      funext d
      cases d <;> simp
    simpa [handleResetFault, hfault, Crossing.setTrack, htrack, resetStarted] using
      Outcome.reset hfault

theorem outcome (cx : Crossing) (event : CrossingEvent) :
    Outcome cx event (crossingHandleEvent cx event).cx
      (ops (crossingHandleEvent cx event)) := by
  by_cases hignored : cx.fault ≠ .none ∧ event ≠ .resetFault
  · simp only [crossingHandleEvent, if_pos hignored]
    exact Outcome.ignoredFaulted hignored.1 hignored.2
  · simp only [crossingHandleEvent, if_neg hignored]
    cases event with
    | resetFault => exact outcome_resetFault cx
    | trainApproach dir => exact outcome_trainApproach (by simpa using hignored) dir
    | trainEnter dir => exact outcome_trainEnter (by simpa using hignored) dir
    | trainExit dir => exact outcome_trainExit (by simpa using hignored) dir
    | gateClosed => exact outcome_gateClosed (by simpa using hignored)
    | gateOpened => exact outcome_gateOpened (by simpa using hignored)
    | timer timerId timerGen =>
        exact outcome_timer (by simpa using hignored) timerId timerGen
    | injectFault =>
        have hfault : cx.fault = .none := by simpa using hignored
        simpa using Outcome.injected hfault

end TrafficLight.CrossingOutcomes
