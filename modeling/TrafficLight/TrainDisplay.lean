import TrafficLight.CrossingRuns

/-!
The display of the train controller, from the callbacks in `train_controller.c` and
the setters of `train_ui.c`. Every event that changes what is shown ends with a
notification, and nothing that is shown changes after it.
-/

namespace TrafficLight.TrainDisplay

open TrafficLight.Runs
open TrafficLight.Protocol
open TrafficLight.CrossingMachine
open TrafficLight.CrossingOutcomes
open TrafficLight.CrossingCalls

/-- `train_signal_t` -/
inductive TrainSignal
  | proceed
  | stop
  deriving DecidableEq

/-- `crossing_fault_t` -/
inductive CrossingFault
  | none
  | gateCloseTimeout
  | gateOpenTimeout
  | sensorFailure
  | commLoss
  deriving DecidableEq

/-- `crossing_state_t` without its two times of day. The display numbers the states
of a track as the crossing does. -/
structure CrossingDisplay where
  trackUp : TrackState
  trackDown : TrackState
  boomGate : GateState
  roadFlash : Bool
  fault : CrossingFault

/-- The part of `train_ui_state_t` that the callbacks of a crossing write. -/
structure TrainUi where
  signal : TrainSignal
  crossings : Fin 3 → CrossingDisplay
  activeFaults : Nat
  needsUpdate : Bool

def trainUiInit : TrainUi :=
  { signal := .proceed
    crossings := fun _ => ⟨.none, .none, .open, false, .none⟩
    activeFaults := 0
    needsUpdate := true }

def setCrossing (ui : TrainUi) (idx : Fin 3) (f : CrossingDisplay → CrossingDisplay) : TrainUi :=
  { ui with
    crossings := Function.update ui.crossings idx (f (ui.crossings idx))
    needsUpdate := true }

def trainUiSetTrackState (ui : TrainUi) (idx : Fin 3) : TrackDirection → TrackState → TrainUi
  | .up, state => setCrossing ui idx fun c => { c with trackUp := state }
  | .down, state => setCrossing ui idx fun c => { c with trackDown := state }

def trainUiSetGateState (ui : TrainUi) (idx : Fin 3) (state : GateState) : TrainUi :=
  setCrossing ui idx fun c => { c with boomGate := state }

def trainUiSetCrossingFault (ui : TrainUi) (idx : Fin 3) (fault : CrossingFault) : TrainUi :=
  setCrossing ui idx fun c => { c with fault }

def trainUiSetSignal (ui : TrainUi) (signal : TrainSignal) : TrainUi :=
  { ui with signal, needsUpdate := true }

def trainUiSetActiveFaults (ui : TrainUi) (count : Nat) : TrainUi :=
  { ui with activeFaults := count, needsUpdate := true }

/-- The row of a crossing, if its number has one. -/
def rowOf (cx : Crossing) : Option (Fin 3) :=
  if h : 1 ≤ cx.id.toNat ∧ cx.id.toNat - 1 < 3 then some ⟨cx.id.toNat - 1, h.2⟩ else none

def cxSetFlash (ui : TrainUi) (cx : Crossing) (on : Bool) : TrainUi :=
  match rowOf cx with
  | some idx => setCrossing ui idx fun c => { c with roadFlash := on }
  | none => ui

def faultCount (crossings : Fin 3 → Crossing) : Nat :=
  (List.finRange 3).countP fun i => (crossings i).fault ≠ .none

def crossingAnyFault (crossings : Fin 3 → Crossing) : Bool :=
  (List.finRange 3).any fun i => (crossings i).fault ≠ .none

/-- `cx_fault_alert` after the message is queued. -/
def cxFaultAlert (ui : TrainUi) (crossings : Fin 3 → Crossing) : TrainUi :=
  let ui := trainUiSetActiveFaults ui (faultCount crossings)
  trainUiSetSignal ui (if crossingAnyFault crossings then .stop else .proceed)

def uiFault : CxFault → CrossingFault
  | .gateCloseTimeout => .gateCloseTimeout
  | .gateOpenTimeout => .gateOpenTimeout
  | .none => .none
  | _ => .gateCloseTimeout

def cxStateChanged (ui : TrainUi) (crossings : Fin 3 → Crossing) (cx : Crossing) : TrainUi :=
  match rowOf cx with
  | some idx =>
      let ui := trainUiSetTrackState ui idx .up (cx.track .up)
      let ui := trainUiSetTrackState ui idx .down (cx.track .down)
      let ui := trainUiSetGateState ui idx cx.gate
      let ui := trainUiSetCrossingFault ui idx (uiFault cx.fault)
      let ui := trainUiSetActiveFaults ui (faultCount crossings)
      trainUiSetSignal ui (if faultCount crossings > 0 then .stop else .proceed)
  | none => ui

/-- A callback of the crossing with index `i`, whose fields are those at the call. -/
def callback (crossings : Fin 3 → Crossing) (i : Fin 3) (ui : TrainUi) (call : CxCall) :
    TrainUi :=
  match call.op with
  | .setFlash on => cxSetFlash ui call.cx on
  | .faultAlert _ => cxFaultAlert ui (Function.update crossings i call.cx)
  | .stateChanged => cxStateChanged ui (Function.update crossings i call.cx) call.cx
  | _ => ui

structure TrainController where
  crossings : Fin 3 → Crossing
  ui : TrainUi

/-- The crossings that `main` sets up. -/
def trainStart : TrainController :=
  { crossings := fun i =>
      [crossingInit 1 "P1" 1 2, crossingInit 2 "P2" 3 4, crossingInit 3 "P3" 5 6].get i
    ui := trainUiInit }

/-- One call of `crossing_handle_event`. -/
def handleEvent (s : TrainController) (e : Fin 3 × CrossingEvent) : TrainController :=
  let h := crossingHandleEvent (s.crossings e.1) e.2
  { crossings := Function.update s.crossings e.1 h.cx
    ui := h.calls.foldl (callback s.crossings e.1) s.ui }

/-- The display and the signal show the crossings as they are. -/
structure Shown (s : TrainController) : Prop where
  trackUp : ∀ i, (s.ui.crossings i).trackUp = (s.crossings i).track .up
  trackDown : ∀ i, (s.ui.crossings i).trackDown = (s.crossings i).track .down
  gate : ∀ i, (s.ui.crossings i).boomGate = (s.crossings i).gate
  fault : ∀ i, (s.ui.crossings i).fault ≠ .none ↔ (s.crossings i).fault ≠ .none
  flash : ∀ i, (s.ui.crossings i).roadFlash = (s.crossings i).flashOn
  activeFaults : s.ui.activeFaults =
    (Finset.univ.filter fun i => (s.crossings i).fault ≠ .none).card
  signal : s.ui.signal = .stop ↔ ∃ i, (s.crossings i).fault ≠ .none

/-- What is shown of a crossing. -/
def displayOf (cx : Crossing) : CrossingDisplay :=
  ⟨cx.track .up, cx.track .down, cx.gate, cx.flashOn, uiFault cx.fault⟩

/-- The last callback is a notification of the crossing that is returned. -/
def Notified (h : Handling) : Prop :=
  ∃ before, h.calls = before ++ [⟨.stateChanged, h.cx⟩]

theorem notified_call (h : Handling) : Notified (h.call .stateChanged) := ⟨h.calls, rfl⟩

theorem notified_startGateClose {h : Handling} (hgate : h.cx.gate = .open ∨ h.cx.gate = .opening) :
    Notified (startGateClose h) := by
  unfold startGateClose
  rw [if_pos hgate]
  exact notified_call _

theorem startGateClose_eq_self {h : Handling}
    (hgate : ¬ (h.cx.gate = .open ∨ h.cx.gate = .opening)) : startGateClose h = h :=
  if_neg hgate

theorem notified_startGateOpen {h : Handling}
    (hgate : h.cx.gate = .closed ∨ h.cx.gate = .closing) : Notified (startGateOpen h) := by
  unfold startGateOpen
  rw [if_pos hgate]
  exact notified_call _

theorem notified_or_unchanged (cx : Crossing) (event : CrossingEvent) :
    Notified (crossingHandleEvent cx event) ∨
      (crossingHandleEvent cx event).calls = [] ∧
        displayOf (crossingHandleEvent cx event).cx = displayOf cx ∧
          (crossingHandleEvent cx event).cx.fault = cx.fault := by
  unfold crossingHandleEvent
  dsimp only
  split
  · exact .inr ⟨rfl, rfl, rfl⟩
  · cases event with
    | trainApproach dir =>
        dsimp only
        unfold handleTrainApproach
        split
        · exact .inl (notified_call _)
        · exact .inr ⟨rfl, rfl, rfl⟩
    | trainEnter dir =>
        dsimp only
        unfold handleTrainEnter
        split
        · split
          · exact .inl (notified_call _)
          · exact .inl (notified_call _)
        · exact .inr ⟨rfl, rfl, rfl⟩
    | trainExit dir =>
        dsimp only
        unfold handleTrainExit
        split
        · exact .inl (notified_call _)
        · exact .inr ⟨rfl, rfl, rfl⟩
    | gateClosed =>
        dsimp only
        unfold handleGateClosed
        split
        · dsimp only
          split
          · exact .inl (notified_startGateOpen (.inl rfl))
          · exact .inl (notified_call _)
        · exact .inr ⟨rfl, rfl, rfl⟩
    | gateOpened =>
        dsimp only
        unfold handleGateOpened
        split
        · dsimp only
          split
          · exact .inl (notified_startGateClose (.inl rfl))
          · exact .inl (notified_call _)
        · exact .inr ⟨rfl, rfl, rfl⟩
    | timer timerId timerGen =>
        dsimp only
        unfold handleTimer
        split
        · exact .inr ⟨rfl, rfl, rfl⟩
        · cases timerId with
          | gateCloseDelay =>
              by_cases hgate : cx.gate = .open ∨ cx.gate = .opening
              · exact .inl (notified_startGateClose hgate)
              · right
                dsimp only
                rw [startGateClose_eq_self hgate]
                exact ⟨rfl, rfl, rfl⟩
          | gateCloseTimeout | gateOpenTimeout | trainTimeoutUp | trainTimeoutDown =>
              exact .inl (notified_call _)
    | injectFault => exact .inl (notified_call _)
    | resetFault =>
        dsimp only
        unfold handleResetFault
        split
        · exact .inl (notified_call _)
        · exact .inr ⟨rfl, rfl, rfl⟩

/-- The lights after a callback. -/
def flashAfter (on : Bool) : CxOp → Bool
  | .setFlash on' => on'
  | _ => on

@[simp] theorem foldl_flashOps (on flashOn : Bool) :
    (flashOps flashOn).foldl flashAfter on = (! flashOn || on) := by
  cases flashOn <;> rfl

@[simp] theorem foldl_faultOps (flashOn : Bool) (fault : CxFault) :
    (faultOps flashOn fault).foldl flashAfter flashOn = true := by
  cases flashOn <;> rfl

@[simp] theorem foldl_closeOps (on : Bool) (gate : GateState) :
    (closeOps gate).foldl flashAfter on = on := by
  unfold closeOps
  split <;> rfl

@[simp] theorem foldl_openOps (on : Bool) : openOps.foldl flashAfter on = on := rfl

theorem flashAfter_outcome {cx cx' : Crossing} {event : CrossingEvent} {os : List CxOp}
    (h : Outcome cx event cx' os) : os.foldl flashAfter cx.flashOn = cx'.flashOn := by
  cases h with
  | enterClosed | exitBusy | exitReleased | closedHeld | openedClear | reset => rfl
  | _ =>
      simp [flashAfter, approached, faulted, closeStarted, openStarted, closedGate, openedGate,
        released]

/-- The display of every crossing shows it as it is, numbers included. -/
structure Fresh (s : TrainController) : Prop where
  rows : ∀ i, rowOf (s.crossings i) = some i
  shown : ∀ i, s.ui.crossings i = displayOf (s.crossings i)
  count : s.ui.activeFaults = faultCount s.crossings
  signal : s.ui.signal = if faultCount s.crossings > 0 then .stop else .proceed

section Callbacks

variable {crossings : Fin 3 → Crossing} {i : Fin 3}

theorem callback_other {call : CxCall} (hrow : rowOf call.cx = some i) (ui : TrainUi) {j : Fin 3}
    (hj : j ≠ i) : (callback crossings i ui call).crossings j = ui.crossings j := by
  unfold callback
  split
  · simp [cxSetFlash, hrow, setCrossing, hj]
  · rfl
  · simp [cxStateChanged, hrow, trainUiSetTrackState, trainUiSetGateState,
      trainUiSetCrossingFault, trainUiSetActiveFaults, trainUiSetSignal, setCrossing, hj]
  · rfl

theorem callback_flash {call : CxCall} (hrow : rowOf call.cx = some i) (ui : TrainUi) :
    ((callback crossings i ui call).crossings i).roadFlash =
      flashAfter (ui.crossings i).roadFlash call.op := by
  unfold callback
  split
  · rename_i hop
    simp [cxSetFlash, hrow, setCrossing, hop, flashAfter]
  · rename_i hop
    rw [hop]
    rfl
  · rename_i hop
    simp [cxStateChanged, hrow, trainUiSetTrackState, trainUiSetGateState,
      trainUiSetCrossingFault, trainUiSetActiveFaults, trainUiSetSignal, setCrossing, hop,
      flashAfter]
  · rename_i hflash _ _
    unfold flashAfter
    split
    · exact absurd ‹_› (hflash _)
    · rfl

theorem callbacks_other {calls : List CxCall} (hrow : ∀ call ∈ calls, rowOf call.cx = some i)
    (ui : TrainUi) {j : Fin 3} (hj : j ≠ i) :
    (calls.foldl (callback crossings i) ui).crossings j = ui.crossings j := by
  induction calls generalizing ui with
  | nil => rfl
  | cons call calls ih =>
      obtain ⟨hcall, hcalls⟩ := List.forall_mem_cons.mp hrow
      rw [List.foldl_cons, ih hcalls, callback_other hcall ui hj]

theorem callbacks_flash {calls : List CxCall} (hrow : ∀ call ∈ calls, rowOf call.cx = some i)
    (ui : TrainUi) :
    ((calls.foldl (callback crossings i) ui).crossings i).roadFlash =
      (calls.map CxCall.op).foldl flashAfter (ui.crossings i).roadFlash := by
  induction calls generalizing ui with
  | nil => rfl
  | cons call calls ih =>
      obtain ⟨hcall, hcalls⟩ := List.forall_mem_cons.mp hrow
      rw [List.foldl_cons, ih hcalls, callback_flash hcall, List.map_cons, List.foldl_cons]

theorem cxStateChanged_row {cx : Crossing} (hrow : rowOf cx = some i) (ui : TrainUi)
    (crossings : Fin 3 → Crossing) :
    (cxStateChanged ui crossings cx).crossings i =
        { displayOf cx with roadFlash := (ui.crossings i).roadFlash } ∧
      (cxStateChanged ui crossings cx).activeFaults = faultCount crossings ∧
      (cxStateChanged ui crossings cx).signal =
        if faultCount crossings > 0 then .stop else .proceed := by
  unfold cxStateChanged
  rw [hrow]
  refine ⟨?_, rfl, rfl⟩
  simp [trainUiSetTrackState, trainUiSetGateState, trainUiSetCrossingFault,
    trainUiSetActiveFaults, trainUiSetSignal, setCrossing, displayOf]

end Callbacks

theorem rowOf_of_site {cx cx' : Crossing} (h : site cx' = site cx) : rowOf cx' = rowOf cx := by
  have hid : cx'.id = cx.id := congrArg Prod.fst h
  simp only [rowOf, hid]

theorem faultCount_update_self {crossings : Fin 3 → Crossing} {i : Fin 3} {cx : Crossing}
    (h : cx.fault = (crossings i).fault) :
    faultCount (Function.update crossings i cx) = faultCount crossings := by
  unfold faultCount
  congr 1
  funext j
  by_cases hj : j = i
  · subst hj
    rw [Function.update_self, h]
  · rw [Function.update_of_ne hj]

theorem fresh_handleEvent {s : TrainController} (h : Fresh s) (e : Fin 3 × CrossingEvent) :
    Fresh (handleEvent s e) := by
  obtain ⟨i, event⟩ := e
  obtain ⟨hsite, hcalls⟩ := onSite (s.crossings i) event
  have hrow : rowOf (crossingHandleEvent (s.crossings i) event).cx = some i :=
    (rowOf_of_site hsite).trans (h.rows i)
  have hrows : ∀ call ∈ (crossingHandleEvent (s.crossings i) event).calls,
      rowOf call.cx = some i := fun call hcall =>
    (rowOf_of_site (hcalls call hcall)).trans (h.rows i)
  have hkept : ∀ j, rowOf ((handleEvent s (i, event)).crossings j) = some j := by
    intro j
    by_cases hj : j = i
    · subst hj
      exact (congrArg rowOf (Function.update_self ..)).trans hrow
    · exact (congrArg rowOf (Function.update_of_ne hj ..)).trans (h.rows j)
  have hothers : ∀ j, j ≠ i → (handleEvent s (i, event)).ui.crossings j =
      displayOf ((handleEvent s (i, event)).crossings j) := by
    intro j hj
    have hcrossing : (handleEvent s (i, event)).crossings j = s.crossings j :=
      Function.update_of_ne hj ..
    rw [hcrossing, ← h.shown j]
    exact callbacks_other hrows s.ui hj
  have hflash : ((handleEvent s (i, event)).ui.crossings i).roadFlash =
      (crossingHandleEvent (s.crossings i) event).cx.flashOn := by
    refine (callbacks_flash hrows s.ui).trans ?_
    rw [h.shown i]
    exact flashAfter_outcome (outcome (s.crossings i) event)
  have hself : (handleEvent s (i, event)).crossings i =
      (crossingHandleEvent (s.crossings i) event).cx := Function.update_self ..
  rcases notified_or_unchanged (s.crossings i) event with ⟨before, hlast⟩ | ⟨hnone, hsame, hfault⟩
  · have hui : (handleEvent s (i, event)).ui =
        cxStateChanged (before.foldl (callback s.crossings i) s.ui)
          (handleEvent s (i, event)).crossings
          (crossingHandleEvent (s.crossings i) event).cx := by
      show List.foldl _ _ (crossingHandleEvent (s.crossings i) event).calls = _
      rw [hlast, List.foldl_append]
      rfl
    obtain ⟨hshown, hcount, hsignal⟩ := cxStateChanged_row hrow
      (before.foldl (callback s.crossings i) s.ui) (handleEvent s (i, event)).crossings
    rw [← hui] at hshown hcount hsignal
    refine ⟨hkept, fun j => ?_, hcount, hsignal⟩
    by_cases hj : j = i
    · subst hj
      have hlights : ((before.foldl (callback s.crossings j) s.ui).crossings j).roadFlash =
          (crossingHandleEvent (s.crossings j) event).cx.flashOn :=
        (congrArg CrossingDisplay.roadFlash hshown).symm.trans hflash
      rw [hself, hshown, hlights]
      rfl
    · exact hothers j hj
  · have hui : (handleEvent s (i, event)).ui = s.ui := by
      show List.foldl _ _ (crossingHandleEvent (s.crossings i) event).calls = _
      rw [hnone]
      rfl
    have hcounts : faultCount (handleEvent s (i, event)).crossings = faultCount s.crossings :=
      faultCount_update_self hfault
    refine ⟨hkept, fun j => ?_, ?_, ?_⟩
    · by_cases hj : j = i
      · subst hj
        rw [hself, hsame, hui]
        exact h.shown j
      · exact hothers j hj
    · rw [hui, hcounts]
      exact h.count
    · rw [hui, hcounts]
      exact h.signal

theorem fresh_trainStart : Fresh trainStart := by
  refine ⟨by decide, fun i => ?_, by decide, by decide⟩
  match i with
  | 0 => rfl
  | 1 => rfl
  | 2 => rfl

theorem uiFault_ne_none (fault : CxFault) : uiFault fault ≠ .none ↔ fault ≠ .none := by
  cases fault <;> decide

theorem faultCount_eq (crossings : Fin 3 → Crossing) :
    faultCount crossings =
      (Finset.univ.filter fun i => (crossings i).fault ≠ .none).card := by
  unfold faultCount
  rw [List.countP_eq_length_filter]
  rfl

theorem faultCount_pos_iff (crossings : Fin 3 → Crossing) :
    faultCount crossings > 0 ↔ ∃ i, (crossings i).fault ≠ .none := by
  unfold faultCount
  rw [gt_iff_lt, List.countP_pos_iff]
  simp

theorem Fresh.toShown {s : TrainController} (h : Fresh s) : Shown s where
  trackUp i := by rw [h.shown i]; rfl
  trackDown i := by rw [h.shown i]; rfl
  gate i := by rw [h.shown i]; rfl
  fault i := by rw [h.shown i]; exact uiFault_ne_none _
  flash i := by rw [h.shown i]; rfl
  activeFaults := h.count.trans (faultCount_eq _)
  signal := by
    rw [h.signal, ← faultCount_pos_iff]
    split
    · exact ⟨fun _ => ‹_›, fun _ => rfl⟩
    · exact ⟨nofun, fun hpos => absurd hpos ‹_›⟩

/-- After any events in any order the display, the count of faults and the signal agree
with the crossings. -/
theorem display_never_stale (events : List (Fin 3 × CrossingEvent)) :
    Shown (run handleEvent trainStart events) := by
  have hfresh : Fresh (run handleEvent trainStart events) :=
    run_invariant (I := Fresh) (fun _ e hs => fresh_handleEvent hs e) fresh_trainStart events
  exact hfresh.toShown

end TrafficLight.TrainDisplay
