import TrafficLight.LocalSafety

namespace TrafficLight.LocalCommands

open TrafficLight.Protocol
open TrafficLight.LocalData
open TrafficLight.LocalTraffic
open TrafficLight.LocalMessages
open TrafficLight.LocalCore
open TrafficLight.SignalMachine
open TrafficLight.SignalView
open TrafficLight.SignalRefinement

/-- The frame that `queue_railway_message` fills in. -/
def railwayFrame (type : UInt16) (intersectionId active : UInt8) (etaSeconds : UInt16) :
    TestMessage :=
  frameOf type controllerTrain controllerLocal
    (RailwayMsg.toBytes { intersectionId, active, etaSeconds })

/-- A frame of the Train controller about the crossing next to the Local. -/
def fromCrossing (s : LocalState) (msg : TestMessage) : Bool :=
  msg.header.dst = controllerLocal ∧ msg.header.src = controllerTrain ∧
    railwayMatchesLocal s (RailwayMsg.ofData msg.data).intersectionId

def acceptsPreempt (s : LocalState) (msg : TestMessage) : Bool :=
  fromCrossing s msg ∧ msg.header.type = msgRailwayPreempt ∧
    (RailwayMsg.ofData msg.data).active ≠ 0

def acceptsClear (s : LocalState) (msg : TestMessage) : Bool :=
  fromCrossing s msg ∧ msg.header.type = msgTrainClear

/-- A TRAIN_CLEAR that is accepted, or the console key for it. -/
def clears (s : LocalState) : LocalOp → Bool
  | .frame msg _ => acceptsClear s msg
  | .input command _ => command = ['c']
  | _ => false

/-- A new train, if none is near: a PREEMPT that is accepted, one of the
console keys or the simulated timetable. -/
def startsTrain (s : LocalState) : LocalOp → Bool
  | .frame msg _ => acceptsPreempt s msg
  | .input command _ => command = ['1'] ∨ command = ['2']
  | .timeOfDay => trainDue s
  | _ => false

/-- A frame for the coordination handler. -/
def coordinates : LocalOp → Bool
  | .frame msg _ => handlerOf msg = some .coordination
  | _ => false

/-- The console reset. -/
def resets : LocalOp → Bool
  | .input command _ => command = ['r']
  | _ => false

theorem acceptsPreempt_iff (s : LocalState) (msg : TestMessage) :
    acceptsPreempt s msg = true ↔
      (msg.header.dst = controllerLocal ∧ msg.header.src = controllerTrain ∧
        railwayMatchesLocal s (RailwayMsg.ofData msg.data).intersectionId = true) ∧
      msg.header.type = msgRailwayPreempt ∧ (RailwayMsg.ofData msg.data).active ≠ 0 := by
  simp only [acceptsPreempt, fromCrossing, decide_eq_true_eq]

theorem acceptsClear_iff (s : LocalState) (msg : TestMessage) :
    acceptsClear s msg = true ↔
      (msg.header.dst = controllerLocal ∧ msg.header.src = controllerTrain ∧
        railwayMatchesLocal s (RailwayMsg.ofData msg.data).intersectionId = true) ∧
      msg.header.type = msgTrainClear := by
  simp only [acceptsClear, fromCrossing, decide_eq_true_eq]

theorem not_preempt_of_clear {msg : TestMessage} (htype : msg.header.type = msgTrainClear) :
    ¬ (msg.header.type = msgRailwayPreempt ∧ (RailwayMsg.ofData msg.data).active ≠ 0) := by
  rintro ⟨hpreempt, -⟩
  exact absurd (htype.symm.trans hpreempt) (by decide)

theorem handlerOf_railway {msg : TestMessage} (hdst : msg.header.dst = controllerLocal)
    (hsrc : msg.header.src = controllerTrain)
    (htype : msg.header.type = msgRailwayPreempt ∨ msg.header.type = msgTrainClear) :
    handlerOf msg = some .railway := by
  unfold handlerOf
  rw [if_neg (not_not.mpr hdst)]
  simp only [handlers, MessageHandlerEntry.accepts, List.find?_cons, hsrc]
  rcases htype with h | h <;> rw [h] <;> rfl

theorem handlerOf_dst {msg : TestMessage} {handler : Handler}
    (h : handlerOf msg = some handler) : msg.header.dst = controllerLocal := by
  by_contra hdst
  unfold handlerOf at h
  rw [if_pos hdst] at h
  cases h

/-- What a frame can be for the signals, and what it is then as a frame. -/
inductive FrameEffect (s : LocalState) (msg : TestMessage) : SignalOp → Prop
  | preempt (h : acceptsPreempt s msg = true) :
      FrameEffect s msg (.preempt (RailwayMsg.ofData msg.data).etaSeconds.toNat)
  | clear (h : acceptsClear s msg = true) : FrameEffect s msg .clear
  | coordinate (h : handlerOf msg = some .coordination) (base : Direction) (offset : Int) :
      FrameEffect s msg (.coordinate base offset)
  | press (d : Direction) : FrameEffect s msg (.press d)
  | idle : FrameEffect s msg .idle

theorem frameEffect (s : LocalState) (msg : TestMessage) :
    FrameEffect s msg (frameSignalOp s msg) := by
  unfold frameSignalOp
  split
  case h_1 hhandler =>
    unfold railwaySignalOp
    dsimp only
    split_ifs with hroute hpreempt hclear
    · exact .preempt ((acceptsPreempt_iff s msg).mpr ⟨⟨handlerOf_dst hhandler, hroute⟩, hpreempt⟩)
    · exact .clear ((acceptsClear_iff s msg).mpr ⟨⟨handlerOf_dst hhandler, hroute⟩, hclear⟩)
    · exact .idle
    · exact .idle
  case h_2 hhandler =>
    unfold coordinationSignalOp
    dsimp only
    split
    · exact .coordinate hhandler _ _
    · exact .idle
  case h_3 =>
    unfold pedSignalOp
    dsimp only
    split
    · exact .press _
    · exact .idle
  case h_4 => exact .idle

theorem frameSignalOp_preempt {s : LocalState} {msg : TestMessage}
    (h : acceptsPreempt s msg = true) :
    frameSignalOp s msg = .preempt (RailwayMsg.ofData msg.data).etaSeconds.toNat := by
  obtain ⟨⟨hdst, hsrc, hmatch⟩, htype, hactive⟩ := (acceptsPreempt_iff s msg).mp h
  unfold frameSignalOp
  rw [handlerOf_railway hdst hsrc (.inl htype)]
  dsimp only
  unfold railwaySignalOp
  dsimp only
  rw [if_pos ⟨hsrc, hmatch⟩, if_pos ⟨htype, hactive⟩]

theorem frameSignalOp_clear (s : LocalState) (msg : TestMessage) :
    frameSignalOp s msg = .clear ↔ acceptsClear s msg = true := by
  constructor
  · intro h
    have heffect := frameEffect s msg
    rw [h] at heffect
    cases heffect with
    | clear haccepts => exact haccepts
  · intro haccepts
    obtain ⟨⟨hdst, hsrc, hmatch⟩, htype⟩ := (acceptsClear_iff s msg).mp haccepts
    unfold frameSignalOp
    rw [handlerOf_railway hdst hsrc (.inr htype)]
    dsimp only
    unfold railwaySignalOp
    dsimp only
    rw [if_pos ⟨hsrc, hmatch⟩, if_neg (not_preempt_of_clear htype), if_pos htype]

theorem acceptsPreempt_of_signalOp {s : LocalState} {msg : TestMessage}
    (h : frameSignalOp s msg = .demoTrain ∨ ∃ eta, frameSignalOp s msg = .preempt eta) :
    acceptsPreempt s msg = true := by
  have heffect := frameEffect s msg
  rcases h with hdemo | ⟨eta, hpreempt⟩
  · rw [hdemo] at heffect
    cases heffect
  · rw [hpreempt] at heffect
    cases heffect with
    | preempt haccepts => exact haccepts

theorem localStep_clear {s : LocalState} {msg : TestMessage} (h : acceptsClear s msg = true)
    (draws : Draws) : localStep s (.frame msg draws) = clearTrainLocked s := by
  obtain ⟨⟨hdst, hsrc, hmatch⟩, htype⟩ := (acceptsClear_iff s msg).mp h
  unfold localStep
  dsimp only
  rw [dispatch_eq, handlerOf_railway hdst hsrc (.inr htype)]
  dsimp only [Handler.run]
  unfold handleRailwayMessage
  dsimp only
  rw [if_pos ⟨hsrc, hmatch⟩, if_neg (not_preempt_of_clear htype), if_pos htype]

theorem frameSignalOp_ne_reset (s : LocalState) (msg : TestMessage) :
    frameSignalOp s msg ≠ .reset := by
  intro h
  have heffect := frameEffect s msg
  rw [h] at heffect
  cases heffect

theorem validInput_iff (command : List Char) :
    validInput command = true ↔ ∃ key, command = [key] ∧
      (key ∈ ['m', 'n', 'e', 'x', 'z', '1', '2', 'c', 'r'] ∨ key ∈ ['p', 'o', 'l']) := by
  rcases command with - | ⟨key, - | ⟨key', rest⟩⟩ <;> simp [validInput]

theorem inputSignalOp_iff {s : LocalState} {command : List Char} {draws : Draws} {key : Char}
    {op : SignalOp} (hkey : ∀ key', keySignalOp key' = op ↔ key' = key) (hop : op ≠ .idle)
    (hvalid : validInput [key] = true) :
    signalOp s (.input command draws) = op ↔ command = [key] := by
  unfold signalOp
  dsimp only
  constructor
  · intro h
    split at h
    · rename_i hcommand
      obtain ⟨key', rfl, -⟩ := (validInput_iff command).mp hcommand
      rw [(hkey key').mp h]
    · exact absurd h.symm hop
  · rintro rfl
    rw [if_pos hvalid]
    exact (hkey key).mpr rfl

theorem keySignalOp_clear (key : Char) : keySignalOp key = .clear ↔ key = 'c' := by
  constructor
  · intro h
    unfold keySignalOp at h
    split at h <;> first | rfl | exact SignalOp.noConfusion h
  · rintro rfl
    rfl

theorem keySignalOp_reset (key : Char) : keySignalOp key = .reset ↔ key = 'r' := by
  constructor
  · intro h
    unfold keySignalOp at h
    split at h <;> first | rfl | exact SignalOp.noConfusion h
  · rintro rfl
    rfl

theorem signalOp_clear (s : LocalState) (op : LocalOp) :
    signalOp s op = .clear ↔ clears s op = true := by
  cases op with
  | linkTimeout | temporaryMode | trafficTick | vehicleCounts | markDirty | links =>
      exact ⟨fun h => SignalOp.noConfusion h, fun h => Bool.noConfusion h⟩
  | timeOfDay =>
      unfold signalOp clears
      dsimp only
      split <;> simp
  | frame msg draws => exact frameSignalOp_clear s msg
  | input command draws =>
      rw [inputSignalOp_iff keySignalOp_clear (by simp) rfl]
      simp [clears]

theorem signalOp_reset (s : LocalState) (op : LocalOp) :
    signalOp s op = .reset ↔ resets op = true := by
  cases op with
  | linkTimeout | temporaryMode | trafficTick | vehicleCounts | markDirty | links =>
      exact ⟨fun h => SignalOp.noConfusion h, fun h => Bool.noConfusion h⟩
  | timeOfDay =>
      unfold signalOp resets
      dsimp only
      split <;> simp
  | frame msg draws =>
      exact ⟨fun h => absurd h (frameSignalOp_ne_reset s msg), fun h => Bool.noConfusion h⟩
  | input command draws =>
      rw [inputSignalOp_iff keySignalOp_reset (by simp) rfl]
      simp [resets]

theorem noClear {s : LocalState} {op : LocalOp} (h : clears s op = false) :
    signalOp s op ≠ .clear := by
  intro heq
  rw [signalOp_clear, h] at heq
  exact Bool.noConfusion heq

theorem noReset {s : LocalState} {op : LocalOp} (h : resets op = false) :
    signalOp s op ≠ .reset := by
  intro heq
  rw [signalOp_reset, h] at heq
  exact Bool.noConfusion heq

theorem startsTrain_of_signalOp {s : LocalState} {op : LocalOp}
    (h : signalOp s op = .demoTrain ∨ ∃ eta, signalOp s op = .preempt eta) :
    startsTrain s op = true := by
  cases op with
  | linkTimeout | temporaryMode | trafficTick | vehicleCounts | markDirty | links =>
      simp [signalOp] at h
  | timeOfDay =>
      unfold signalOp at h
      dsimp only at h
      unfold startsTrain
      dsimp only
      split at h
      · assumption
      · simp at h
  | frame msg draws => exact acceptsPreempt_of_signalOp h
  | input command draws =>
      unfold signalOp at h
      dsimp only at h
      split at h
      · rename_i hvalid
        obtain ⟨key, rfl, -⟩ := (validInput_iff command).mp hvalid
        unfold keySignalOp at h
        dsimp only [List.headD] at h
        split at h <;> simp_all [startsTrain]
      · simp at h

theorem coordinates_of_signalOp {s : LocalState} {op : LocalOp} {base : Direction} {offset : Int}
    (h : signalOp s op = .coordinate base offset) : coordinates op = true := by
  cases op with
  | linkTimeout | temporaryMode | trafficTick | vehicleCounts | markDirty | links =>
      cases h
  | timeOfDay =>
      unfold signalOp at h
      dsimp only at h
      split at h <;> cases h
  | frame msg draws =>
      have hop : frameSignalOp s msg = .coordinate base offset := h
      have heffect := frameEffect s msg
      rw [hop] at heffect
      cases heffect with
      | coordinate hhandler => exact decide_eq_true hhandler
  | input command draws =>
      unfold signalOp keySignalOp at h
      dsimp only at h
      split at h
      · split at h <;> cases h
      · cases h

end TrafficLight.LocalCommands
