import TrafficLight.HistoryRing
import TrafficLight.StatusSequence

/-!
The status history of the Local core, from `local_core.c`: after every turn of
its loop the core records the status, unless the newest record has the same
sequence number.
-/

namespace TrafficLight.StatusHistory

open TrafficLight.Runs
open TrafficLight.Protocol
open TrafficLight.Telemetry
open TrafficLight.LocalData
open TrafficLight.LocalCore
open TrafficLight.LocalReports
open TrafficLight.StatusSequence
open TrafficLight.HistoryRing

/-- `status_event_t`. The numbers count nanoseconds since the start of the node
and the records made; they stay far below the range of the code's type. -/
structure StatusEvent where
  id : Nat
  status : StatusMsg
  deriving DecidableEq

def noEvent : StatusEvent := ⟨0, StatusMsg.ofData fun _ => 0⟩

/-- The core with its history. `recorded` lists every record that was made, the
oldest first; the code does not keep it. -/
structure Core where
  state : LocalState
  history : History 64 StatusEvent
  eventId : Nat
  recorded : List StatusEvent

/-- `record_status`; the clock is read for the first record only. -/
def recordStatus (c : Core) (now : Nat) : Core :=
  let status := fillStatusLocked c.state
  if c.eventId ≠ 0 ∧ c.history.newest.status.statusSequence = status.statusSequence then c
  else
    let eventId := (if c.eventId = 0 then now else c.eventId) + 1
    { c with
      history := c.history.record ⟨eventId, status⟩
      eventId := eventId
      recorded := c.recorded ++ [⟨eventId, status⟩] }

/-- The core at the first turn of `run_core`. -/
def coreStart (intersectionId : UInt8) (draws : Draws) (now : Nat) : Core :=
  recordStatus ⟨localStateInit intersectionId draws, .blank noEvent, 0, []⟩ now

/-- A turn of the loop, with the reading of the clock. -/
def coreTurn (c : Core) (turn : CoreStep × Nat) : Core :=
  recordStatus { c with state := coreStep c.state turn.1 } turn.2

def CoreStarted (c : Core) : Prop :=
  ∃ intersectionId draws now, c = coreStart intersectionId draws now

/-- `next_status_event` -/
def nextStatusEvent (c : Core) (delivered : Nat) : StatusEvent :=
  if delivered ≠ 0 then
    leastAbove StatusEvent.id delivered c.history.newest
      ((List.finRange 64).map c.history.slots)
  else c.history.newest

/-- The newest record shows the state. -/
def Current (c : Core) : Prop :=
  c.eventId ≠ 0 ∧ c.history.newest.status = fillStatusLocked c.state

theorem recordStatus_current {c : Core} (now : Nat)
    (h : c.eventId ≠ 0 → c.history.newest.status = fillStatusLocked c.state ∨
      c.history.newest.status.statusSequence ≠ c.state.statusSequence) :
    Current (recordStatus c now) := by
  unfold recordStatus
  dsimp only
  split
  · rename_i hsame
    refine ⟨hsame.1, (h hsame.1).resolve_right ?_⟩
    exact not_not_intro hsame.2
  · constructor
    · exact Nat.succ_ne_zero _
    · exact congrArg StatusEvent.status (History.newest_record _ _)

theorem recordStatus_eq_self {c : Core} (now : Nat) (h : Current c) : recordStatus c now = c := by
  unfold recordStatus
  exact if_pos ⟨h.1, congrArg StatusMsg.statusSequence h.2⟩

theorem current_coreStart (intersectionId : UInt8) (draws : Draws) (now : Nat) :
    Current (coreStart intersectionId draws now) :=
  recordStatus_current now fun h => absurd rfl h

theorem Current.coreTurn {c : Core} (h : Current c) (turn : CoreStep × Nat) :
    Current (coreTurn c turn) := by
  apply recordStatus_current
  intro _
  show c.history.newest.status = fillStatusLocked (coreStep c.state turn.1) ∨
    c.history.newest.status.statusSequence ≠ (coreStep c.state turn.1).statusSequence
  rw [h.2]
  exact (coreStep_noticed c.state turn.1).imp Eq.symm Ne.symm

theorem current_of_reachable {c : Core} (h : Reachable CoreStarted coreTurn c) : Current c := by
  refine h.invariant ?_ fun c turn hc => hc.coreTurn turn
  rintro c ⟨intersectionId, draws, now, rfl⟩
  exact current_coreStart intersectionId draws now

/-- After every turn the newest record is the status of the state, field by
field. A turn that changes the status changes its sequence number, and one that
does not leaves the history as it was. -/
theorem history_current {c : Core} (h : Reachable CoreStarted coreTurn c) :
    c.history.newest.status = fillStatusLocked c.state ∧
      ∀ step now,
        (fillStatusLocked (coreStep c.state step) ≠ fillStatusLocked c.state →
          (coreStep c.state step).statusSequence ≠ c.state.statusSequence) ∧
        (fillStatusLocked (coreStep c.state step) = fillStatusLocked c.state →
          coreTurn c (step, now) = { c with state := coreStep c.state step }) := by
  have hcurrent := current_of_reachable h
  refine ⟨hcurrent.2, fun step now => ⟨?_, ?_⟩⟩
  · exact (coreStep_noticed c.state step).resolve_left
  · intro hsame
    exact recordStatus_eq_self now ⟨hcurrent.1, hcurrent.2.trans hsame.symm⟩

theorem history_current_tick :
    let c := coreTurn (coreStart 0 Draws.zero 5) (.tick false Draws.zero, 6)
    c.history.newest.status = fillStatusLocked c.state :=
  (history_current ⟨_, [(.tick false Draws.zero, 6)], ⟨0, Draws.zero, 5, rfl⟩, rfl⟩).1

end TrafficLight.StatusHistory
