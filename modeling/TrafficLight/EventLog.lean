import TrafficLight.CommandQueue
import TrafficLight.HistoryRing
import TrafficLight.RingQueue
import TrafficLight.Runs

/-!
The events of Central, from `central_controller.c`: `event_locked` puts an event
on the board of the last eight and into the queue for the log, whose thread
writes one event after the other to the file. A full queue drops its oldest
event. The record of all events is not in the source.
-/

namespace TrafficLight.EventLog

open TrafficLight.Runs
open TrafficLight.RingQueue
open TrafficLight.HistoryRing

def eventQueueSize : Nat := 64
def eventTextSize : Nat := 192

/-- What a `char[EVENT_TEXT_SIZE]` holds before its terminating zero. -/
def Text : Type := { bytes : List UInt8 // bytes.length < eventTextSize }

/-- `snprintf` into a buffer of a size, which ends with a zero. -/
def snprintf (size : Nat) (formatted : List UInt8) : List UInt8 := formatted.take (size - 1)

theorem length_snprintf (size : Nat) (formatted : List UInt8) :
    (snprintf size formatted).length ≤ size - 1 :=
  List.length_take_le ..

/-- The text of an event: the time of day in brackets and the message, cut off where
the buffer ends. -/
def eventText (timestamp message : List UInt8) : Text :=
  let head := snprintf eventTextSize ([91] ++ timestamp ++ [93, 32])
  ⟨head ++ snprintf (eventTextSize - head.length) message, by
    have hhead : head.length ≤ 191 := length_snprintf ..
    have htail := length_snprintf (eventTextSize - head.length) message
    rw [List.length_append]
    show _ < 192
    have hsize : eventTextSize = 192 := rfl
    omega⟩

def emptyText : Text := ⟨[], by decide⟩

/-- Where `log_thread` stands: in its wait, in a write, or after its loop. -/
inductive Logger
  | waiting
  | writing (text : Text)
  | ended

/-- The part of `central_state_t` that the log uses, the thread and the lines of the
file, with every event so far, oldest first. -/
structure Log where
  events : Ring 64 Text
  dropped : UInt32
  recent : History 8 Text
  recentCount : Nat
  stopping : Bool
  failed : Bool
  logger : Logger
  file : List Text
  record : List Text

def logStart : Log :=
  { events := ⟨fun _ => emptyText, 0, 0⟩
    dropped := 0
    recent := History.blank emptyText
    recentCount := 0
    stopping := false
    failed := false
    logger := .waiting
    file := []
    record := [] }

/-- `event_locked` -/
def eventLocked (s : Log) (text : Text) : Log :=
  let s := { s with
    recent := s.recent.record text
    recentCount := if s.recentCount < 8 then s.recentCount + 1 else s.recentCount
    record := s.record ++ [text] }
  let s :=
    if s.events.count = eventQueueSize then
      { s with events := s.events.pop, dropped := s.dropped + 1 }
    else s
  { s with events := s.events.append text }

/-- `log_thread` up to the next place where it lets go of the lock or of the file. -/
def loggerTurn (s : Log) (written : Bool) : Log :=
  match s.logger with
  | .waiting =>
      if s.events.count = 0 then
        if s.stopping then { s with logger := .ended } else s
      else { s with logger := .writing (s.events.get 0), events := s.events.pop }
  | .writing text =>
      if written then { s with logger := .waiting, file := s.file ++ [text] }
      else { s with logger := .ended, failed := true }
  | .ended => s

/-- The events that `print_events` and the dashboard list. -/
def printEvents (s : Log) : List Text :=
  (List.range s.recentCount).map fun i =>
    s.recent.slots (Fin.ofNat 8 (s.recent.next + 8 - s.recentCount + i))

/-- An event of some thread, a turn of the logger, or the request to end. -/
inductive LogStep
  | event (timestamp message : List UInt8)
  | turn (written : Bool)
  | stop

def logStep (s : Log) : LogStep → Log
  | .event timestamp message => eventLocked s (eventText timestamp message)
  | .turn written => loggerTurn s written
  | .stop => { s with stopping := true }

/-- What the logger has taken out of the queue and not failed on. -/
def handed (s : Log) : List Text :=
  match s.logger with
  | .writing text => s.file ++ [text]
  | _ => s.file

variable {s : Log}

theorem eventLocked_of_lt (text : Text) (h : s.events.count < 64) :
    eventLocked s text =
      { s with
        recent := s.recent.record text
        recentCount := if s.recentCount < 8 then s.recentCount + 1 else s.recentCount
        record := s.record ++ [text]
        events := s.events.append text } := by
  have hne : s.events.count ≠ eventQueueSize := h.ne
  simp only [eventLocked, if_neg hne]

theorem eventLocked_of_full (text : Text) (h : s.events.count = 64) :
    eventLocked s text =
      { s with
        recent := s.recent.record text
        recentCount := if s.recentCount < 8 then s.recentCount + 1 else s.recentCount
        record := s.record ++ [text]
        events := s.events.pop.append text
        dropped := s.dropped + 1 } := by
  have heq : s.events.count = eventQueueSize := h
  simp only [eventLocked, if_pos heq]

theorem loggerTurn_cases (s : Log) (written : Bool) :
    loggerTurn s written = s ∨
      (s.logger = .waiting ∧ s.events.count = 0 ∧ s.stopping = true ∧
        loggerTurn s written = { s with logger := .ended }) ∨
      (s.logger = .waiting ∧ 0 < s.events.count ∧
        loggerTurn s written =
          { s with logger := .writing (s.events.get 0), events := s.events.pop }) ∨
      (∃ text, s.logger = .writing text ∧ written = true ∧
        loggerTurn s written = { s with logger := .waiting, file := s.file ++ [text] }) ∨
      (∃ text, s.logger = .writing text ∧ written = false ∧
        loggerTurn s written = { s with logger := .ended, failed := true }) := by
  cases hlogger : s.logger with
  | waiting =>
      by_cases hempty : s.events.count = 0
      · cases hstop : s.stopping with
        | false => exact Or.inl (by simp [loggerTurn, hlogger, hempty, hstop])
        | true => exact Or.inr (Or.inl (by simp [loggerTurn, hlogger, hempty, hstop]))
      · refine Or.inr (Or.inr (Or.inl ⟨rfl, Nat.pos_of_ne_zero hempty, ?_⟩))
        simp only [loggerTurn, hlogger, if_neg hempty]
  | writing text =>
      cases written with
      | true => exact Or.inr (Or.inr (Or.inr (Or.inl ⟨text, rfl, rfl, by
          simp [loggerTurn, hlogger]⟩)))
      | false => exact Or.inr (Or.inr (Or.inr (Or.inr ⟨text, rfl, rfl, by
          simp [loggerTurn, hlogger]⟩)))
  | ended => exact Or.inl (by simp [loggerTurn, hlogger])

/-- The board holds the last events and counts them up to eight. -/
structure Board (s : Log) : Prop where
  keeps : s.recent.Keeps emptyText s.record
  count : s.recentCount = min 8 s.record.length

theorem board_eventLocked (h : Board s) (text : Text) : Board (eventLocked s text) := by
  have hcount : (if s.recentCount < 8 then s.recentCount + 1 else s.recentCount) =
      min 8 (s.record ++ [text]).length := by
    rw [h.count, List.length_append, List.length_singleton]
    split <;> omega
  by_cases hfull : s.events.count = eventQueueSize
  · rw [eventLocked_of_full text hfull]
    exact ⟨h.keeps.record text, hcount⟩
  · simp only [eventLocked, if_neg hfull]
    exact ⟨h.keeps.record text, hcount⟩

theorem Board.frame {s' : Log} (h : Board s) (hrecent : s'.recent = s.recent)
    (hcount : s'.recentCount = s.recentCount) (hrecord : s'.record = s.record) : Board s' :=
  ⟨by rw [hrecent, hrecord]; exact h.keeps, by rw [hcount, hrecord]; exact h.count⟩

theorem board_loggerTurn (h : Board s) (written : Bool) : Board (loggerTurn s written) := by
  rcases loggerTurn_cases s written with heq | ⟨_, _, _, heq⟩ | ⟨_, _, heq⟩ | ⟨_, _, _, heq⟩ |
    ⟨_, _, _, heq⟩
  all_goals rw [heq]
  all_goals exact h.frame rfl rfl rfl

theorem board_step (h : Board s) (step : LogStep) : Board (logStep s step) := by
  cases step with
  | event timestamp message => exact board_eventLocked h _
  | turn written => exact board_loggerTurn h written
  | stop => exact h.frame rfl rfl rfl

theorem Board.printEvents_eq (h : Board s) :
    printEvents s = s.record.drop (s.record.length - 8) := by
  have hcount := h.count
  apply List.ext_getElem
  · rw [List.length_drop]
    show ((List.range s.recentCount).map _).length = _
    rw [List.length_map, List.length_range]
    omega
  · intro i hi hi'
    have hlt : i < s.recentCount := by simpa [printEvents] using hi
    rw [List.getElem_drop, ← h.keeps.held _ (by omega) (by omega)]
    simp only [printEvents, List.getElem_map, List.getElem_range]
    congr 1
    apply Fin.ext
    show (s.recent.next + 8 - s.recentCount + i) % 8 = (s.record.length - 8 + i) % 8
    rw [h.keeps.next]
    omega

/-- What the logger has taken stands in the record in front of what is queued. -/
structure Ordered (s : Log) : Prop where
  count : s.events.count ≤ 64
  failed : s.failed = true → s.logger = .ended
  order : ∃ passed, s.record = passed ++ s.events.view ∧ (handed s).Sublist passed
  lost : ∃ lost, s.dropped = UInt32.ofNat lost ∧
    s.record.length = (handed s).length + s.failed.toNat + s.events.count + lost

theorem view_pop_append (text : Text) (h : s.events.count = 64) :
    s.events.view = s.events.get 0 :: s.events.pop.view ∧
      (s.events.pop.append text).view = s.events.pop.view ++ [text] := by
  constructor
  · exact Ring.view_pop (by omega)
  · apply Ring.view_append
    show s.events.count - 1 < 64
    omega

theorem ordered_eventLocked (h : Ordered s) (text : Text) : Ordered (eventLocked s text) := by
  obtain ⟨hcount, hfailed, ⟨passed, hrecord, hsub⟩, ⟨lost, hdropped, hlength⟩⟩ := h
  by_cases hfull : s.events.count = 64
  · obtain ⟨hview, happend⟩ := view_pop_append text hfull
    rw [eventLocked_of_full text hfull]
    constructor
    · show s.events.count - 1 + 1 ≤ 64
      omega
    · exact hfailed
    · refine ⟨passed ++ [s.events.get 0], ?_, ?_⟩
      · show s.record ++ [text] = passed ++ [s.events.get 0] ++ (s.events.pop.append text).view
        rw [hrecord, hview, happend]
        simp
      · exact hsub.trans (List.sublist_append_left ..)
    · refine ⟨lost + 1, ?_, ?_⟩
      · show s.dropped + 1 = UInt32.ofNat (lost + 1)
        rw [hdropped, UInt32.ofNat_add]
        rfl
      · show (s.record ++ [text]).length =
          (handed s).length + s.failed.toNat + (s.events.count - 1 + 1) + (lost + 1)
        rw [List.length_append, List.length_singleton, hlength]
        omega
  · have hroom : s.events.count < 64 := by omega
    rw [eventLocked_of_lt text hroom]
    constructor
    · exact hroom
    · exact hfailed
    · refine ⟨passed, ?_, hsub⟩
      show s.record ++ [text] = passed ++ (s.events.append text).view
      rw [Ring.view_append text hroom, hrecord, List.append_assoc]
    · refine ⟨lost, hdropped, ?_⟩
      show (s.record ++ [text]).length =
        (handed s).length + s.failed.toNat + (s.events.count + 1) + lost
      rw [List.length_append, List.length_singleton, hlength]
      omega

theorem ordered_loggerTurn (h : Ordered s) (written : Bool) : Ordered (loggerTurn s written) := by
  have hkeep := h
  obtain ⟨hcount, hfailed, ⟨passed, hrecord, hsub⟩, ⟨lost, hdropped, hlength⟩⟩ := h
  rcases loggerTurn_cases s written with heq | ⟨hlogger, hempty, hstop, heq⟩ |
    ⟨hlogger, hpos, heq⟩ | ⟨text, hlogger, hwritten, heq⟩ | ⟨text, hlogger, hwritten, heq⟩
  · rw [heq]
    exact hkeep
  · have hhanded : handed { s with logger := .ended } = handed s := by
      simp only [handed, hlogger]
    rw [heq]
    refine ⟨hcount, fun _ => rfl, ⟨passed, hrecord, ?_⟩, ⟨lost, hdropped, ?_⟩⟩
    · rw [hhanded]
      exact hsub
    · rw [hhanded]
      exact hlength
  · have hhanded : handed s = s.file := by simp only [handed, hlogger]
    have hgood : s.failed = false := by
      cases hf : s.failed with
      | false => rfl
      | true => exact absurd (hlogger.symm.trans (hfailed hf)) Logger.noConfusion
    rw [heq]
    refine ⟨?_, ?_, ⟨passed ++ [s.events.get 0], ?_, ?_⟩, ⟨lost, hdropped, ?_⟩⟩
    · show s.events.count - 1 ≤ 64
      omega
    · show s.failed = true → _
      rw [hgood]
      exact fun hfalse => absurd hfalse Bool.false_ne_true
    · show s.record = passed ++ [s.events.get 0] ++ s.events.pop.view
      rw [hrecord, Ring.view_pop hpos, List.append_assoc]
      rfl
    · rw [hhanded] at hsub
      exact hsub.append (List.Sublist.refl _)
    · show s.record.length = (s.file ++ [s.events.get 0]).length + s.failed.toNat +
        (s.events.count - 1) + lost
      rw [List.length_append, List.length_singleton, hlength, hhanded]
      omega
  · have hhanded : handed s = s.file ++ [text] := by simp only [handed, hlogger]
    rw [hhanded] at hsub hlength
    have hgood : s.failed ≠ true := fun hf =>
      absurd (hlogger.symm.trans (hfailed hf)) Logger.noConfusion
    rw [heq]
    exact ⟨hcount, fun hf => absurd hf hgood, ⟨passed, hrecord, hsub⟩, ⟨lost, hdropped, hlength⟩⟩
  · have hhanded : handed s = s.file ++ [text] := by simp only [handed, hlogger]
    have hgood : s.failed = false := by
      cases hf : s.failed with
      | false => rfl
      | true => exact absurd (hlogger.symm.trans (hfailed hf)) Logger.noConfusion
    rw [hhanded] at hsub hlength
    rw [heq]
    refine ⟨hcount, fun _ => rfl, ⟨passed, hrecord, ?_⟩, ⟨lost, hdropped, ?_⟩⟩
    · exact (List.sublist_append_left ..).trans hsub
    · show s.record.length = s.file.length + 1 + s.events.count + lost
      rw [hlength, hgood, List.length_append, List.length_singleton]
      rfl

theorem ordered_step (h : Ordered s) (step : LogStep) : Ordered (logStep s step) := by
  cases step with
  | event timestamp message => exact ordered_eventLocked h _
  | turn written => exact ordered_loggerTurn h written
  | stop => exact ⟨h.count, h.failed, h.order, h.lost⟩

theorem ordered_start : Ordered logStart :=
  ⟨by decide, fun h => absurd h Bool.false_ne_true, ⟨[], rfl, List.Sublist.refl _⟩, ⟨0, rfl, rfl⟩⟩

theorem board_start : Board logStart := ⟨History.keeps_blank _, rfl⟩

/-- In every run the board lists the last eight events; the queue holds the last
events, the file holds events in front of them in their order, and every other event
was dropped and counted or is the one that the write failed on. -/
theorem event_log_accounts_for_everything (steps : List LogStep) :
    printEvents (run logStep logStart steps) =
        (run logStep logStart steps).record.drop
          ((run logStep logStart steps).record.length - 8) ∧
      (∃ passed, (run logStep logStart steps).record =
          passed ++ (run logStep logStart steps).events.view ∧
        (handed (run logStep logStart steps)).Sublist passed) ∧
      ∃ lost, (run logStep logStart steps).dropped = UInt32.ofNat lost ∧
        (run logStep logStart steps).record.length =
          (handed (run logStep logStart steps)).length +
            (run logStep logStart steps).failed.toNat +
            (run logStep logStart steps).events.count + lost := by
  have hboard : Board (run logStep logStart steps) :=
    run_invariant (I := Board) (fun _ step h => board_step h step) board_start steps
  have hordered : Ordered (run logStep logStart steps) :=
    run_invariant (I := Ordered) (fun _ step h => ordered_step h step) ordered_start steps
  exact ⟨hboard.printEvents_eq, hordered.order, hordered.lost⟩

/-- Until a write fails, what is missing from the file is older than the last
`eventQueueSize` events. -/
structure Newest (s : Log) : Prop where
  kept : ∃ saved newer old, handed s = saved ++ newer ∧ saved.Sublist old ∧
    s.record = old ++ newer ++ s.events.view ∧
    (saved = old ∨ old.length + 64 ≤ s.record.length)
  good : s.failed = false
  ended : s.logger = .ended → s.stopping = true ∧ s.events.count = 0

theorem newest_eventLocked (hordered : Ordered s) (h : Newest s) (hrunning : s.logger ≠ .ended)
    (text : Text) : Newest (eventLocked s text) := by
  obtain ⟨⟨saved, newer, old, hhanded, hsub, hrecord, hold⟩, hgood, _⟩ := h
  by_cases hfull : s.events.count = 64
  · obtain ⟨hview, happend⟩ := view_pop_append text hfull
    rw [eventLocked_of_full text hfull]
    refine ⟨⟨saved ++ newer, [], old ++ newer ++ [s.events.get 0], ?_, ?_, ?_, ?_⟩, hgood,
      fun hended => absurd hended hrunning⟩
    · rw [List.append_nil]
      exact hhanded
    · exact (hsub.append (List.Sublist.refl _)).trans (List.sublist_append_left ..)
    · show s.record ++ [text] =
        old ++ newer ++ [s.events.get 0] ++ [] ++ (s.events.pop.append text).view
      rw [hrecord, hview, happend]
      simp
    · refine Or.inr ?_
      have hlength := congrArg List.length hrecord
      simp only [List.length_append, Ring.length_view, hfull] at hlength
      show _ ≤ (s.record ++ [text]).length
      simp only [List.length_append, List.length_singleton]
      omega
  · have hroom : s.events.count < 64 := Nat.lt_of_le_of_ne hordered.count hfull
    rw [eventLocked_of_lt text hroom]
    refine ⟨⟨saved, newer, old, hhanded, hsub, ?_, ?_⟩, hgood,
      fun hended => absurd hended hrunning⟩
    · show s.record ++ [text] = old ++ newer ++ (s.events.append text).view
      rw [Ring.view_append text hroom, hrecord, List.append_assoc]
    · refine hold.imp_right fun hle => ?_
      show _ ≤ (s.record ++ [text]).length
      rw [List.length_append]
      omega

theorem newest_turn (h : Newest s) : Newest (loggerTurn s true) := by
  have hkeep := h
  obtain ⟨⟨saved, newer, old, hhanded, hsub, hrecord, hold⟩, hgood, hended⟩ := h
  rcases loggerTurn_cases s true with heq | ⟨hlogger, hempty, hstop, heq⟩ |
    ⟨hlogger, hpos, heq⟩ | ⟨text, hlogger, hwritten, heq⟩ | ⟨text, hlogger, hwritten, heq⟩
  · rw [heq]
    exact hkeep
  · simp only [handed, hlogger] at hhanded
    rw [heq]
    exact ⟨⟨saved, newer, old, hhanded, hsub, hrecord, hold⟩, hgood, fun _ => ⟨hstop, hempty⟩⟩
  · simp only [handed, hlogger] at hhanded
    rw [heq]
    refine ⟨⟨saved, newer ++ [s.events.get 0], old, ?_, hsub, ?_, hold⟩, hgood, Logger.noConfusion⟩
    · show s.file ++ [s.events.get 0] = _
      rw [hhanded, List.append_assoc]
    · show s.record = old ++ (newer ++ [s.events.get 0]) ++ s.events.pop.view
      rw [hrecord, Ring.view_pop hpos]
      simp
  · simp only [handed, hlogger] at hhanded
    rw [heq]
    exact ⟨⟨saved, newer, old, hhanded, hsub, hrecord, hold⟩, hgood, Logger.noConfusion⟩
  · exact absurd hwritten Bool.noConfusion

/-- A step before the end of `main`: an event, or a turn whose write succeeds. -/
def LogStep.ordinary : LogStep → Prop
  | .event _ _ => True
  | .turn written => written = true
  | .stop => False

/-- The log before the request to end. -/
structure Open (s : Log) : Prop where
  ordered : Ordered s
  newest : Newest s
  stopping : s.stopping = false

theorem Open.running (h : Open s) : s.logger ≠ .ended := by
  intro hended
  exact absurd (h.stopping.symm.trans (h.newest.ended hended).1) Bool.false_ne_true

theorem open_step (h : Open s) (step : LogStep) (hstep : step.ordinary) :
    Open (logStep s step) := by
  cases step with
  | event timestamp message =>
      refine ⟨ordered_eventLocked h.ordered _,
        newest_eventLocked h.ordered h.newest h.running _, ?_⟩
      show (eventLocked s (eventText timestamp message)).stopping = false
      by_cases hfull : s.events.count = eventQueueSize
      · rw [eventLocked_of_full _ hfull]
        exact h.stopping
      · simp only [eventLocked, if_neg hfull]
        exact h.stopping
  | turn written =>
      have hwritten : written = true := hstep
      subst hwritten
      refine ⟨ordered_loggerTurn h.ordered true, newest_turn h.newest, ?_⟩
      show (loggerTurn s true).stopping = false
      rcases loggerTurn_cases s true with heq | ⟨_, _, _, heq⟩ | ⟨_, _, heq⟩ | ⟨_, _, _, heq⟩ |
        ⟨_, _, _, heq⟩
      all_goals rw [heq]
      all_goals exact h.stopping
  | stop => exact hstep.elim

theorem open_start : Open logStart :=
  ⟨ordered_start, ⟨⟨[], [], [], rfl, List.Sublist.refl _, rfl, Or.inl rfl⟩, rfl,
    Logger.noConfusion⟩, rfl⟩

/-- How many turns the logger still needs. -/
def turnsLeft (s : Log) : Nat :=
  match s.logger with
  | .waiting => 2 * s.events.count + 1
  | .writing _ => 2 * s.events.count + 2
  | .ended => 0

theorem turnsLeft_turn (hstop : s.stopping = true) :
    (loggerTurn s true).stopping = true ∧ (loggerTurn s true).record = s.record ∧
      turnsLeft (loggerTurn s true) = turnsLeft s - 1 := by
  rcases loggerTurn_cases s true with heq | ⟨hlogger, hempty, _, heq⟩ |
    ⟨hlogger, hpos, heq⟩ | ⟨text, hlogger, _, heq⟩ | ⟨text, hlogger, hwritten, heq⟩
  · have hended : s.logger = .ended := by
      cases hlogger : s.logger with
      | waiting =>
          by_cases hempty : s.events.count = 0
          · simp only [loggerTurn, hlogger, if_pos hempty, hstop, if_true] at heq
            exact absurd ((congrArg Log.logger heq).trans hlogger) Logger.noConfusion
          · simp only [loggerTurn, hlogger, if_neg hempty] at heq
            exact absurd ((congrArg Log.logger heq).trans hlogger) Logger.noConfusion
      | writing text =>
          simp only [loggerTurn, hlogger, if_true] at heq
          exact absurd ((congrArg Log.logger heq).trans hlogger) Logger.noConfusion
      | ended => rfl
    rw [heq]
    refine ⟨hstop, rfl, ?_⟩
    simp only [turnsLeft, hended]
  · rw [heq]
    refine ⟨hstop, rfl, ?_⟩
    simp only [turnsLeft, hlogger, hempty]
  · rw [heq]
    refine ⟨hstop, rfl, ?_⟩
    simp only [turnsLeft, hlogger]
    show 2 * (s.events.count - 1) + 2 = _
    omega
  · rw [heq]
    refine ⟨hstop, rfl, ?_⟩
    simp only [turnsLeft, hlogger]
    omega
  · exact absurd hwritten Bool.noConfusion

theorem drained (h : Newest s) (hstop : s.stopping = true) (n : Nat) :
    let e := run logStep s (List.replicate n (.turn true))
    Newest e ∧ e.record = s.record ∧ turnsLeft e = turnsLeft s - n := by
  induction n generalizing s with
  | zero => exact ⟨h, rfl, rfl⟩
  | succ n ih =>
      obtain ⟨hstop', hrecord, hleft⟩ := turnsLeft_turn hstop
      obtain ⟨hnewest, hsame, hend⟩ := ih (newest_turn h) hstop'
      refine ⟨hnewest, hsame.trans hrecord, hend.trans ?_⟩
      rw [hleft]
      omega

theorem Newest.file (h : Newest s) (hended : s.logger = .ended) :
    s.file.Sublist s.record ∧ s.record.drop (s.record.length - eventQueueSize) <:+ s.file := by
  obtain ⟨saved, newer, old, hhanded, hsub, hall, hold⟩ := h.kept
  have hfile : s.file = saved ++ newer := by
    simpa only [handed, hended] using hhanded
  have hview : s.events.view = [] :=
    List.length_eq_zero_iff.mp ((Ring.length_view _).trans (h.ended hended).2)
  rw [hview, List.append_nil] at hall
  rw [hfile]
  constructor
  · rw [hall]
    exact hsub.append (List.Sublist.refl _)
  · rcases hold with heq | hle
    · rw [heq, ← hall]
      exact List.drop_suffix ..
    · have hskip : old.length ≤ s.record.length - eventQueueSize := by
        show _ ≤ _ - 64
        omega
      have hdrop : s.record.drop (s.record.length - eventQueueSize) <:+ newer := by
        rw [hall] at hskip ⊢
        rw [List.drop_append, List.drop_of_length_le hskip, List.nil_append]
        exact List.drop_suffix ..
      exact hdrop.trans (List.suffix_append ..)

theorem turnsLeft_le (hcount : s.events.count ≤ 64) :
    turnsLeft s ≤ 2 * eventQueueSize + 2 := by
  show turnsLeft s ≤ 2 * 64 + 2
  unfold turnsLeft
  split <;> omega

theorem ended_of_turnsLeft (h : turnsLeft s = 0) : s.logger = .ended := by
  cases hlogger : s.logger with
  | waiting =>
      simp only [turnsLeft, hlogger] at h
      omega
  | writing text =>
      simp only [turnsLeft, hlogger] at h
      omega
  | ended => rfl

/-- When every write succeeds and the threads that make events have ended before the
request to end, the logger ends, and the file then holds the events in order, among them
at least the last `eventQueueSize`. -/
theorem shutdown_saves_log (steps : List LogStep) (hsteps : ∀ step ∈ steps, step.ordinary)
    (n : Nat) (hn : 2 * eventQueueSize + 2 ≤ n) :
    let s := run logStep logStart steps
    let e := run logStep s (.stop :: List.replicate n (.turn true))
    e.logger = .ended ∧ e.failed = false ∧ e.record = s.record ∧ e.file.Sublist s.record ∧
      s.record.drop (s.record.length - eventQueueSize) <:+ e.file := by
  have halong := (along_forall logStep LogStep.ordinary logStart steps).mpr hsteps
  have hopen : Open (run logStep logStart steps) :=
    halong.invariant (I := Open) (fun _ step h hstep => open_step h step hstep) open_start
  generalize run logStep logStart steps = s at hopen
  have hstopped : Newest { s with stopping := true } :=
    ⟨hopen.newest.kept, hopen.newest.good, fun hended => absurd hended hopen.running⟩
  obtain ⟨hnewest, hrecord, hleft⟩ := drained hstopped rfl n
  have hbound := turnsLeft_le (s := { s with stopping := true }) hopen.ordered.count
  have hended := ended_of_turnsLeft (hleft.trans (Nat.sub_eq_zero_of_le (hbound.trans hn)))
  obtain ⟨hsub, hsuffix⟩ := hnewest.file hended
  rw [hrecord] at hsub hsuffix
  exact ⟨hended, hnewest.good, hrecord, hsub, hsuffix⟩

/-- An event that has been written, one that waits, and the end of `main`. -/
theorem shutdown_saves_log_two :
    let steps := [.event [49] [65], .turn true, .turn true, .event [50] [66]]
    let s := run logStep logStart steps
    let e := run logStep s (.stop :: List.replicate 130 (.turn true))
    e.logger = .ended ∧ e.failed = false ∧ e.record = s.record ∧ e.file.Sublist s.record ∧
      s.record.drop (s.record.length - eventQueueSize) <:+ e.file :=
  shutdown_saves_log [.event [49] [65], .turn true, .turn true, .event [50] [66]]
    (by simp [LogStep.ordinary]) 130 (by decide)

end TrafficLight.EventLog
