import TrafficLight.DailySchedule

/-!
The schedule file, from `central_schedule_load`. The loop over its characters
reads the file line by line.
-/

namespace TrafficLight.ScheduleFile

open TrafficLight.Protocol
open TrafficLight.Decimal
open TrafficLight.SimCommands
open TrafficLight.TrainCommands
open TrafficLight.OperatorRequests
open TrafficLight.SchedulePolicy
open TrafficLight.DailySchedule

def centralScheduleMaxFileLines : Nat := 1024

def scheduleTarget (word : List UInt8) : Option Nat :=
  (parseTarget word).map fun target => (target.map Fin.val).getD intersectionAll.toNat

/-- The words of a row: a time of day, a mode and a target. -/
def parseRow : List (List UInt8) → Option ScheduleEntry
  | [timeText, modeText, targetText] => do
      let minuteOfDay ← parseSimulationTime timeText
      let mode ← parseMode modeText
      let target ← scheduleTarget targetText
      some ⟨minuteOfDay, target, mode⟩
  | _ => none

/-- `central_schedule_parse_line`: no result for -1, and no row for 0. -/
def centralScheduleParseLine (line : List UInt8) : Option (Option ScheduleEntry) :=
  match tokenize true line with
  | none => none
  | some [] => some none
  | some words => (parseRow words).map some

inductive LoadError
  | openFailed (reason : String)
  | tooManyLines (line : Nat)
  | readFailed (line : Nat)
  | nulByte (line : Nat)
  | lineTooLong (line : Nat)
  | invalidLine (line : Nat)
  | refusedRow (line : Nat)
  | closeFailed

def scheduleLine (line : Nat) (description : String) : String :=
  "Schedule line " ++ toString line ++ ": " ++ description

/-- What `load_error` prints. -/
def LoadError.text : LoadError → String
  | .openFailed reason => reason
  | .tooManyLines line => scheduleLine line "Too many physical lines"
  | .readFailed line => scheduleLine line "Read failed"
  | .nulByte line => scheduleLine line "NUL byte is not valid text"
  | .lineTooLong line => scheduleLine line "Line exceeds 255 bytes"
  | .invalidLine line => scheduleLine line "Expected HH:MM fixed|sensor I1..I6|all"
  | .refusedRow line => scheduleLine line "Conflicting time/target or more than 32 entries"
  | .closeFailed => "Closing schedule file failed"

structure Loading where
  parsed : List ScheduleEntry
  lineNumber : Nat
  line : List UInt8

/-- A line is complete. -/
def endLine (s : Loading) : Except LoadError Loading :=
  match centralScheduleParseLine s.line with
  | none => .error (.invalidLine s.lineNumber)
  | some none => .ok ⟨s.parsed, s.lineNumber + 1, []⟩
  | some (some entry) =>
      match centralScheduleAdd s.parsed entry with
      | none => .error (.refusedRow s.lineNumber)
      | some parsed => .ok ⟨parsed, s.lineNumber + 1, []⟩

def readCharacter (s : Loading) (c : UInt8) : Except LoadError Loading :=
  if s.lineNumber > centralScheduleMaxFileLines then .error (.tooManyLines s.lineNumber)
  else if c = 0 then .error (.nulByte s.lineNumber)
  else if c ≠ 10 then
    if s.line.length = policyLineSize - 1 then .error (.lineTooLong s.lineNumber)
    else .ok { s with line := s.line ++ [c] }
  else endLine s

def loadCharacters (readFailed : Bool) : List UInt8 → Loading →
    Except LoadError (List ScheduleEntry)
  | [], s =>
      if readFailed then .error (.readFailed s.lineNumber)
      else if s.line = [] then .ok s.parsed
      else (endLine s).map Loading.parsed
  | c :: text, s => readCharacter s c >>= loadCharacters readFailed text

/-- What `fgetc` and `fclose` make of an open file. -/
structure File where
  text : List UInt8
  readFailed : Bool
  closeFailed : Bool

structure Loaded where
  ok : Bool
  schedule : List ScheduleEntry
  error : String

/-- `central_schedule_load`, from what `fopen` returns or leaves in `errno`. -/
def centralScheduleLoad (file : Except String File) (schedule : List ScheduleEntry) : Loaded :=
  match file with
  | .error reason => ⟨false, schedule, (LoadError.openFailed reason).text⟩
  | .ok file =>
      match loadCharacters file.readFailed file.text ⟨[], 1, []⟩ with
      | .error error => ⟨false, schedule, error.text⟩
      | .ok parsed =>
          if file.closeFailed then ⟨false, schedule, LoadError.closeFailed.text⟩
          else ⟨true, parsed, ""⟩

/-- The lines of a text; the last one may lack its newline. -/
def physicalLines (text : List UInt8) : List (List UInt8) :=
  let pieces := text.splitOn 10
  if pieces.getLast? = some [] then pieces.dropLast else pieces

def Blank (line : List UInt8) : Prop := ∀ c ∈ line, isSpace c = true

def Comment (line : List UInt8) : Prop :=
  ∃ spaces text, line = spaces ++ 35 :: text ∧ Blank spaces

def LineRead (line : List UInt8) : Prop :=
  Blank line ∨ Comment line ∨ ∃ entry, centralScheduleParseLine line = some (some entry)

def rowOf (line : List UInt8) : Option ScheduleEntry := (centralScheduleParseLine line).join

/-- A text reads as the given schedule. -/
structure Readable (text : List UInt8) (schedule : List ScheduleEntry) : Prop where
  noNul : 0 ∉ text
  count : (physicalLines text).length ≤ centralScheduleMaxFileLines
  width : ∀ line ∈ physicalLines text, line.length ≤ 255
  lineByLine : ∀ line ∈ physicalLines text, LineRead line
  rows : ((physicalLines text).filterMap rowOf).foldlM centralScheduleAdd [] = some schedule

theorem physicalLines_nil : physicalLines [] = [] := by decide

theorem physicalLines_cons {line : List UInt8} (hline : 10 ∉ line) (text : List UInt8) :
    physicalLines (line ++ 10 :: text) = line :: physicalLines text := by
  unfold physicalLines
  rw [List.splitOn_append_cons_of_beq _ _ rfl, List.splitOn_eq_singleton hline]
  obtain ⟨piece, pieces, hpieces⟩ := List.exists_cons_of_ne_nil (List.splitOn_ne_nil 10 text)
  dsimp only
  rw [hpieces, List.singleton_append, List.getLast?_cons_cons, List.dropLast_cons_cons]
  split <;> rfl

theorem physicalLines_single {line : List UInt8} (hline : 10 ∉ line) (hne : line ≠ []) :
    physicalLines line = [line] := by
  unfold physicalLines
  rw [List.splitOn_eq_singleton hline]
  exact if_neg fun h => hne (Option.some.inj h)

theorem physicalLines_eq_cons {line : List UInt8} (hline : 10 ∉ line) (hne : line ≠ [])
    (text : List UInt8) : ∃ rest lines, physicalLines (line ++ text) = (line ++ rest) :: lines := by
  by_cases htext : 10 ∈ text
  · obtain ⟨rest, text, rfl, hrest⟩ := List.eq_append_cons_of_mem htext
    refine ⟨rest, physicalLines text, ?_⟩
    rw [← List.append_assoc]
    exact physicalLines_cons (by simp [hline, hrest]) text
  · exact ⟨text, [], physicalLines_single (by simp [hline, htext]) (by simp [hne])⟩

theorem physicalLines_ne_nil (line : List UInt8) (c : UInt8) (text : List UInt8) :
    physicalLines (line ++ c :: text) ≠ [] := by
  by_cases hline : 10 ∈ line ++ [c]
  · obtain ⟨piece, rest, hsplit, hpiece⟩ := List.eq_append_cons_of_mem hline
    rw [List.append_cons, hsplit, List.append_assoc, List.cons_append,
      physicalLines_cons hpiece]
    exact List.cons_ne_nil _ _
  · obtain ⟨rest, lines, hlines⟩ := physicalLines_eq_cons hline (by simp) text
    rw [List.append_cons, hlines]
    exact List.cons_ne_nil _ _

theorem dropWhile_isSpace_eq_nil {line : List UInt8} :
    line.dropWhile isSpace = [] ↔ Blank line :=
  List.dropWhile_eq_nil_iff

theorem comment_iff {line : List UInt8} :
    Comment line ↔ ∃ text, line.dropWhile isSpace = 35 :: text := by
  constructor
  · rintro ⟨spaces, text, rfl, hblank⟩
    refine ⟨text, ?_⟩
    rw [List.dropWhile_append_of_pos hblank]
    rfl
  · rintro ⟨text, htext⟩
    refine ⟨line.takeWhile isSpace, text, ?_, fun c hc => List.mem_takeWhile_imp hc⟩
    rw [← htext, List.takeWhile_append_dropWhile]

theorem atEnd_iff {line : List UInt8} :
    atEnd true (line.dropWhile isSpace) = true ↔ Blank line ∨ Comment line := by
  rw [← dropWhile_isSpace_eq_nil, comment_iff]
  cases line.dropWhile isSpace with
  | nil => simp [atEnd]
  | cons c text => simp [atEnd, startsComment]

theorem tokensUpTo_eq_nil_iff {slots : Nat} {line : List UInt8} :
    tokensUpTo true (slots + 1) line = some [] ↔ Blank line ∨ Comment line := by
  rw [← atEnd_iff]
  unfold tokensUpTo
  dsimp only
  split
  · rename_i hend
    exact ⟨fun _ => hend, fun _ => rfl⟩
  · rename_i hword
    refine ⟨fun h => ?_, fun h => absurd h hword⟩
    split at h
    · cases h
    · obtain ⟨words, _, hwords⟩ := Option.map_eq_some_iff.mp h
      cases hwords

theorem tokenize_of_line {line : List UInt8} (hnul : 0 ∉ line) (hwidth : line.length ≤ 255) :
    tokenize true line = tokensUpTo true 4 line := by
  have htext : line.takeWhile (· ≠ 0) = line := by
    apply List.takeWhile_eq_self_iff.mpr
    intro c hc
    exact decide_eq_true fun h : c = 0 => hnul (h ▸ hc)
  unfold tokenize
  rw [htext]
  exact if_neg (Nat.not_le.mpr (Nat.lt_succ_of_le hwidth))

theorem centralScheduleParseLine_blank_iff {line : List UInt8} (hnul : 0 ∉ line)
    (hwidth : line.length ≤ 255) :
    centralScheduleParseLine line = some none ↔ Blank line ∨ Comment line := by
  rw [← @tokensUpTo_eq_nil_iff 3, ← tokenize_of_line hnul hwidth]
  unfold centralScheduleParseLine
  split
  · rename_i htokens
    rw [htokens]
    exact ⟨nofun, nofun⟩
  · rename_i htokens
    rw [htokens]
    exact ⟨fun _ => rfl, fun _ => rfl⟩
  · rename_i words hne htokens
    rw [htokens]
    refine ⟨fun h => ?_, fun h => absurd (Option.some.inj h) hne⟩
    obtain ⟨_, _, hrow⟩ := Option.map_eq_some_iff.mp h
    cases hrow

/-- The lines from a given number on add their rows to those parsed before. -/
structure ReadsLines (lines : List (List UInt8)) (lineNumber : Nat)
    (parsed schedule : List ScheduleEntry) : Prop where
  count : lineNumber + lines.length ≤ centralScheduleMaxFileLines + 1
  width : ∀ line ∈ lines, line.length ≤ 255
  lineByLine : ∀ line ∈ lines, LineRead line
  rows : (lines.filterMap rowOf).foldlM centralScheduleAdd parsed = some schedule

theorem readsLines_cons {line : List UInt8} {lines : List (List UInt8)} {lineNumber : Nat}
    {parsed schedule : List ScheduleEntry} :
    ReadsLines (line :: lines) lineNumber parsed schedule ↔
      line.length ≤ 255 ∧ LineRead line ∧
        ∃ parsed', (rowOf line).toList.foldlM centralScheduleAdd parsed = some parsed' ∧
          ReadsLines lines (lineNumber + 1) parsed' schedule := by
  have hrows : (line :: lines).filterMap rowOf =
      (rowOf line).toList ++ lines.filterMap rowOf := by
    rw [List.filterMap_cons]
    cases rowOf line <;> rfl
  constructor
  · intro h
    have hfold := h.rows
    rw [hrows, List.foldlM_append] at hfold
    obtain ⟨parsed', hline, hlines⟩ := Option.bind_eq_some_iff.mp hfold
    have hcount := h.count
    rw [List.length_cons] at hcount
    exact ⟨h.width line List.mem_cons_self, h.lineByLine line List.mem_cons_self, parsed', hline,
      by omega, fun other hmem => h.width other (List.mem_cons_of_mem _ hmem),
      fun other hmem => h.lineByLine other (List.mem_cons_of_mem _ hmem), hlines⟩
  · rintro ⟨hwidth, hread, parsed', hline, h⟩
    have hcount := h.count
    refine ⟨by rw [List.length_cons]; omega, List.forall_mem_cons.mpr ⟨hwidth, h.width⟩,
      List.forall_mem_cons.mpr ⟨hread, h.lineByLine⟩, ?_⟩
    rw [hrows, List.foldlM_append]
    exact Option.bind_eq_some_iff.mpr ⟨parsed', hline, h.rows⟩

theorem endLine_eq_ok_iff {s s' : Loading} (hnul : 0 ∉ s.line) (hwidth : s.line.length ≤ 255) :
    endLine s = .ok s' ↔ LineRead s.line ∧
      ∃ parsed, (rowOf s.line).toList.foldlM centralScheduleAdd s.parsed = some parsed ∧
        s' = ⟨parsed, s.lineNumber + 1, []⟩ := by
  have hblank := centralScheduleParseLine_blank_iff hnul hwidth
  unfold endLine rowOf LineRead
  rw [← or_assoc, ← hblank]
  cases hline : centralScheduleParseLine s.line with
  | none =>
      refine ⟨nofun, ?_⟩
      rintro ⟨hread | ⟨_, hread⟩, _⟩ <;> cases hread
  | some row =>
      cases row with
      | none =>
          constructor
          · rintro ⟨⟩
            exact ⟨.inl rfl, s.parsed, rfl, rfl⟩
          · rintro ⟨_, parsed, ⟨⟩, rfl⟩
            rfl
      | some entry =>
          dsimp only [Option.join_some, Option.toList_some]
          rw [List.foldlM_cons]
          cases hadd : centralScheduleAdd s.parsed entry with
          | none =>
              refine ⟨nofun, ?_⟩
              rintro ⟨_, parsed, ⟨⟩, _⟩
          | some parsed =>
              constructor
              · rintro ⟨⟩
                exact ⟨.inr ⟨entry, rfl⟩, parsed, rfl, rfl⟩
              · rintro ⟨_, parsed', ⟨⟩, rfl⟩
                rfl

/-- The part of a line that the loop holds between two characters. -/
structure InLine (s : Loading) : Prop where
  newline : 10 ∉ s.line
  nul : 0 ∉ s.line
  width : s.line.length ≤ 255
  number : s.line ≠ [] → s.lineNumber ≤ centralScheduleMaxFileLines
  next : s.lineNumber ≤ centralScheduleMaxFileLines + 1

theorem inLine_next {parsed : List ScheduleEntry} {lineNumber : Nat}
    (h : lineNumber ≤ centralScheduleMaxFileLines) : InLine ⟨parsed, lineNumber + 1, []⟩ :=
  ⟨List.not_mem_nil, List.not_mem_nil, Nat.zero_le _, fun hne => absurd rfl hne,
    Nat.succ_le_succ h⟩

theorem loadCharacters_nil_iff {s : Loading} (h : InLine s) {schedule : List ScheduleEntry} :
    loadCharacters false [] s = .ok schedule ↔
      ReadsLines (physicalLines s.line) s.lineNumber s.parsed schedule := by
  unfold loadCharacters
  rw [if_neg Bool.false_ne_true]
  by_cases hempty : s.line = []
  · rw [if_pos hempty, hempty, physicalLines_nil]
    constructor
    · rintro ⟨⟩
      exact ⟨h.next, nofun, nofun, rfl⟩
    · intro hread
      obtain rfl := Option.some.inj hread.rows
      rfl
  · rw [if_neg hempty, physicalLines_single h.newline hempty, readsLines_cons]
    have hend := @endLine_eq_ok_iff s
    constructor
    · intro hok
      cases hnext : endLine s with
      | error error =>
          rw [hnext] at hok
          cases hok
      | ok s' =>
          rw [hnext] at hok
          obtain ⟨hread, parsed, hrow, rfl⟩ := (hend h.nul h.width).mp hnext
          obtain rfl := Except.ok.inj hok
          exact ⟨h.width, hread, _, hrow, Nat.succ_le_succ (h.number hempty), nofun, nofun, rfl⟩
    · rintro ⟨_, hread, parsed, hrow, hrest⟩
      obtain rfl := Option.some.inj hrest.rows
      rw [(hend h.nul h.width).mpr ⟨hread, parsed, hrow, rfl⟩]
      rfl

theorem loadCharacters_iff {text : List UInt8} {s : Loading} (h : InLine s)
    {schedule : List ScheduleEntry} :
    loadCharacters false text s = .ok schedule ↔
      0 ∉ text ∧ ReadsLines (physicalLines (s.line ++ text)) s.lineNumber s.parsed schedule := by
  -- the open line is put in front of the text, so that the induction sees whole lines
  induction text generalizing s with
  | nil =>
      rw [List.append_nil, loadCharacters_nil_iff h]
      exact ⟨fun hread => ⟨List.not_mem_nil, hread⟩, fun hread => hread.2⟩
  | cons c text ih =>
      unfold loadCharacters readCharacter
      by_cases hlate : s.lineNumber > centralScheduleMaxFileLines
      · rw [if_pos hlate]
        refine ⟨nofun, fun hread => ?_⟩
        have hcount := hread.2.count
        have hpos := List.length_pos_iff.mpr (physicalLines_ne_nil s.line c text)
        omega
      · rw [if_neg hlate]
        by_cases hzero : c = 0
        · rw [if_pos hzero]
          exact ⟨nofun, fun hread => absurd (hzero ▸ List.mem_cons_self) hread.1⟩
        · rw [if_neg hzero]
          have hnul : 0 ∉ c :: text ↔ 0 ∉ text := by
            rw [List.mem_cons, not_or]
            exact ⟨fun h => h.2, fun h => ⟨fun h' => hzero h'.symm, h⟩⟩
          rw [hnul]
          by_cases hnewline : c = 10
          · rw [if_neg (not_not.mpr hnewline), hnewline, physicalLines_cons h.newline,
              readsLines_cons]
            cases hnext : endLine s with
            | error error =>
                refine ⟨nofun, ?_⟩
                rintro ⟨_, _, hread, parsed, hrow, _⟩
                rw [(endLine_eq_ok_iff h.nul h.width).mpr ⟨hread, parsed, hrow, rfl⟩] at hnext
                cases hnext
            | ok s' =>
                obtain ⟨hread, parsed, hrow, rfl⟩ := (endLine_eq_ok_iff h.nul h.width).mp hnext
                refine (ih (inLine_next (Nat.not_lt.mp hlate))).trans ?_
                constructor
                · rintro ⟨hnul, hrest⟩
                  exact ⟨hnul, h.width, hread, parsed, hrow, hrest⟩
                · rintro ⟨hnul, _, _, parsed', hrow', hrest⟩
                  obtain rfl := Option.some.inj (hrow.symm.trans hrow')
                  exact ⟨hnul, hrest⟩
          · have hline : 10 ∉ s.line ++ [c] := by
              simp [h.newline, Ne.symm hnewline]
            rw [if_pos hnewline, List.append_cons s.line c text]
            by_cases hfull : s.line.length = policyLineSize - 1
            · rw [if_pos hfull]
              refine ⟨nofun, ?_⟩
              rintro ⟨_, hread⟩
              obtain ⟨rest, lines, hlines⟩ := physicalLines_eq_cons hline (by simp) text
              rw [hlines] at hread
              have hwidth := hread.width _ List.mem_cons_self
              rw [List.length_append, List.length_append, List.length_singleton] at hwidth
              unfold policyLineSize at hfull
              omega
            · rw [if_neg hfull]
              have hwidth : (s.line ++ [c]).length ≤ 255 := by
                have hle := h.width
                rw [List.length_append, List.length_singleton]
                unfold policyLineSize at hfull
                omega
              refine ih (s := { s with line := s.line ++ [c] }) ?_
              exact ⟨hline, by simp [h.nul, Ne.symm hzero], hwidth,
                fun _ => Nat.not_lt.mp hlate, h.next⟩

theorem readable_iff {text : List UInt8} {schedule : List ScheduleEntry} :
    loadCharacters false text ⟨[], 1, []⟩ = .ok schedule ↔ Readable text schedule := by
  rw [loadCharacters_iff (inLine_next (Nat.zero_le _)), List.nil_append]
  constructor
  · rintro ⟨hnul, h⟩
    have hcount : 1 + _ ≤ _ := h.count
    exact ⟨hnul, by omega, h.width, h.lineByLine, h.rows⟩
  · intro h
    have hcount := Nat.add_le_add_left h.count 1
    exact ⟨h.noNul, by rwa [Nat.add_comm centralScheduleMaxFileLines], h.width, h.lineByLine,
      h.rows⟩

/-- A file is loaded exactly when it reads line by line as a schedule, which then
replaces the caller's; otherwise the caller's stays. -/
theorem load_line_by_line (schedule : List ScheduleEntry) :
    (∀ (text : List UInt8) (result : List ScheduleEntry),
      (centralScheduleLoad (.ok ⟨text, false, false⟩) schedule).ok = true ∧
          (centralScheduleLoad (.ok ⟨text, false, false⟩) schedule).schedule = result ↔
        Readable text result) ∧
    ∀ file, (centralScheduleLoad file schedule).ok = false →
      (centralScheduleLoad file schedule).schedule = schedule := by
  constructor
  · intro text result
    rw [← readable_iff]
    unfold centralScheduleLoad
    dsimp only
    cases loadCharacters false text ⟨[], 1, []⟩ with
    | error error => exact ⟨nofun, nofun⟩
    | ok parsed =>
        constructor
        · rintro ⟨_, rfl⟩
          rfl
        · rintro ⟨⟩
          exact ⟨rfl, rfl⟩
  · intro file hfailed
    cases file with
    | error reason => rfl
    | ok file =>
        obtain ⟨text, readFailed, closeFailed⟩ := file
        unfold centralScheduleLoad at hfailed ⊢
        dsimp only at hfailed ⊢
        cases hload : loadCharacters readFailed text ⟨[], 1, []⟩ with
        | error error => rfl
        | ok parsed =>
            rw [hload] at hfailed
            cases closeFailed with
            | true => rfl
            | false => cases hfailed

/-- The lines `# daily` and `07:00 fixed all`, the last one without a newline. -/
def exampleText : List UInt8 :=
  ascii ['#', ' ', 'd', 'a', 'i', 'l', 'y', '\n', '0', '7', ':', '0', '0', ' ', 'f', 'i', 'x', 'e',
    'd', ' ', 'a', 'l', 'l']

theorem load_line_by_line_example :
    Readable exampleText [⟨420, 255, TrafficLightMode.fixed.toByte⟩] ∧
      (centralScheduleLoad (.error "No such file or directory") exampleRows).schedule =
        exampleRows :=
  ⟨((load_line_by_line []).1 exampleText _).mp ⟨rfl, rfl⟩,
    (load_line_by_line exampleRows).2 _ rfl⟩

end TrafficLight.ScheduleFile
