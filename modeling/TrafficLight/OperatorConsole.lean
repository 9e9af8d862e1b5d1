import TrafficLight.DisplayLink
import TrafficLight.LineEditor
import TrafficLight.OperatorCommands

namespace TrafficLight.OperatorConsole

open TrafficLight.Runs
open TrafficLight.Protocol
open TrafficLight.Decimal
open TrafficLight.RailSimulator
open TrafficLight.SimCommands
open TrafficLight.TrainCommands
open TrafficLight.OperatorRequests
open TrafficLight.OperatorCommands
open TrafficLight.DisplayLink
open TrafficLight.LineEditor

inductive View
  | map
  | status
  | commands
  | faults
  | events
  | help
  | version
  | schedule
  deriving DecidableEq

/-- What is printed about a line that is not carried out. -/
inductive Complaint
  | resume
  | train
  | fault
  | delay
  | coordination
  | line
  deriving DecidableEq

/-- What a line asks for. -/
inductive Entry
  | blank
  | view (view : View)
  | watch
  | shutdown
  | resume (target : Option (Fin 6))
  | train (payload : Data)
  | delayed (delay : Nat) (message : TestMessage) (target : Option (Fin 6))
  | request (message : TestMessage) (target : Option (Fin 6))
  | rejected (complaint : Complaint)

def viewWord : View → List UInt8
  | .map => ascii ['m', 'a', 'p']
  | .status => ascii ['s', 't', 'a', 't', 'u', 's']
  | .commands => ascii ['c', 'o', 'm', 'm', 'a', 'n', 'd', 's']
  | .faults => ascii ['f', 'a', 'u', 'l', 't', 's']
  | .events => ascii ['e', 'v', 'e', 'n', 't', 's']
  | .help => ascii ['h', 'e', 'l', 'p']
  | .version => ascii ['v', 'e', 'r', 's', 'i', 'o', 'n']
  | .schedule => ascii ['s', 'c', 'h', 'e', 'd', 'u', 'l', 'e']

def views : List View := [.map, .status, .commands, .faults, .events, .help, .version, .schedule]

def watchWord : List UInt8 := ascii ['w', 'a', 't', 'c', 'h']
def quitWord : List UInt8 := ascii ['q', 'u', 'i', 't']
def shutdownWord : List UInt8 := ascii ['s', 'h', 'u', 't', 'd', 'o', 'w', 'n']

def resumePrefix : List UInt8 :=
  ascii ['s', 'c', 'h', 'e', 'd', 'u', 'l', 'e', '-', 'r', 'e', 's', 'u', 'm', 'e', ' ']

def revertPrefix : List UInt8 :=
  ascii ['m', 'o', 'd', 'e', '-', 'r', 'e', 'v', 'e', 'r', 't', ' ']

def trainPrefix : List UInt8 := ascii ['t', 'r', 'a', 'i', 'n', '-', 'c', 'm', 'd', ' ']

def delayPrefix : List UInt8 :=
  ascii ['c', 'o', 'o', 'r', 'd', 'i', 'n', 'a', 't', 'e', '-', 'a', 't', ' ']

def coordinatePrefix : List UInt8 :=
  ascii ['c', 'o', 'o', 'r', 'd', 'i', 'n', 'a', 't', 'e', ' ']

def faultSuffix : List UInt8 := ascii ['-', 'f', 'a', 'u', 'l', 't']

/-- `strstr` -/
def contains (text part : List UInt8) : Bool := text.tails.any fun tail => part.isPrefixOf tail

/-- The guard of `train-cmd` against fault injection. -/
def injectsFault (payload : Data) : Bool :=
  payload 0 = 112 && contains (payloadString payload) faultSuffix

/-- `schedule-resume`, which reads its target as `mode-revert` does. -/
def resumeEntry (scheduleEnabled : Bool) (rest : List UInt8) : Entry :=
  match centralParseCommand ((revertPrefix ++ rest).take 95) with
  | some (_, target) => if scheduleEnabled then .resume target else .rejected .resume
  | none => .rejected .resume

/-- `train-cmd` -/
def trainEntry (rest : List UInt8) : Entry :=
  match centralParseTrainCommand rest fun _ => 0 with
  | (true, payload) => if injectsFault payload then .rejected .fault else .train payload
  | (false, _) => .rejected .train

/-- `coordinate-at` -/
def delayEntry (rest : List UInt8) : Entry :=
  let digits := rest.takeWhile isDigit
  let delay := (readDigits 0 digits).toNat
  match rest.drop digits.length with
  | 32 :: arguments =>
      if digits = [] ∨ delay < 1 ∨ 3600 < delay then .rejected .delay
      else
        match centralParseCommand ((coordinatePrefix ++ arguments).take 255) with
        | some (message, target) => .delayed delay message target
        | none => .rejected .coordination
  | _ => .rejected .delay

/-- `execute_command` on a line without blanks around it. -/
def entryOf (scheduleEnabled : Bool) (line : List UInt8) : Entry :=
  if line = [] then .blank
  else
    match views.find? fun view => line = viewWord view with
    | some view => .view view
    | none =>
        if line = watchWord then .watch
        else if line = quitWord ∨ line = shutdownWord then .shutdown
        else if resumePrefix.isPrefixOf line then
          resumeEntry scheduleEnabled (line.drop resumePrefix.length)
        else if trainPrefix.isPrefixOf line then trainEntry (line.drop trainPrefix.length)
        else if delayPrefix.isPrefixOf line then delayEntry (line.drop delayPrefix.length)
        else
          match centralParseCommand line with
          | some (message, target) => .request message target
          | none => .rejected .line

/-- The message of a train command. -/
def trainMessage (payload : Data) : TestMessage :=
  { frameOf msgTest controllerCentral controllerTrain [] with data := payload }

/-- What is handed to `enqueue_command`. -/
def Entry.message : Entry → Option TestMessage
  | .train payload => some (trainMessage payload)
  | .delayed _ message _ => some message
  | .request message _ => some message
  | _ => none

theorem injectsFault_iff {op : TrainOperation} (h : op.Valid) :
    injectsFault (dataOfBytes op.text) = true ↔ ∃ i, op = .fault i := by
  obtain ⟨hlength, hnonzero, -, -⟩ := spelled h
  have hstring := payloadString_dataOfBytes hlength hnonzero
  unfold injectsFault
  rw [hstring]
  cases op with
  | line dir => cases dir <;> exact iff_of_false (by decide) (by simp)
  | both => exact iff_of_false (by decide) (by simp)
  | status => exact iff_of_false (by decide) (by simp)
  | fault i =>
      refine iff_of_true ?_ ⟨i, rfl⟩
      clear h hlength hnonzero hstring
      revert i
      decide
  | train i dir noExit =>
      refine iff_of_false ?_ (by simp)
      clear h hlength hnonzero hstring
      cases dir <;> cases noExit <;> revert i <;> decide
  | reset i =>
      refine iff_of_false ?_ (by simp)
      clear h hlength hnonzero hstring
      revert i
      decide
  | scale n => exact iff_of_false (by exact Bool.false_ne_true) (by simp)

theorem trainEntry_of_names {rest : List UInt8} {tokens : List (List UInt8)}
    {op : TrainOperation} (htokens : tokenize false rest = some tokens) (h : Names tokens op) :
    trainEntry rest =
      if injectsFault (dataOfBytes op.text) then .rejected .fault
      else .train (dataOfBytes op.text) := by
  have hparse : centralParseTrainCommand rest (fun _ => 0) = (true, dataOfBytes op.text) := by
    rw [centralParseTrainCommand, htokens, Option.bind_some, canonicalText_of_names h]
  rw [trainEntry, hparse]

theorem names_of_trainEntry {rest : List UInt8} {payload : Data}
    (h : trainEntry rest = .train payload) :
    ∃ tokens op, tokenize false rest = some tokens ∧ Names tokens op ∧ op.Valid ∧
      (∀ i, op ≠ .fault i) ∧ payload = dataOfBytes op.text := by
  cases hparse : (tokenize false rest).bind canonicalText with
  | none =>
      rw [trainEntry, centralParseTrainCommand, hparse] at h
      cases h
  | some text =>
      obtain ⟨tokens, htokens, htext⟩ := Option.bind_eq_some_iff.mp hparse
      obtain ⟨op, hnames, hvalid, rfl⟩ := names_of_canonicalText htext
      rw [trainEntry_of_names htokens hnames] at h
      split at h
      · cases h
      · rename_i hguard
        rw [injectsFault_iff hvalid] at hguard
        exact ⟨tokens, op, htokens, hnames, hvalid, fun i hop => hguard ⟨i, hop⟩,
          (Entry.train.inj h).symm⟩

theorem trainEntry_cases (rest : List UInt8) :
    (∃ payload, trainEntry rest = .train payload) ∨
      ∃ complaint, trainEntry rest = .rejected complaint := by
  unfold trainEntry
  split
  · split
    · exact .inr ⟨.fault, rfl⟩
    · exact .inl ⟨_, rfl⟩
  · exact .inr ⟨.train, rfl⟩

theorem toLocal_of_parse {line : List UInt8} {message : TestMessage} {target : Option (Fin 6)}
    (h : centralParseCommand line = some (message, target)) : ToLocal message := by
  obtain ⟨command, -, hprepared⟩ := denotes_of_parse h
  exact hprepared.toLocal

theorem message_cases {scheduleEnabled : Bool} {line : List UInt8} {message : TestMessage}
    (h : (entryOf scheduleEnabled line).message = some message) :
    ToLocal message ∨ ∃ rest payload, line = trainPrefix ++ rest ∧
      trainEntry rest = .train payload ∧ message = trainMessage payload := by
  unfold entryOf at h
  split at h
  · cases h
  split at h
  · cases h
  split at h
  · cases h
  split at h
  · cases h
  split at h
  · unfold resumeEntry at h
    split at h
    · split at h <;> cases h
    · cases h
  split at h
  · rename_i hprefix
    right
    obtain ⟨rest, rfl⟩ := List.isPrefixOf_iff_prefix.mp hprefix
    rw [List.drop_left] at h
    rcases trainEntry_cases rest with ⟨payload, hentry⟩ | ⟨complaint, hentry⟩
    · rw [hentry] at h
      exact ⟨rest, payload, rfl, hentry, (Option.some.inj h).symm⟩
    · rw [hentry] at h
      cases h
  split at h
  · left
    unfold delayEntry at h
    dsimp only at h
    split at h
    · split at h
      · cases h
      · split at h
        · rename_i hparse
          exact Option.some.inj h ▸ toLocal_of_parse hparse
        · cases h
    · cases h
  · split at h
    · rename_i hparse
      exact .inl (Option.some.inj h ▸ toLocal_of_parse hparse)
    · cases h

theorem entryOf_train (scheduleEnabled : Bool) (rest : List UInt8) :
    entryOf scheduleEnabled (trainPrefix ++ rest) = trainEntry rest := by
  have hhead : (trainPrefix ++ rest).head? = some 116 := rfl
  have hne : ∀ {word : List UInt8}, word.head? ≠ some 116 → trainPrefix ++ rest ≠ word := by
    intro word hword heq
    exact hword (heq ▸ hhead)
  have hview : (views.find? fun view => trainPrefix ++ rest = viewWord view) = none := by
    apply List.find?_eq_none.mpr
    intro view _
    rw [decide_eq_true_eq]
    cases view <;> exact hne (by decide)
  have hresume : resumePrefix.isPrefixOf (trainPrefix ++ rest) = false := rfl
  have htrain : trainPrefix.isPrefixOf (trainPrefix ++ rest) = true :=
    List.isPrefixOf_iff_prefix.mpr (List.prefix_append trainPrefix rest)
  unfold entryOf
  rw [if_neg (hne (by decide)), hview]
  dsimp only
  rw [if_neg (hne (by decide)), if_neg (not_or.mpr ⟨hne (by decide), hne (by decide)⟩), hresume,
    if_neg Bool.false_ne_true, if_pos htrain, List.drop_left]

/-- No line makes Central ask the Train for a fault. A request goes to the Locals, or asks
the Train for another operation that the line names and the Train carries out; and every
operation but a fault gets there. -/
theorem faults_stay_local (scheduleEnabled : Bool) :
    (∀ line message, (entryOf scheduleEnabled line).message = some message →
      message.header.dst = controllerLocal ∨
        ∃ rest tokens op, line = trainPrefix ++ rest ∧ tokenize false rest = some tokens ∧
          Names tokens op ∧ (∀ i, op ≠ .fault i) ∧ message = trainMessage (dataOfBytes op.text) ∧
          ∀ sim, Numbered sim →
            CarriedOut sim op (railSimCommand sim (payloadString message.data))) ∧
    ∀ rest tokens op, tokenize false rest = some tokens → Names tokens op →
      (∀ i, op ≠ .fault i) → (entryOf scheduleEnabled (trainPrefix ++ rest)).message =
        some (trainMessage (dataOfBytes op.text)) := by
  constructor
  · intro line message h
    rcases message_cases h with hlocal | ⟨rest, payload, hline, hentry, hmessage⟩
    · exact .inl hlocal.dst
    · obtain ⟨tokens, op, htokens, hnames, hvalid, hfault, rfl⟩ := names_of_trainEntry hentry
      refine .inr ⟨rest, tokens, op, hline, htokens, hnames, hfault, hmessage, ?_⟩
      intro sim hids
      obtain ⟨hlength, hnonzero, -, hrequest⟩ := spelled hvalid
      rw [hmessage]
      show CarriedOut sim op (railSimCommand sim (payloadString (dataOfBytes op.text)))
      rw [payloadString_dataOfBytes hlength hnonzero, railSimCommand, hrequest]
      exact carriedOut_request hids hvalid
  · intro rest tokens op htokens hnames hfault
    have hguard : ¬ injectsFault (dataOfBytes op.text) = true := by
      rw [injectsFault_iff (valid_of_names hnames)]
      exact fun hinjects => hinjects.elim hfault
    rw [entryOf_train, trainEntry_of_names htokens hnames, if_neg hguard]
    rfl

/-- The loop of `main` that reads the console, with what it has executed. -/
structure Console where
  watching : Bool
  shutdown : Bool
  executed : List Entry

def consoleStart : Console := ⟨false, false, []⟩

/-- What is executed of a line: its bytes up to the first NUL, without blanks around. -/
def commandText (line : Line UInt8) : List UInt8 := trimCommand (line.used.takeWhile (· ≠ 0))

/-- The end of a line. While the live view is on a line only ends it. -/
def consoleLine (scheduleEnabled : Bool) (s : Console) (line : Line UInt8) : Console :=
  if s.watching then { s with watching := false }
  else if line.overflow then s
  else
    let entry := entryOf scheduleEnabled (commandText line)
    { watching := match entry with
        | .watch => true
        | _ => false
      shutdown := match entry with
        | .shutdown => true
        | _ => false
      executed := s.executed ++ [entry] }

/-- The room in `line` next to its NUL. -/
def lineRoom : Nat := 255

def newline : UInt8 := 10

def consoleProgram (scheduleEnabled : Bool) : Program Console UInt8 where
  enter := consoleLine scheduleEnabled
  stopped := Console.shutdown

/-- One `read` of the loop. -/
def consoleRead (scheduleEnabled : Bool) (s : Console × Line UInt8) (chunk : List UInt8) :
    Console × Line UInt8 :=
  run ((consoleProgram scheduleEnabled).feed newline lineRoom) s chunk

/-- The entries among lines that are executed, from whether the live view is on. -/
def executedOf (scheduleEnabled : Bool) : Bool → List (Line UInt8) → List Entry
  | _, [] => []
  | true, _ :: lines => executedOf scheduleEnabled false lines
  | false, line :: lines =>
      if line.overflow then executedOf scheduleEnabled false lines
      else
        let entry := entryOf scheduleEnabled (commandText line)
        entry :: match entry with
          | .shutdown => []
          | .watch => executedOf scheduleEnabled true lines
          | _ => executedOf scheduleEnabled false lines

theorem run_consoleLine (scheduleEnabled : Bool) (lines : List (Line UInt8)) (watching : Bool)
    (executed : List Entry) :
    (run (consoleProgram scheduleEnabled).enterLine ⟨watching, false, executed⟩ lines).executed =
      executed ++ executedOf scheduleEnabled watching lines := by
  induction lines generalizing watching executed with
  | nil => exact (List.append_nil executed).symm
  | cons line lines ih =>
      rw [run_cons]
      cases watching with
      | true => exact ih false executed
      | false =>
          by_cases hoverflow : line.overflow = true
          · have hstep : (consoleProgram scheduleEnabled).enterLine ⟨false, false, executed⟩ line =
                ⟨false, false, executed⟩ := if_pos hoverflow
            rw [hstep, executedOf, if_pos hoverflow, ih]
          · have hstep : (consoleProgram scheduleEnabled).enterLine ⟨false, false, executed⟩ line =
                consoleLine scheduleEnabled ⟨false, false, executed⟩ line := rfl
            rw [hstep, consoleLine, if_neg Bool.false_ne_true, if_neg hoverflow, executedOf,
              if_neg hoverflow]
            dsimp only
            generalize entryOf scheduleEnabled (commandText line) = entry
            cases entry with
            | shutdown => exact congrArg Console.executed (run_enterLine_stopped _ rfl lines)
            | watch => exact (ih true _).trans (by rw [List.append_assoc, List.singleton_append])
            | _ => exact (ih false _).trans (by rw [List.append_assoc, List.singleton_append])

/-- In whatever pieces the input comes, Central executes its complete lines in order up to
the one that shuts it down, except for those that are too long or end a live view. -/
theorem console_executes_lines (scheduleEnabled : Bool) (chunks : List (List UInt8)) :
    (run (consoleRead scheduleEnabled) (consoleStart, Line.empty) chunks).1.executed =
      executedOf scheduleEnabled false (completeLines newline lineRoom chunks.flatten) := by
  have hlines := run_pieces newline lineRoom (consoleProgram scheduleEnabled) id id
    (fun (s : Console × Line UInt8) chunk => (rfl : consoleRead scheduleEnabled s chunk = _))
    (rfl : (consoleStart, Line.empty) = (consoleStart, Line.empty)) chunks
  rw [List.flatMap_id] at hlines
  exact (congrArg Console.executed hlines).trans
    (run_consoleLine scheduleEnabled _ false [])

end TrafficLight.OperatorConsole
