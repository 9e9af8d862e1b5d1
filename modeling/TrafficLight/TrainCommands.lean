import TrafficLight.CommandAgreement
import TrafficLight.SimCommands

namespace TrafficLight.TrainCommands

open TrafficLight.Protocol
open TrafficLight.Decimal
open TrafficLight.Telemetry
open TrafficLight.CentralCommands
open TrafficLight.CommandAgreement
open TrafficLight.CrossingMachine
open TrafficLight.RailSimulator
open TrafficLight.SimCommands

def policyLineSize : Nat := 256

/-- `iscntrl` in the C locale. -/
def isControl (c : UInt8) : Bool := c < 32 ∨ c = 127

def startsComment (allowComment : Bool) (c : UInt8) : Bool := allowComment ∧ c = 35

/-- Nothing but a comment is left of a line. -/
def atEnd (allowComment : Bool) : List UInt8 → Bool
  | [] => true
  | c :: _ => startsComment allowComment c

/-- The words of a text, if there is room for them and none holds a control
character. -/
def tokensUpTo (allowComment : Bool) : Nat → List UInt8 → Option (List (List UInt8))
  | 0, text => if atEnd allowComment (text.dropWhile isSpace) then some [] else none
  | slots + 1, text =>
      let text := text.dropWhile isSpace
      if atEnd allowComment text then some []
      else
        let word := text.takeWhile fun c => ! isSpace c && ! startsComment allowComment c
        if word.any isControl then none
        else (tokensUpTo allowComment slots (text.drop word.length)).map (word :: ·)

/-- `tokenize` on the bytes up to the first NUL. -/
def tokenize (allowComment : Bool) (line : List UInt8) : Option (List (List UInt8)) :=
  let text := line.takeWhile (· ≠ 0)
  if text.length ≥ policyLineSize then none else tokensUpTo allowComment 4 text

def parseCrossing : List UInt8 → Option Nat
  | [p, c] => if (p = 80 ∨ p = 112) ∧ 49 ≤ c ∧ c ≤ 51 then some (c - 48).toNat else none
  | _ => none

def parseDirection (token : List UInt8) : Option (List UInt8) :=
  if token = ascii ['u', 'p'] ∨ token = ascii ['U', 'P'] then some (ascii ['u', 'p'])
  else if token = ascii ['d', 'o', 'w', 'n'] ∨ token = ascii ['D', 'O', 'W', 'N'] then
    some (ascii ['d', 'o', 'w', 'n'])
  else none

/-- `p#-fault` in either case of its first letter. -/
def faultCommand : List UInt8 → Option (List UInt8)
  | p :: c :: rest =>
      if (p = 112 ∨ p = 80) ∧ 49 ≤ c ∧ c ≤ 51 ∧
          rest = ascii ['-', 'f', 'a', 'u', 'l', 't'] then
        some (112 :: c :: ascii ['-', 'f', 'a', 'u', 'l', 't'])
      else none
  | _ => none

/-- The text that `central_parse_train_command` prints for the words of a line. -/
def canonicalText : List (List UInt8) → Option (List UInt8)
  | [word] =>
      if word = ascii ['t', 'r', 'a', 'i', 'n', '-', 'u', 'p'] ∨
          word = ascii ['t', 'r', 'a', 'i', 'n', '-', 'd', 'o', 'w', 'n'] ∨
          word = ascii ['t', 'r', 'a', 'i', 'n', '-', 'b', 'o', 't', 'h'] ∨
          word = ascii ['s', 't', 'a', 't', 'u', 's'] then some word
      else faultCommand word
  | [word, argument] =>
      if word = ascii ['r', 'e', 's', 'e', 't'] then
        (parseCrossing argument).map fun crossing =>
          ascii ['r', 'e', 's', 'e', 't', ' ', 'P'] ++ decimal crossing
      else if word = ascii ['s', 'c', 'a', 'l', 'e'] then
        (parseNumber argument 1 100).map fun value =>
          ascii ['s', 'c', 'a', 'l', 'e', ' '] ++ decimal value
      else none
  | [word, argument, direction] =>
      if word = ascii ['t', 'r', 'a', 'i', 'n'] ∨
          word = ascii ['n', 'o', 'e', 'x', 'i', 't'] then do
        let crossing ← parseCrossing argument
        let direction ← parseDirection direction
        some (word ++ ascii [' ', 'P'] ++ decimal crossing ++ ascii [' '] ++ direction)
      else none
  | _ => none

/-- `central_parse_train_command`: whether the line is accepted, and the payload
afterwards. -/
def centralParseTrainCommand (line : List UInt8) (payload : Data) : Bool × Data :=
  match (tokenize false line).bind canonicalText with
  | some text => (true, dataOfBytes text)
  | none => (false, payload)

/-- The characters of the string that a payload holds. -/
def payloadString (payload : Data) : List UInt8 := (List.ofFn payload).takeWhile (· ≠ 0)

/-- What a train command asks for, without the spelling. -/
inductive TrainOperation
  | line (dir : TrackDirection)
  | both
  | status
  | fault (i : Fin 3)
  | train (i : Fin 3) (dir : TrackDirection) (noExit : Bool)
  | reset (i : Fin 3)
  | scale (n : Nat)
  deriving DecidableEq

/-- The character of a crossing number. -/
def crossingDigit (i : Fin 3) : UInt8 := UInt8.ofNat (49 + i)

/-- The words that name a crossing. -/
def IsCrossing (word : List UInt8) (i : Fin 3) : Prop :=
  word = [80, crossingDigit i] ∨ word = [112, crossingDigit i]

/-- The words that name a direction. -/
def IsDirection (word : List UInt8) : TrackDirection → Prop
  | .up => word = ascii ['u', 'p'] ∨ word = ascii ['U', 'P']
  | .down => word = ascii ['d', 'o', 'w', 'n'] ∨ word = ascii ['D', 'O', 'W', 'N']

def lineWord : TrackDirection → List UInt8
  | .up => ascii ['t', 'r', 'a', 'i', 'n', '-', 'u', 'p']
  | .down => ascii ['t', 'r', 'a', 'i', 'n', '-', 'd', 'o', 'w', 'n']

def trainWord : Bool → List UInt8
  | true => ascii ['n', 'o', 'e', 'x', 'i', 't']
  | false => ascii ['t', 'r', 'a', 'i', 'n']

def directionWord : TrackDirection → List UInt8
  | .up => ascii ['u', 'p']
  | .down => ascii ['d', 'o', 'w', 'n']

/-- The words of a line name an operation. -/
inductive Names : List (List UInt8) → TrainOperation → Prop
  | line (dir : TrackDirection) : Names [lineWord dir] (.line dir)
  | both : Names [ascii ['t', 'r', 'a', 'i', 'n', '-', 'b', 'o', 't', 'h']] .both
  | status : Names [ascii ['s', 't', 'a', 't', 'u', 's']] .status
  | fault {p : List UInt8} {i : Fin 3} (hcrossing : IsCrossing p i) :
      Names [p ++ ascii ['-', 'f', 'a', 'u', 'l', 't']] (.fault i)
  | train {p d : List UInt8} {i : Fin 3} {dir : TrackDirection} (noExit : Bool)
      (hcrossing : IsCrossing p i) (hdirection : IsDirection d dir) :
      Names [trainWord noExit, p, d] (.train i dir noExit)
  | reset {p : List UInt8} {i : Fin 3} (hcrossing : IsCrossing p i) :
      Names [ascii ['r', 'e', 's', 'e', 't'], p] (.reset i)
  | scale {digits : List UInt8} {n : Nat} (hne : digits ≠ [])
      (hdigits : ∀ c ∈ digits, isDigit c = true) (hvalue : readDigits 0 digits = n)
      (hmin : 1 ≤ n) (hmax : n ≤ 100) :
      Names [ascii ['s', 'c', 'a', 'l', 'e'], digits] (.scale n)

/-- The canonical spelling. -/
def TrainOperation.text : TrainOperation → List UInt8
  | .line dir => lineWord dir
  | .both => ascii ['t', 'r', 'a', 'i', 'n', '-', 'b', 'o', 't', 'h']
  | .status => ascii ['s', 't', 'a', 't', 'u', 's']
  | .fault i => [112, crossingDigit i] ++ ascii ['-', 'f', 'a', 'u', 'l', 't']
  | .train i dir noExit =>
      trainWord noExit ++ [32, 80, crossingDigit i, 32] ++ directionWord dir
  | .reset i => ascii ['r', 'e', 's', 'e', 't', ' '] ++ [80, crossingDigit i]
  | .scale n => ascii ['s', 'c', 'a', 'l', 'e', ' '] ++ decimal n

/-- An operation a simulator can be asked for. -/
def TrainOperation.Valid : TrainOperation → Prop
  | .scale n => 1 ≤ n ∧ n ≤ 100
  | _ => True

/-- The simulator after the operation. -/
def TrainOperation.effect (sim : RailSim) : TrainOperation → RailSim
  | .line dir => simulateTrainOnLine sim dir
  | .both => simulateTrainOnLine (simulateTrainOnLine sim .up) .down
  | .status => sim
  | .fault i => handle sim i .injectFault
  | .train i dir noExit => simulateTrainAtCrossing sim i dir noExit
  | .reset i => handle sim i .resetFault
  | .scale n => { sim with timeScale := n }

/-- The reply that confirms the operation. -/
def TrainOperation.confirmation (sim : RailSim) : TrainOperation → SimReply
  | .line dir => .lineStarted dir
  | .both => .bothStarted
  | .status => .status sim
  | .fault i => .faultInjected (UInt8.ofNat (i + 1))
  | .train i dir noExit => .trainStarted (sim.crossings i).name dir noExit
  | .reset i => .resetDone (UInt8.ofNat (i + 1))
  | .scale n => .scaleSet n

/-- A reply starts with a word. -/
def Says (word : String) (reply : SimReply) : Prop := ∃ rest, reply.text = word ++ rest

/-- Why the simulator cannot start the trains of the operation. Nothing else is refused. -/
def TrainOperation.refusal (sim : RailSim) : TrainOperation → Option TrainRefusal
  | .line dir => cannotStartTrain sim none dir (3 * numCrossings)
  | .both =>
      cannotStartTrain sim none .up (6 * numCrossings) <|>
        cannotStartTrain sim none .down (6 * numCrossings)
  | .train i dir noExit => cannotStartTrain sim (some i) dir (if noExit then 2 else 3)
  | _ => none

/-- The operation was carried out, or its trains cannot start: then it was refused as busy
with nothing changed. -/
def CarriedOut (sim : RailSim) (op : TrainOperation) (result : SimResult) : Prop :=
  match op.refusal sim with
  | none => result.ok = true ∧ result.sim = op.effect sim ∧ result.reply = op.confirmation sim
  | some _ => result.ok = false ∧ result.sim = sim ∧ Says "BUSY" result.reply

/-- Numbers one to three, in order. -/
def Numbered (sim : RailSim) : Prop := ∀ i, (sim.crossings i).id = UInt8.ofNat (i + 1)

theorem exists_crossingDigit {c : UInt8} (hmin : 49 ≤ c) (hmax : c ≤ 51) :
    ∃ i : Fin 3, c = crossingDigit i := by
  rw [UInt8.le_iff_toNat_le] at hmin hmax
  change 49 ≤ c.toNat at hmin
  change c.toNat ≤ 51 at hmax
  refine ⟨⟨c.toNat - 49, by omega⟩, ?_⟩
  apply UInt8.toNat_inj.mp
  show c.toNat = (UInt8.ofNat (49 + (c.toNat - 49))).toNat
  rw [UInt8.toNat_ofNat']
  omega

theorem decimal_crossing :
    ∀ i : Fin 3, decimal (crossingDigit i - 48).toNat = [crossingDigit i] := by
  decide

theorem isCrossing_of_parseCrossing {word : List UInt8} {k : Nat}
    (h : parseCrossing word = some k) :
    ∃ i, IsCrossing word i ∧ decimal k = [crossingDigit i] := by
  unfold parseCrossing at h
  split at h
  · rename_i p c
    split at h
    · rename_i hword
      obtain ⟨hp, hmin, hmax⟩ := hword
      obtain rfl := Option.some.inj h
      obtain ⟨i, rfl⟩ := exists_crossingDigit hmin hmax
      refine ⟨i, ?_, decimal_crossing i⟩
      rcases hp with rfl | rfl
      · exact .inl rfl
      · exact .inr rfl
    · cases h
  · cases h

theorem isDirection_of_parseDirection {word direction : List UInt8}
    (h : parseDirection word = some direction) :
    ∃ dir, IsDirection word dir ∧ direction = directionWord dir := by
  unfold parseDirection at h
  split at h
  · rename_i hup
    exact ⟨.up, hup, (Option.some.inj h).symm⟩
  · split at h
    · rename_i hdown
      exact ⟨.down, hdown, (Option.some.inj h).symm⟩
    · cases h

theorem readDigits_of_readBounded {maximum value n : Nat} {text : List UInt8}
    (h : readBounded maximum value text = some n) :
    (∀ c ∈ text, isDigit c = true) ∧ readDigits value text = n := by
  induction text generalizing value with
  | nil =>
      obtain rfl := Option.some.inj h
      exact ⟨by simp, rfl⟩
  | cons c text ih =>
      simp only [readBounded] at h
      split at h
      · cases h
      · rename_i hdigit
        have hc : isDigit c = true := by simpa using hdigit
        split at h
        · cases h
        · obtain ⟨hrest, hread⟩ := ih h
          refine ⟨List.forall_mem_cons.mpr ⟨hc, hrest⟩, ?_⟩
          have hmin : (48 : UInt8) ≤ c := by
            simp only [isDigit, decide_eq_true_eq] at hc
            exact hc.1
          have hsub := UInt8.toNat_sub_of_le c 48 hmin
          have hnat : (48 : UInt8).toNat ≤ c.toNat := UInt8.le_iff_toNat_le.mp hmin
          have hconst : (48 : UInt8).toNat = 48 := rfl
          rw [readDigits, if_pos hc, ← hread]
          congr 1
          push_cast
          omega

theorem parseNumber_some {text : List UInt8} {minimum maximum n : Nat}
    (h : parseNumber text minimum maximum = some n) :
    text ≠ [] ∧ (∀ c ∈ text, isDigit c = true) ∧ readDigits 0 text = n ∧
      minimum ≤ n ∧ n ≤ maximum := by
  unfold parseNumber at h
  split at h
  · cases h
  · rename_i hne
    obtain ⟨hread, hmin⟩ := Option.filter_eq_some_iff.mp h
    obtain ⟨hdigits, hvalue⟩ := readDigits_of_readBounded hread
    exact ⟨hne, hdigits, hvalue, Nat.not_lt.mp (by simpa using hmin),
      readBounded_le (Nat.zero_le _) hread⟩

theorem fault_of_faultCommand {word text : List UInt8} (h : faultCommand word = some text) :
    ∃ i p, IsCrossing p i ∧ word = p ++ ascii ['-', 'f', 'a', 'u', 'l', 't'] ∧
      text = (TrainOperation.fault i).text := by
  unfold faultCommand at h
  split at h
  · rename_i p c rest
    split at h
    · rename_i hword
      obtain ⟨hp, hmin, hmax, rfl⟩ := hword
      obtain ⟨i, rfl⟩ := exists_crossingDigit hmin hmax
      refine ⟨i, [p, crossingDigit i], ?_, rfl, (Option.some.inj h).symm⟩
      rcases hp with rfl | rfl
      · exact .inr rfl
      · exact .inl rfl
    · cases h
  · cases h

/-- A line that is accepted names an operation, and its canonical spelling is
the text that Central prints. -/
theorem names_of_canonicalText {tokens : List (List UInt8)} {text : List UInt8}
    (h : canonicalText tokens = some text) :
    ∃ op, Names tokens op ∧ op.Valid ∧ text = op.text := by
  unfold canonicalText at h
  split at h
  · rename_i word
    split at h
    · rename_i hword
      obtain rfl := Option.some.inj h
      rcases hword with rfl | rfl | rfl | rfl
      · exact ⟨.line .up, .line .up, trivial, rfl⟩
      · exact ⟨.line .down, .line .down, trivial, rfl⟩
      · exact ⟨.both, .both, trivial, rfl⟩
      · exact ⟨.status, .status, trivial, rfl⟩
    · obtain ⟨i, p, hp, rfl, htext⟩ := fault_of_faultCommand h
      exact ⟨.fault i, .fault hp, trivial, htext⟩
  · rename_i word argument
    split at h
    · rename_i hword
      obtain ⟨k, hk, rfl⟩ := Option.map_eq_some_iff.mp h
      obtain ⟨i, hi, hdecimal⟩ := isCrossing_of_parseCrossing hk
      subst hword
      refine ⟨.reset i, .reset hi, trivial, ?_⟩
      rw [hdecimal]
      rfl
    · split at h
      · rename_i hword
        obtain ⟨n, hn, rfl⟩ := Option.map_eq_some_iff.mp h
        obtain ⟨hne, hdigits, hvalue, hmin, hmax⟩ := parseNumber_some hn
        subst hword
        exact ⟨.scale n, .scale hne hdigits hvalue hmin hmax, ⟨hmin, hmax⟩, rfl⟩
      · cases h
  · rename_i word argument direction
    split at h
    · rename_i hword
      obtain ⟨k, hk, h⟩ := Option.bind_eq_some_iff.mp h
      obtain ⟨d, hd, h⟩ := Option.bind_eq_some_iff.mp h
      obtain ⟨i, hi, hdecimal⟩ := isCrossing_of_parseCrossing hk
      obtain ⟨dir, hdir, rfl⟩ := isDirection_of_parseDirection hd
      obtain rfl := Option.some.inj h
      rw [hdecimal]
      rcases hword with rfl | rfl
      · exact ⟨.train i dir false, .train false hi hdir, trivial, rfl⟩
      · exact ⟨.train i dir true, .train true hi hdir, trivial, rfl⟩
    · cases h
  · cases h

theorem le_readDigits {value : Nat} {text : List UInt8} (h : ∀ c ∈ text, isDigit c = true) :
    (value : Int) ≤ readDigits value text := by
  induction text generalizing value with
  | nil => exact le_refl _
  | cons c text ih =>
      obtain ⟨hc, htext⟩ := List.forall_mem_cons.mp h
      have hmin : 48 ≤ c.toNat := by
        simp only [isDigit, decide_eq_true_eq] at hc
        exact UInt8.le_iff_toNat_le.mp hc.1
      have hrest := @ih (value * 10 + (c.toNat - 48)) htext
      rw [readDigits, if_pos hc]
      have hcast : ((value * 10 + (c.toNat - 48) : Nat) : Int) = value * 10 + (c.toNat - 48) := by
        push_cast
        omega
      rw [hcast] at hrest
      omega

theorem readBounded_of_readDigits {maximum value n : Nat} {text : List UInt8}
    (h : ∀ c ∈ text, isDigit c = true) (hvalue : readDigits value text = n)
    (hmax : n ≤ maximum) :
    readBounded maximum value text = some n := by
  induction text generalizing value with
  | nil =>
      have hn : (value : Int) = n := hvalue
      rw [readBounded]
      congr 1
      omega
  | cons c text ih =>
      obtain ⟨hc, htext⟩ := List.forall_mem_cons.mp h
      have hmin : (48 : UInt8) ≤ c := by
        simp only [isDigit, decide_eq_true_eq] at hc
        exact hc.1
      have hsub := UInt8.toNat_sub_of_le c 48 hmin
      have hnat : 48 ≤ c.toNat := UInt8.le_iff_toNat_le.mp hmin
      have hconst : (48 : UInt8).toNat = 48 := rfl
      have hcast : ((value * 10 + (c - 48).toNat : Nat) : Int) = value * 10 + (c.toNat - 48) := by
        push_cast
        omega
      rw [readDigits, if_pos hc, ← hcast] at hvalue
      have hgrow := @le_readDigits (value * 10 + (c - 48).toNat) text htext
      simp only [readBounded, hc]
      rw [if_neg (by simp), if_neg (by omega)]
      exact ih htext hvalue

theorem parseCrossing_of_isCrossing {word : List UInt8} {i : Fin 3} (h : IsCrossing word i) :
    parseCrossing word = some (crossingDigit i - 48).toNat := by
  rcases h with rfl | rfl
  · revert i
    decide
  · revert i
    decide

theorem parseDirection_of_isDirection {word : List UInt8} {dir : TrackDirection}
    (h : IsDirection word dir) : parseDirection word = some (directionWord dir) := by
  cases dir with
  | up => rcases h with rfl | rfl <;> rfl
  | down => rcases h with rfl | rfl <;> rfl

theorem valid_of_names {tokens : List (List UInt8)} {op : TrainOperation}
    (h : Names tokens op) : op.Valid := by
  cases h with
  | scale hne hdigits hvalue hmin hmax => exact ⟨hmin, hmax⟩
  | _ => trivial

theorem canonicalText_of_names {tokens : List (List UInt8)} {op : TrainOperation}
    (h : Names tokens op) : canonicalText tokens = some op.text := by
  cases h with
  | line dir => cases dir <;> decide
  | both => decide
  | status => decide
  | @fault p i hcrossing =>
      rcases hcrossing with rfl | rfl
      · revert i
        decide
      · revert i
        decide
  | @train p d i dir noExit hcrossing hdirection =>
      simp only [canonicalText, parseCrossing_of_isCrossing hcrossing,
        parseDirection_of_isDirection hdirection]
      clear hcrossing hdirection
      cases dir <;> cases noExit <;> revert i <;> decide
  | reset hcrossing =>
      simp only [canonicalText, parseCrossing_of_isCrossing hcrossing, Option.map_some,
        decimal_crossing]
      rfl
  | @scale digits n hne hdigits hvalue hmin hmax =>
      have hread := readBounded_of_readDigits hdigits hvalue hmax
      have hparse : parseNumber digits 1 100 = some n := by
        rw [parseNumber, if_neg hne, hread]
        exact Option.filter_some_pos (by simpa using Nat.one_le_iff_ne_zero.mp hmin)
      have hword : ascii ['s', 'c', 'a', 'l', 'e'] ≠ ascii ['r', 'e', 's', 'e', 't'] := by decide
      simp only [canonicalText]
      rw [if_neg hword, hparse]
      rfl

/-- The request of the simulator that an operation corresponds to. -/
def TrainOperation.request : TrainOperation → SimRequest
  | .line dir => .trainLine dir
  | .both => .trainBoth
  | .status => .status
  | .fault i => .faultNumbered (UInt8.ofNat (i + 1))
  | .train i dir noExit => .trainAt [80, crossingDigit i] dir noExit
  | .reset i => .reset (some (UInt8.ofNat (i + 1)))
  | .scale n => .scale n

/-- The canonical spelling fits into the payload, is accepted as it stands and
is read by the simulator as what it spells. -/
def Spelled (op : TrainOperation) : Prop :=
  op.text.length < 64 ∧ (∀ c ∈ op.text, c ≠ 0) ∧
    (tokenize false op.text).bind canonicalText = some op.text ∧ requestOf op.text = op.request

instance (op : TrainOperation) : Decidable (Spelled op) :=
  inferInstanceAs (Decidable (_ ∧ _))

theorem spelled_scale : ∀ n < 101, 1 ≤ n → Spelled (.scale n) := by
  decide +kernel

theorem spelled {op : TrainOperation} (h : op.Valid) : Spelled op := by
  cases op with
  | line dir => cases dir <;> decide +kernel
  | both => decide +kernel
  | status => decide +kernel
  | fault i =>
      clear h
      revert i
      decide +kernel
  | train i dir noExit =>
      clear h
      cases dir <;> cases noExit <;> revert i <;> decide +kernel
  | reset i =>
      clear h
      revert i
      decide +kernel
  | scale n => exact spelled_scale n (by have hmax := h.2; omega) h.1

theorem payloadString_dataOfBytes {text : List UInt8} (hlength : text.length < 64)
    (hnonzero : ∀ c ∈ text, c ≠ 0) : payloadString (dataOfBytes text) = text :=
  takeWhile_dataOfBytes hlength hnonzero

theorem findCrossing_numbered {sim : RailSim} (h : Numbered sim) (i : Fin 3) :
    findCrossing sim (some (UInt8.ofNat (i + 1))) = some i := by
  have hids : ∀ j : Fin 3, ((sim.crossings j).id = UInt8.ofNat (i + 1)) ↔ j = i := by
    intro j
    rw [h j]
    revert i j
    decide
  have hfind : ∀ i : Fin 3, (List.finRange 3).find? (fun j => decide (j = i)) = some i := by
    decide
  simp only [findCrossing, Option.bind_some, hids]
  exact hfind i

theorem parseCrossingId_crossing : ∀ i : Fin 3,
    parseCrossingId [80, crossingDigit i] = some (UInt8.ofNat (i + 1)) := by
  decide

theorem says_busy (sim : RailSim) (dir : TrackDirection) (refusal : TrainRefusal) :
    Says "BUSY" (refusalReply sim dir refusal) := by
  cases refusal with
  | alreadyRunning i =>
      refine ⟨": Train already running on " ++ (sim.crossings i).name ++ " " ++ dirName dir ++
        " track", ?_⟩
      show "BUSY: Train already running on " ++ _ ++ _ ++ _ ++ _ = _
      simp only [← String.append_assoc]
      rfl
  | queueFull => exact ⟨": Simulation event queue full", rfl⟩

theorem carriedOut_unlessRefused {sim : RailSim} {op : TrainOperation} {dir : TrackDirection}
    {refusal : Option TrainRefusal} (h : op.refusal sim = refusal) {started : SimResult}
    (hstarted : started.ok = true ∧ started.sim = op.effect sim ∧
      started.reply = op.confirmation sim) :
    CarriedOut sim op (unlessRefused sim dir refusal started) := by
  unfold CarriedOut
  rw [h]
  cases refusal with
  | none => exact hstarted
  | some refusal => exact ⟨rfl, rfl, says_busy sim dir refusal⟩

theorem carriedOut_both (sim : RailSim) : CarriedOut sim .both (perform sim .trainBoth) := by
  have hrefusal : TrainOperation.both.refusal sim =
      (cannotStartTrain sim none .up (6 * numCrossings) <|>
        cannotStartTrain sim none .down (6 * numCrossings)) := rfl
  show CarriedOut sim .both (unlessRefused sim .up _ (unlessRefused sim .down _ _))
  cases hup : cannotStartTrain sim none .up (6 * numCrossings) with
  | none =>
      rw [hup] at hrefusal
      exact carriedOut_unlessRefused hrefusal ⟨rfl, rfl, rfl⟩
  | some refusal =>
      rw [hup] at hrefusal
      unfold CarriedOut
      rw [hrefusal]
      exact ⟨rfl, rfl, says_busy sim .up refusal⟩

theorem carriedOut_request {sim : RailSim} (hids : Numbered sim) {op : TrainOperation}
    (h : op.Valid) : CarriedOut sim op (perform sim op.request) := by
  cases op with
  | line dir => exact carriedOut_unlessRefused rfl ⟨rfl, rfl, rfl⟩
  | both => exact carriedOut_both sim
  | status => exact ⟨rfl, rfl, rfl⟩
  | fault i =>
      show CarriedOut sim _ (commandEvent sim _ _ _ _)
      rw [commandEvent, findCrossing_numbered hids]
      exact ⟨rfl, rfl, rfl⟩
  | train i dir noExit =>
      show CarriedOut sim _ (trainAtCrossing sim _ dir noExit (findCrossing sim _))
      rw [parseCrossingId_crossing, findCrossing_numbered hids]
      exact carriedOut_unlessRefused rfl ⟨rfl, rfl, rfl⟩
  | reset i =>
      show CarriedOut sim _ (commandEvent sim _ _ _ _)
      rw [commandEvent, findCrossing_numbered hids]
      exact ⟨rfl, rfl, rfl⟩
  | scale n =>
      obtain ⟨hmin, hmax⟩ := h
      have hrange : (1 : Int) ≤ n ∧ (n : Int) ≤ 100 := by omega
      show CarriedOut sim _ (if 1 ≤ (n : Int) ∧ (n : Int) ≤ 100 then _ else _)
      rw [if_pos hrange, setTimeScale, if_pos hrange]
      exact ⟨rfl, rfl, rfl⟩

theorem request_injective {op op' : TrainOperation} (h : op.request = op'.request) : op = op' := by
  have hdigit : ∀ i j : Fin 3, UInt8.ofNat (i + 1) = UInt8.ofNat (j + 1) → i = j := by decide
  have hchar : ∀ i j : Fin 3, crossingDigit i = crossingDigit j → i = j := by decide
  cases op <;> cases op' <;> simp only [TrainOperation.request, reduceCtorEq] at h
  · rw [SimRequest.trainLine.inj h]
  · rfl
  · rfl
  · rw [hdigit _ _ (SimRequest.faultNumbered.inj h)]
  · obtain ⟨hcrossing, rfl, rfl⟩ := SimRequest.trainAt.inj h
    rw [hchar _ _ (List.cons.inj (List.cons.inj hcrossing).2).1]
  · rw [hdigit _ _ (Option.some.inj (SimRequest.reset.inj h))]
  · rw [Int.ofNat.inj (SimRequest.scale.inj h)]

theorem head_of_said {word : String} {reply : SimReply} (h : Says word reply)
    (hne : word.toList ≠ []) : reply.text.toList.head? = word.toList.head? := by
  obtain ⟨rest, hrest⟩ := h
  rw [hrest, String.toList_append, List.head?_append_of_ne_nil _ hne]

theorem head_append {word rest : String} {c : Char} (h : word.toList.head? = some c) :
    (word ++ rest).toList.head? = some c := by
  rw [String.toList_append, List.head?_append, h, Option.some_or]

theorem confirmation_head (sim : RailSim) (op : TrainOperation) :
    (op.confirmation sim).text.toList.head? = some 'O' ∨
      (op.confirmation sim).text.toList.head? = some 'S' := by
  cases op with
  | line dir =>
      left
      cases dir with
      | up =>
          show ("OK: Train UP (W->E) P3->P2->P1 started" : String).toList.head? = some 'O'
          decide
      | down =>
          show ("OK: Train DOWN (E->W) P1->P2->P3 started" : String).toList.head? = some 'O'
          decide
  | both =>
      left
      show ("OK: Train UP (P3->P2->P1) and DOWN (P1->P2->P3) started" : String).toList.head? =
        some 'O'
      decide
  | status =>
      right
      show (String.append _ _).toList.head? = _
      iterate 17 apply head_append
      decide
  | fault i => exact .inl (head_append (by decide))
  | train i dir noExit =>
      left
      show (String.append _ _).toList.head? = _
      iterate 4 apply head_append
      cases noExit <;> decide
  | reset i => exact .inl (head_append (by decide))
  | scale n => exact .inl (head_append (by decide))

theorem not_error_of_carriedOut {sim : RailSim} {op : TrainOperation} {result : SimResult}
    (h : CarriedOut sim op result) : ¬ Says "ERROR" result.reply := by
  intro herror
  have hhead := head_of_said herror (by decide)
  unfold CarriedOut at h
  split at h
  · rw [h.2.2] at hhead
    rcases confirmation_head sim op with hconfirm | hconfirm
    · exact absurd (hconfirm.symm.trans hhead) (by decide)
    · exact absurd (hconfirm.symm.trans hhead) (by decide)
  · rw [head_of_said h.2.2 (by decide)] at hhead
    exact absurd hhead (by decide)

/-- What an accepted line, the payload written for it and the simulator have in
common: one operation. -/
structure Agreement (line : List UInt8) (written : Data) (op : TrainOperation) : Prop where
  named : ∃ tokens, tokenize false line = some tokens ∧ ∀ op', Names tokens op' ↔ op' = op
  filled : ∃ text, written = dataOfBytes text ∧ text.length < 64 ∧ ∀ c ∈ text, c ≠ 0
  canonical : ∀ payload,
    centralParseTrainCommand (payloadString written) payload = (true, written)
  simulated : ∀ sim, Numbered sim →
    CarriedOut sim op (railSimCommand sim (payloadString written)) ∧
      ¬ Says "ERROR" (railSimCommand sim (payloadString written)).reply

/-- The payload written for an accepted line stands for the operation that the
line names; a rejected line leaves the payload as it was. -/
theorem train_commands_agree {line : List UInt8} {payload written : Data} {accepted : Bool}
    (h : centralParseTrainCommand line payload = (accepted, written)) :
    (accepted = true → ∃ op, Agreement line written op) ∧
      (accepted = false → written = payload) := by
  unfold centralParseTrainCommand at h
  cases hparse : (tokenize false line).bind canonicalText with
  | none =>
      rw [hparse] at h
      obtain ⟨rfl, rfl⟩ := Prod.mk.inj h
      exact ⟨nofun, fun _ => rfl⟩
  | some text =>
      rw [hparse] at h
      obtain ⟨rfl, rfl⟩ := Prod.mk.inj h
      refine ⟨fun _ => ?_, nofun⟩
      obtain ⟨tokens, htokens, htext⟩ := Option.bind_eq_some_iff.mp hparse
      obtain ⟨op, hnames, hvalid, rfl⟩ := names_of_canonicalText htext
      obtain ⟨hlength, hnonzero, hcanonical, hrequest⟩ := spelled hvalid
      have hstring := payloadString_dataOfBytes hlength hnonzero
      refine ⟨op, ⟨tokens, htokens, ?_⟩, ⟨_, rfl, hlength, hnonzero⟩, ?_, ?_⟩
      · intro op'
        constructor
        · intro hnames'
          have htext' := canonicalText_of_names hnames'
          have hsame : op'.text = op.text := Option.some.inj (htext'.symm.trans htext)
          have hrequest' := (spelled (valid_of_names hnames')).2.2.2
          rw [hsame, hrequest] at hrequest'
          exact request_injective hrequest'.symm
        · rintro rfl
          exact hnames
      · intro payload'
        rw [centralParseTrainCommand, hstring, hcanonical]
      · intro sim hids
        have hresult : CarriedOut sim op
            (railSimCommand sim (payloadString (dataOfBytes op.text))) := by
          rw [hstring, railSimCommand, hrequest]
          exact carriedOut_request hids hvalid
        exact ⟨hresult, not_error_of_carriedOut hresult⟩

theorem train_commands_agree_mixed :
    ∃ op, Agreement
      (ascii [' ', '\t', 't', 'r', 'a', 'i', 'n', ' ', 'p', '1', ' ', 'U', 'P', ' '])
      (dataOfBytes (ascii ['t', 'r', 'a', 'i', 'n', ' ', 'P', '1', ' ', 'u', 'p'])) op := by
  have hparse : centralParseTrainCommand
      (ascii [' ', '\t', 't', 'r', 'a', 'i', 'n', ' ', 'p', '1', ' ', 'U', 'P', ' ']) (fun _ => 0) =
      (true, dataOfBytes (ascii ['t', 'r', 'a', 'i', 'n', ' ', 'P', '1', ' ', 'u', 'p'])) := by
    decide +kernel
  exact (train_commands_agree hparse).1 rfl

end TrafficLight.TrainCommands
