import TrafficLight.CentralFrames
import TrafficLight.OperatorRequests

namespace TrafficLight.OperatorCommands

open TrafficLight.Protocol
open TrafficLight.Decimal
open TrafficLight.CentralCommands
open TrafficLight.CentralFrames
open TrafficLight.SimCommands
open TrafficLight.SimLanguage
open TrafficLight.TrainCommands
open TrafficLight.AllOrNothing
open TrafficLight.OperatorRequests

/-- The words of a text are what stands between its spaces. -/
def words (text : List UInt8) : List (List UInt8) :=
  (text.splitOnP isSpace).filter (· ≠ [])

inductive OperatorCommand
  | set (mode : TrafficLightMode)
  | temporary (mode : TrafficLightMode) (seconds : Nat)
  | revert
  | coordinate (phase : Phase) (offset : Nat)
  | simulate (action : CentralSimAction) (minute : Nat)

inductive IsTarget : List UInt8 → Option (Fin 6) → Prop
  | all : IsTarget (ascii ['a', 'l', 'l']) none
  | one (i : Fin 6) : IsTarget [73, UInt8.ofNat (49 + i)] (some i)

inductive IsMode : List UInt8 → TrafficLightMode → Prop
  | fixed : IsMode (ascii ['f', 'i', 'x', 'e', 'd']) .fixed
  | sensor : IsMode (ascii ['s', 'e', 'n', 's', 'o', 'r']) .sensor

inductive IsPhase : List UInt8 → Phase → Prop
  | ns : IsPhase (ascii ['N', 'S']) .nsGreen
  | ew : IsPhase (ascii ['E', 'W']) .ewGreen

/-- A decimal numeral, leading zeros included. -/
structure IsNumber (word : List UInt8) (n : Nat) : Prop where
  nonempty : word ≠ []
  digits : ∀ c ∈ word, isDigit c = true
  value : readDigits 0 word = n

/-- A time of day as hours and minutes of two digits each. -/
inductive IsTime : List UInt8 → Nat → Prop
  | time {h₁ h₂ m₁ m₂ : UInt8} {hours minutes : Nat} (hhours : IsNumber [h₁, h₂] hours)
      (hminutes : IsNumber [m₁, m₂] minutes) (hday : hours ≤ 23) (hhour : minutes ≤ 59) :
      IsTime [h₁, h₂, 58, m₁, m₂] (hours * 60 + minutes)

def setWord : TrafficLightMode → List UInt8
  | .fixed => ascii ['m', 'o', 'd', 'e', '-', 'f', 'i', 'x', 'e', 'd']
  | _ => ascii ['m', 'o', 'd', 'e', '-', 's', 'e', 'n', 's', 'o', 'r']

/-- What the words of a line denote: a command and its target. -/
inductive Denotes : List (List UInt8) → OperatorCommand → Option (Fin 6) → Prop
  | setAll {mode : TrafficLightMode} (hmode : mode = .fixed ∨ mode = .sensor) :
      Denotes [setWord mode] (.set mode) none
  | set {mode : TrafficLightMode} {t : List UInt8} {target : Option (Fin 6)}
      (hmode : mode = .fixed ∨ mode = .sensor) (htarget : IsTarget t target) :
      Denotes [setWord mode, t] (.set mode) target
  | temporary {t m s : List UInt8} {target : Option (Fin 6)} {mode : TrafficLightMode}
      {seconds : Nat} (htarget : IsTarget t target) (hmode : IsMode m mode)
      (hseconds : IsNumber s seconds) (hmin : 1 ≤ seconds) (hmax : seconds ≤ 65535) :
      Denotes [ascii ['m', 'o', 'd', 'e', '-', 't', 'e', 'm', 'p'], t, m, s]
        (.temporary mode seconds) target
  | revert {t : List UInt8} {target : Option (Fin 6)} (htarget : IsTarget t target) :
      Denotes [ascii ['m', 'o', 'd', 'e', '-', 'r', 'e', 'v', 'e', 'r', 't'], t] .revert target
  | coordinate {t p s : List UInt8} {target : Option (Fin 6)} {phase : Phase} {offset : Nat}
      (htarget : IsTarget t target) (hphase : IsPhase p phase) (hoffset : IsNumber s offset)
      (hmax : offset < coordinationMaxCycleSec) :
      Denotes [ascii ['c', 'o', 'o', 'r', 'd', 'i', 'n', 'a', 't', 'e'], t, p, s]
        (.coordinate phase offset) target
  | simStart {t : List UInt8} {target : Option (Fin 6)} (htarget : IsTarget t target) :
      Denotes [ascii ['s', 'i', 'm', '-', 's', 't', 'a', 'r', 't'], t] (.simulate .start 0) target
  | simStop {t : List UInt8} {target : Option (Fin 6)} (htarget : IsTarget t target) :
      Denotes [ascii ['s', 'i', 'm', '-', 's', 't', 'o', 'p'], t] (.simulate .stop 0) target
  | simTime {t w : List UInt8} {target : Option (Fin 6)} {minute : Nat}
      (htarget : IsTarget t target) (htime : IsTime w minute) :
      Denotes [ascii ['s', 'i', 'm', '-', 't', 'i', 'm', 'e'], t, w] (.simulate .time minute) target

/-- `central_parse_command` with what it leaves in `*message` and `*target`. -/
def parseCommandCall (line : List UInt8) (message : TestMessage) (target : Nat) :
    Bool × TestMessage × Nat :=
  match centralParseCommand line with
  | some (command, selected) =>
      (true, command, (selected.map Fin.val).getD intersectionAll.toNat)
  | none => (false, message, target)

/-- A message with a timestamp. -/
def stamp (message : TestMessage) (timestamp : Fin 32 → UInt8) : TestMessage :=
  { message with header := { message.header with timestamp } }

/-- The fields of a message, id and target apart, are those of a command. -/
def Expresses (message : TestMessage) : OperatorCommand → Prop
  | .set mode =>
      message.header.type = msgModeCommand ∧
        let m := ModeCmdMsg.ofData message.data
        m.newMode = mode.toByte ∧ m.action = cmdSetMode ∧ m.priority = cmdPrioOperator ∧
          m.durationSec = 0
  | .temporary mode seconds =>
      message.header.type = msgModeCommand ∧
        let m := ModeCmdMsg.ofData message.data
        m.newMode = mode.toByte ∧ m.action = cmdTemporary ∧ m.priority = cmdPrioOperator ∧
          m.durationSec.toNat = seconds
  | .revert =>
      message.header.type = msgModeCommand ∧
        let m := ModeCmdMsg.ofData message.data
        m.newMode = 0 ∧ m.action = cmdRevert ∧ m.priority = cmdPrioOperator ∧ m.durationSec = 0
  | .coordinate phase offset =>
      message.header.type = msgCoordinationCommand ∧
        let m := CoordinationCommandMsg.ofData message.data
        m.mode = TrafficLightMode.fixed.toByte ∧ m.phase = phase.toByte ∧ m.reserved = 0 ∧
          m.cycleOffsetSec.toNat = offset
  | .simulate action minute =>
      message.header.type = msgTest ∧ ∃ simulation,
        centralSimulationDecode message = some simulation ∧ simulation.action = action ∧
          simulation.minute = minute

theorem words_space {c : UInt8} (hc : isSpace c = true) (text : List UInt8) :
    words (c :: text) = words text := by
  unfold words
  rw [List.splitOnP_cons_eq_if_modifyHead, if_pos hc]
  rfl

theorem words_dropWhile (text : List UInt8) : words (text.dropWhile isSpace) = words text := by
  induction text with
  | nil => rfl
  | cons c text ih =>
      rw [List.dropWhile_cons]
      split
      · rename_i hc
        rw [ih, words_space hc]
      · rfl

theorem words_word {word rest : List UInt8} (hne : word ≠ [])
    (hword : ∀ c ∈ word, isSpace c = false)
    (hrest : ∀ c, rest.head? = some c → isSpace c = true) :
    words (word ++ rest) = word :: words rest := by
  cases rest with
  | nil =>
      unfold words
      rw [List.append_nil, List.splitOnP_eq_singleton hword, List.filter_cons_of_pos (by simpa)]
      rfl
  | cons c rest =>
      have hc := hrest c rfl
      rw [words_space hc]
      unfold words
      rw [List.splitOnP_append_cons_of_forall_mem hword c hc, List.filter_cons_of_pos (by simpa)]

theorem firstWord {text : List UInt8} (hne : text.dropWhile isSpace ≠ []) :
    let rest := text.dropWhile isSpace
    let word := rest.takeWhile fun c => ! isSpace c
    word ≠ [] ∧ (∀ c ∈ word, isSpace c = false) ∧
      (∀ c, (rest.drop word.length).head? = some c → isSpace c = true) ∧
        rest = word ++ rest.drop word.length := by
  have hhead := List.head?_dropWhile_not isSpace text
  intro rest word
  have hsplit : word ++ rest.drop word.length = rest :=
    List.prefix_iff_eq_append.mp (List.takeWhile_prefix _)
  have hdrop : rest.drop word.length = rest.dropWhile fun c => ! isSpace c :=
    List.append_cancel_left (hsplit.trans List.takeWhile_append_dropWhile.symm)
  refine ⟨?_, fun c hc => by simpa using List.mem_takeWhile_imp hc, ?_, hsplit.symm⟩
  · obtain ⟨c, tail, hrest⟩ := List.exists_cons_of_ne_nil hne
    have hc : isSpace c = false := by simpa [hrest] using hhead
    show rest.takeWhile _ ≠ []
    rw [show rest = c :: tail from hrest, List.takeWhile_cons_of_pos (by simp [hc])]
    exact List.cons_ne_nil _ _
  · intro c hc
    have hafter := List.head?_dropWhile_not (fun c => ! isSpace c) rest
    rw [hdrop] at hc
    simpa [hc] using hafter

theorem words_of_commandWords {slots : Nat} {text : List UInt8} {parsed : List (List UInt8)}
    (h : commandWords slots text = some parsed) : words text = parsed := by
  induction slots generalizing text parsed with
  | zero =>
      unfold commandWords at h
      split at h
      · rename_i hblank
        obtain rfl := Option.some.inj h
        rw [← words_dropWhile, hblank]
        rfl
      · cases h
  | succ slots ih =>
      unfold commandWords at h
      dsimp only at h
      rw [← words_dropWhile]
      split at h
      · rename_i hblank
        obtain rfl := Option.some.inj h
        rw [hblank]
        rfl
      · rename_i hne
        obtain ⟨rest, hrest, rfl⟩ := Option.map_eq_some_iff.mp h
        obtain ⟨hne, hword, hafter, htext⟩ := firstWord hne
        exact (congrArg words htext).trans <|
          (words_word hne hword hafter).trans (congrArg _ (ih hrest))

inductive Content
  | mode (m : ModeCmdMsg)
  | coordination (m : CoordinationCommandMsg)
  | simulation (command : CentralSimCommand)

def contentOf (message : TestMessage) : Option Content :=
  if message.header.type = msgModeCommand then some (.mode (.ofData message.data))
  else if message.header.type = msgCoordinationCommand then
    some (.coordination (.ofData message.data))
  else (centralSimulationDecode message).map .simulation

def Content.withId (id : UInt16) : Content → Content
  | .mode m => .mode { m with commandId := id }
  | .coordination m => .coordination { m with commandId := id }
  | .simulation command => .simulation { command with commandId := id }

def Content.withTarget (i : Fin 6) : Content → Content
  | .mode m => .mode { m with intersectionId := UInt8.ofNat i }
  | .coordination m => .coordination { m with intersectionId := UInt8.ofNat i }
  | .simulation command => .simulation { command with target := i.val }

def Content.id : Content → UInt16
  | .mode m => m.commandId
  | .coordination m => m.commandId
  | .simulation command => command.commandId

def Content.target : Content → Nat
  | .mode m => m.intersectionId.toNat
  | .coordination m => m.intersectionId.toNat
  | .simulation command => command.target

def Content.Valid : Content → Prop
  | .mode m => modeCommandFrameValid controllerCentral controllerLocal m = true
  | .coordination m => coordinationFrameValid controllerCentral controllerLocal m = true
  | .simulation command => command.commandId ≠ 0 ∧ command.target < numIntersections

theorem Content.withTarget_withId (content : Content) (id : UInt16) (i : Fin 6) :
    (content.withId id).withTarget i = (content.withTarget i).withId id := by
  cases content <;> rfl

theorem Content.id_filled (content : Content) (id : UInt16) (i : Fin 6) :
    ((content.withId id).withTarget i).id = id := by
  cases content <;> rfl

theorem Content.target_filled (content : Content) (id : UInt16) (i : Fin 6) :
    ((content.withId id).withTarget i).target = i.val := by
  have hbyte : (UInt8.ofNat i.val).toNat = i.val :=
    UInt8.toNat_ofNat_of_lt' (i.isLt.trans (by decide))
  cases content with
  | mode m => exact hbyte
  | coordination m => exact hbyte
  | simulation command => rfl

theorem header_setId (message : TestMessage) (id : UInt16) :
    (centralCommandSetId message id).header = message.header := by
  unfold centralCommandSetId
  split
  · rfl
  · split
    · rfl
    · split <;> rfl

theorem header_setTarget (message : TestMessage) (target : Nat) :
    (centralCommandSetTarget message target).header = message.header := by
  unfold centralCommandSetTarget
  split
  · rfl
  · split
    · rfl
    · split
      · rfl
      · split <;> rfl

theorem contentOf_setId (message : TestMessage) (id : UInt16) :
    contentOf (centralCommandSetId message id) = (contentOf message).map (·.withId id) := by
  unfold contentOf
  rw [header_setId]
  unfold centralCommandSetId
  by_cases hmode : message.header.type = msgModeCommand
  · simp only [if_pos hmode, ModeCmdMsg.ofData_overwrite]
    rfl
  · by_cases hcoordination : message.header.type = msgCoordinationCommand
    · simp only [if_neg hmode, if_pos hcoordination, CoordinationCommandMsg.ofData_overwrite]
      rfl
    · simp only [if_neg hmode, if_neg hcoordination]
      cases hdecode : centralSimulationDecode message with
      | none => simp only [hdecode, Option.map_none]
      | some command =>
          have hvalid := simValid_of_centralSimulationDecode hdecode
          have hfilled : SimValid { command with commandId := id } :=
            ⟨hvalid.target, hvalid.minute, hvalid.unused⟩
          simp only [decode_encode hdecode hfilled]
          rfl

theorem contentOf_setTarget (message : TestMessage) (i : Fin 6) :
    contentOf (centralCommandSetTarget message i) = (contentOf message).map (·.withTarget i) := by
  have hopen : ¬ (i.val ≥ numIntersections ∧ i.val ≠ intersectionAll.toNat) :=
    fun h => absurd h.1 (Nat.not_le.mpr i.isLt)
  unfold contentOf
  rw [header_setTarget]
  unfold centralCommandSetTarget
  rw [if_neg hopen]
  by_cases hmode : message.header.type = msgModeCommand
  · simp only [if_pos hmode, ModeCmdMsg.ofData_overwrite]
    rfl
  · by_cases hcoordination : message.header.type = msgCoordinationCommand
    · simp only [if_neg hmode, if_pos hcoordination, CoordinationCommandMsg.ofData_overwrite]
      rfl
    · simp only [if_neg hmode, if_neg hcoordination]
      cases hdecode : centralSimulationDecode message with
      | none => simp only [hdecode, Option.map_none]
      | some command =>
          have hvalid := simValid_of_centralSimulationDecode hdecode
          have hfilled : SimValid { command with target := i.val } :=
            ⟨.inl i.isLt, hvalid.minute, hvalid.unused⟩
          simp only [decode_encode hdecode hfilled]
          rfl

theorem contentOf_stamp {message : TestMessage} {timestamp : Fin 32 → UInt8}
    (hmessage : terminated message.header.timestamp = true)
    (htimestamp : terminated timestamp = true) :
    contentOf (stamp message timestamp) = contentOf message := by
  have hdecode : centralSimulationDecode (stamp message timestamp) =
      centralSimulationDecode message := by
    unfold centralSimulationDecode stamp
    rw [hmessage, htimestamp]
  unfold contentOf
  rw [hdecode]
  rfl

theorem contentOf_cases {message : TestMessage} {content : Content}
    (h : contentOf message = some content) :
    match content with
    | .mode m => message.header.type = msgModeCommand ∧ ModeCmdMsg.ofData message.data = m
    | .coordination m => message.header.type = msgCoordinationCommand ∧
        CoordinationCommandMsg.ofData message.data = m
    | .simulation command => message.header.type = msgTest ∧
        centralSimulationDecode message = some command := by
  unfold contentOf at h
  split at h
  · rename_i htype
    obtain rfl := Option.some.inj h
    exact ⟨htype, rfl⟩
  · split at h
    · rename_i htype
      obtain rfl := Option.some.inj h
      exact ⟨htype, rfl⟩
    · obtain ⟨command, hdecode, rfl⟩ := Option.map_eq_some_iff.mp h
      exact ⟨(simHeader_of_decode hdecode).1, hdecode⟩

theorem centralCommandId_of_content {message : TestMessage} {content : Content}
    (h : contentOf message = some content) : centralCommandId message = content.id := by
  have hcases := contentOf_cases h
  unfold centralCommandId
  cases content with
  | mode m => rw [if_pos hcases.1, hcases.2]; rfl
  | coordination m => rw [if_neg (by rw [hcases.1]; decide), if_pos hcases.1, hcases.2]; rfl
  | simulation command =>
      rw [if_neg (by rw [hcases.1]; decide), if_neg (by rw [hcases.1]; decide), hcases.2]
      rfl

theorem centralCommandTarget_of_content {message : TestMessage} {content : Content}
    (h : contentOf message = some content) :
    centralCommandTarget message = content.target := by
  have hcases := contentOf_cases h
  unfold centralCommandTarget
  cases content with
  | mode m => rw [if_pos hcases.1, hcases.2]; rfl
  | coordination m => rw [if_neg (by rw [hcases.1]; decide), if_pos hcases.1, hcases.2]; rfl
  | simulation command =>
      rw [if_neg (by rw [hcases.1]; decide), if_neg (by rw [hcases.1]; decide), hcases.2]
      rfl

theorem sim_of_decode {message : TestMessage} {command : CentralSimCommand}
    (h : centralSimulationDecode message = some command) :
    [message.data 0, message.data 1, message.data 2] = ascii ['S', 'I', 'M'] := by
  rw [data_of_centralSimulationDecode h]
  unfold simulationText
  cases command.action <;> rfl

/-- A message from Central to the Locals. -/
structure ToLocal (message : TestMessage) : Prop where
  src : message.header.src = controllerCentral
  dst : message.header.dst = controllerLocal
  reserved : message.header.reserved = 0
  timestamp : terminated message.header.timestamp = true

theorem centralFrameValid_of_content {message : TestMessage} {content : Content}
    (hheader : ToLocal message) (h : contentOf message = some content) (hvalid : content.Valid) :
    centralFrameValid message controllerLocal = true := by
  have hcases := contentOf_cases h
  have hopen : ¬ (controllerValid controllerLocal = false ∨
      controllerValid message.header.src = false ∨ message.header.dst ≠ controllerLocal ∨
      message.header.reserved ≠ 0 ∨ terminated message.header.timestamp = false) := by
    rw [hheader.src, hheader.dst, hheader.reserved, hheader.timestamp]
    decide
  unfold centralFrameValid
  rw [if_neg hopen]
  dsimp only
  cases content with
  | mode m =>
      rw [hcases.1, hheader.src, hcases.2]
      exact hvalid
  | coordination m =>
      rw [hcases.1, hheader.src, hcases.2]
      exact hvalid
  | simulation command =>
      rw [if_pos hcases.1]
      unfold testValid
      rw [hcases.2]
      split
      · exact decide_eq_true hvalid
      · rename_i hother
        exact absurd ⟨hheader.src, rfl, sim_of_decode hcases.2⟩ hother

/-! ### What a line denotes -/

def OperatorCommand.content (target : Option (Fin 6)) : OperatorCommand → Content
  | .set mode => .mode ⟨0, mode.toByte, cmdSetMode, cmdPrioOperator, 0, 0⟩
  | .temporary mode seconds =>
      .mode ⟨0, mode.toByte, cmdTemporary, cmdPrioOperator, UInt16.ofNat seconds, 0⟩
  | .revert => .mode ⟨0, 0, cmdRevert, cmdPrioOperator, 0, 0⟩
  | .coordinate phase offset =>
      .coordination ⟨0, TrafficLightMode.fixed.toByte, phase.toByte, 0, UInt16.ofNat offset, 0⟩
  | .simulate action minute =>
      .simulation ⟨(target.map Fin.val).getD intersectionAll.toNat, 0, action, minute⟩

theorem isTarget_of_parseTarget {word : List UInt8} {target : Option (Fin 6)}
    (h : parseTarget word = some target) : IsTarget word target := by
  unfold parseTarget at h
  split at h
  · rename_i hall
    obtain rfl := Option.some.inj h
    exact hall ▸ .all
  · split at h
    · rename_i c _
      split at h
      · rename_i hc
        obtain rfl := Option.some.inj h
        have hbyte : c = UInt8.ofNat (49 + (c.toNat - 49)) := by
          rw [Nat.add_sub_cancel' hc.1, UInt8.ofNat_toNat]
        have hone := IsTarget.one ⟨c.toNat - 49, by omega⟩
        rwa [← hbyte] at hone
      · cases h
    · cases h

theorem isMode_of_parseMode {word : List UInt8} {mode : UInt8} (h : parseMode word = some mode) :
    ∃ named, IsMode word named ∧ mode = named.toByte := by
  unfold parseMode at h
  split at h
  · rename_i hword
    exact ⟨.fixed, hword ▸ .fixed, (Option.some.inj h).symm⟩
  · split at h
    · rename_i hword
      exact ⟨.sensor, hword ▸ .sensor, (Option.some.inj h).symm⟩
    · cases h

theorem isPhase_of_parsePhase {word : List UInt8} {phase : UInt8}
    (h : parsePhase word = some phase) :
    ∃ named, IsPhase word named ∧ phase = named.toByte := by
  unfold parsePhase at h
  split at h
  · rename_i hword
    exact ⟨.nsGreen, hword ▸ .ns, (Option.some.inj h).symm⟩
  · split at h
    · rename_i hword
      exact ⟨.ewGreen, hword ▸ .ew, (Option.some.inj h).symm⟩
    · cases h

theorem isNumber_of_parseNumber {word : List UInt8} {minimum maximum n : Nat}
    (h : parseNumber word minimum maximum = some n) :
    IsNumber word n ∧ minimum ≤ n ∧ n ≤ maximum := by
  obtain ⟨hne, hdigits, hvalue, hmin, hmax⟩ := parseNumber_some h
  exact ⟨⟨hne, hdigits, hvalue⟩, hmin, hmax⟩

theorem isNumber_twoDigits {c d : UInt8} (hc : isDigit c = true) (hd : isDigit d = true) :
    IsNumber [c, d] ((c - 48).toNat * 10 + (d - 48).toNat) := by
  have hvalue : ∀ {c : UInt8}, isDigit c = true → ((c - 48).toNat : Int) = c.toNat - 48 := by
    intro c hc
    have hmin : (48 : UInt8) ≤ c := (of_decide_eq_true hc).1
    have hsub := UInt8.toNat_sub_of_le c 48 hmin
    have hle : (48 : UInt8).toNat ≤ c.toNat := UInt8.le_iff_toNat_le.mp hmin
    have hconst : (48 : UInt8).toNat = 48 := rfl
    omega
  refine ⟨List.cons_ne_nil _ _, by simp [hc, hd], ?_⟩
  simp only [readDigits, hc, hd, if_true]
  have hcv := hvalue hc
  have hdv := hvalue hd
  omega

theorem isTime_of_parseSimulationTime {word : List UInt8} {minute : Nat}
    (h : parseSimulationTime word = some minute) : IsTime word minute := by
  unfold parseSimulationTime at h
  split at h
  · rename_i h₁ h₂ colon m₁ m₂
    split at h
    · rename_i hform
      obtain ⟨rfl, hh₁, hh₂, hm₁, hm₂⟩ := hform
      dsimp only at h
      split at h
      · cases h
      · rename_i hrange
        obtain rfl := Option.some.inj h
        rw [not_or, Nat.not_lt, Nat.not_lt] at hrange
        exact .time (isNumber_twoDigits hh₁ hh₂) (isNumber_twoDigits hm₁ hm₂) hrange.1 hrange.2
    · cases h
  · cases h

theorem contentOf_modeMessage (mode action : UInt8) (durationSec : UInt16) :
    contentOf (modeMessage mode action durationSec) =
      some (.mode ⟨0, mode, action, cmdPrioOperator, durationSec, 0⟩) := by
  have hdata := ModeCmdMsg.ofData_overwrite (fun _ => 0)
    ⟨0, mode, action, cmdPrioOperator, durationSec, 0⟩
  rw [← hdata]
  rfl

theorem contentOf_coordination (command : CoordinationCommandMsg) :
    contentOf (commandMessage msgCoordinationCommand command.toBytes) =
      some (.coordination command) := by
  have hdata := CoordinationCommandMsg.ofData_overwrite (fun _ => 0) command
  conv_rhs => rw [← hdata]
  rfl

theorem contentOf_simulationMessage (target : Option (Fin 6)) {action : CentralSimAction}
    {minute : Nat} (hminute : minute ≤ 1439) (hunused : action ≠ .time → minute = 0) :
    contentOf (simulationMessage target action minute) =
      some ((OperatorCommand.simulate action minute).content target) := by
  have hvalid : SimValid
      ⟨(target.map Fin.val).getD intersectionAll.toNat, 0, action, minute⟩ := by
    refine ⟨?_, hminute, hunused⟩
    cases target with
    | none => exact .inr rfl
    | some i => exact .inl i.isLt
  have hheader : SimHeader (simulationMessage target action minute) :=
    ⟨rfl, rfl, rfl, rfl, show terminated blankTimestamp = true by decide⟩
  have htype : (simulationMessage target action minute).header.type = msgTest := rfl
  have hdecode := centralSimulationDecode_text hheader hvalid rfl
  unfold contentOf
  rw [htype, if_neg (by decide), if_neg (by decide), hdecode]
  rfl

/-- The message of a command before it has an id. -/
structure Prepared (message : TestMessage) (target : Option (Fin 6)) (command : OperatorCommand) :
    Prop where
  toLocal : ToLocal message
  content : contentOf message = some (command.content target)

theorem toLocal_commandMessage (type : UInt16) (payload : List UInt8) :
    ToLocal (commandMessage type payload) :=
  ⟨rfl, rfl, rfl, show terminated blankTimestamp = true by decide⟩

theorem IsTime.le {word : List UInt8} {minute : Nat} (h : IsTime word minute) :
    minute ≤ 1439 := by
  cases h
  omega

theorem setWord_of_word {word : List UInt8}
    (hword : word = ascii ['m', 'o', 'd', 'e', '-', 'f', 'i', 'x', 'e', 'd'] ∨
      word = ascii ['m', 'o', 'd', 'e', '-', 's', 'e', 'n', 's', 'o', 'r']) :
    ∃ mode : TrafficLightMode, (mode = .fixed ∨ mode = .sensor) ∧ word = setWord mode ∧
      (if word = ascii ['m', 'o', 'd', 'e', '-', 'f', 'i', 'x', 'e', 'd'] then
        TrafficLightMode.fixed.toByte else TrafficLightMode.sensor.toByte) = mode.toByte := by
  rcases hword with rfl | rfl
  · exact ⟨.fixed, .inl rfl, rfl, if_pos rfl⟩
  · exact ⟨.sensor, .inr rfl, rfl, if_neg (by decide)⟩

theorem denotes_of_commandOf {parsed : List (List UInt8)} {message : TestMessage}
    {target : Option (Fin 6)} (h : commandOf parsed = some (message, target)) :
    ∃ command, Denotes parsed command target ∧ Prepared message target command := by
  have hparsed : ∀ {word : List UInt8} {make : Option (Fin 6) → TestMessage},
      (parseTarget word).map (fun target => (make target, target)) = some (message, target) →
        IsTarget word target ∧ message = make target := by
    intro word make hmap
    obtain ⟨target', htarget, heq⟩ := Option.map_eq_some_iff.mp hmap
    obtain ⟨rfl, rfl⟩ := Prod.mk.inj heq
    exact ⟨isTarget_of_parseTarget htarget, rfl⟩
  cases parsed with
  | nil => cases h
  | cons word arguments =>
      unfold commandOf at h
      dsimp only at h
      split at h
      · rename_i hword
        obtain ⟨mode, hmode, rfl, hbyte⟩ := setWord_of_word hword
        rw [hbyte] at h
        have hprepared : ∀ target, Prepared (modeMessage mode.toByte cmdSetMode 0) target
            (.set mode) := fun _ => ⟨toLocal_commandMessage _ _, contentOf_modeMessage _ _ _⟩
        split at h
        · obtain ⟨rfl, rfl⟩ := Prod.mk.inj (Option.some.inj h)
          exact ⟨_, .setAll hmode, hprepared none⟩
        · obtain ⟨htarget, rfl⟩ := hparsed h
          exact ⟨_, .set hmode htarget, hprepared target⟩
        · cases h
      · split at h
        · rename_i hword
          subst hword
          split at h
          · obtain ⟨target', htarget, h⟩ := Option.bind_eq_some_iff.mp h
            obtain ⟨seconds, hseconds, h⟩ := Option.bind_eq_some_iff.mp h
            obtain ⟨mode, hmode, h⟩ := Option.bind_eq_some_iff.mp h
            obtain ⟨rfl, rfl⟩ := Prod.mk.inj (Option.some.inj h)
            obtain ⟨named, hnamed, rfl⟩ := isMode_of_parseMode hmode
            obtain ⟨hnumber, hmin, hmax⟩ := isNumber_of_parseNumber hseconds
            exact ⟨_, .temporary (isTarget_of_parseTarget htarget) hnamed hnumber hmin hmax,
              toLocal_commandMessage _ _, contentOf_modeMessage _ _ _⟩
          · cases h
        · split at h
          · rename_i hword
            subst hword
            split at h
            · obtain ⟨htarget, rfl⟩ := hparsed h
              exact ⟨_, .revert htarget, toLocal_commandMessage _ _, contentOf_modeMessage _ _ _⟩
            · cases h
          · split at h
            · rename_i hword
              subst hword
              split at h
              · obtain ⟨target', htarget, h⟩ := Option.bind_eq_some_iff.mp h
                obtain ⟨seconds, hseconds, h⟩ := Option.bind_eq_some_iff.mp h
                obtain ⟨phase, hphase, h⟩ := Option.bind_eq_some_iff.mp h
                obtain ⟨rfl, rfl⟩ := Prod.mk.inj (Option.some.inj h)
                obtain ⟨named, hnamed, rfl⟩ := isPhase_of_parsePhase hphase
                obtain ⟨hnumber, _, hmax⟩ := isNumber_of_parseNumber hseconds
                exact ⟨_, .coordinate (isTarget_of_parseTarget htarget) hnamed hnumber
                  (Nat.lt_of_le_pred (by decide) hmax), toLocal_commandMessage _ _,
                  contentOf_coordination _⟩
              · cases h
            · split at h
              · rename_i hword
                split at h
                · obtain ⟨htarget, rfl⟩ := hparsed h
                  rcases hword with rfl | rfl
                  · exact ⟨_, .simStart htarget, toLocal_commandMessage _ _,
                      contentOf_simulationMessage target (Nat.zero_le _) fun _ => rfl⟩
                  · exact ⟨_, .simStop htarget, toLocal_commandMessage _ _,
                      contentOf_simulationMessage target (Nat.zero_le _) fun _ => rfl⟩
                · cases h
              · split at h
                · rename_i hword
                  subst hword
                  split at h
                  · obtain ⟨target', htarget, h⟩ := Option.bind_eq_some_iff.mp h
                    obtain ⟨minute, hminute, h⟩ := Option.bind_eq_some_iff.mp h
                    obtain ⟨rfl, rfl⟩ := Prod.mk.inj (Option.some.inj h)
                    have htime := isTime_of_parseSimulationTime hminute
                    exact ⟨_, .simTime (isTarget_of_parseTarget htarget) htime,
                      toLocal_commandMessage _ _,
                      contentOf_simulationMessage _ htime.le fun hne => absurd rfl hne⟩
                  · cases h
                · cases h

theorem targetValid_ofNat (i : Fin 6) : targetValid (UInt8.ofNat i) = true := by
  revert i
  decide

theorem modeCommandFrameValid_of {m : ModeCmdMsg} {i : Fin 6}
    (htarget : m.intersectionId = UInt8.ofNat i)
    (hmode : m.newMode ≤ TrafficLightMode.sensor.toByte) (haction : m.action ≤ cmdRevert)
    (hpriority : m.priority = cmdPrioOperator) (hid : m.commandId ≠ 0)
    (hduration : if m.action = cmdTemporary then m.durationSec ≠ 0 else m.durationSec = 0) :
    modeCommandFrameValid controllerCentral controllerLocal m = true := by
  apply decide_eq_true
  refine ⟨rfl, rfl, htarget ▸ targetValid_ofNat i, hmode, haction, ?_, ?_, hid, hduration⟩
  · rw [hpriority]
    decide
  · rw [hpriority]
    decide

theorem valid_of_denotes {parsed : List (List UInt8)} {command : OperatorCommand}
    {target : Option (Fin 6)} (h : Denotes parsed command target) {id : UInt16} (hid : id ≠ 0)
    (i : Fin 6) : (((command.content target).withId id).withTarget i).Valid := by
  have hset : ∀ {mode : TrafficLightMode}, mode = .fixed ∨ mode = .sensor →
      mode.toByte ≤ TrafficLightMode.sensor.toByte := by
    rintro mode (rfl | rfl) <;> decide
  cases h with
  | setAll hmode =>
      exact modeCommandFrameValid_of (i := i) rfl (hset hmode)
        (show cmdSetMode ≤ cmdRevert by decide) rfl hid rfl
  | set hmode _ =>
      exact modeCommandFrameValid_of (i := i) rfl (hset hmode)
        (show cmdSetMode ≤ cmdRevert by decide) rfl hid rfl
  | temporary _ hmode _ hmin hmax =>
      refine modeCommandFrameValid_of (i := i) rfl (hset ?_)
        (show cmdTemporary ≤ cmdRevert by decide) rfl hid ?_
      · cases hmode with
        | fixed => exact .inl rfl
        | sensor => exact .inr rfl
      · show UInt16.ofNat _ ≠ 0
        intro hzero
        have htoNat := congrArg UInt16.toNat hzero
        rw [UInt16.toNat_ofNat_of_lt' (Nat.lt_succ_of_le hmax)] at htoNat
        exact absurd htoNat (Nat.ne_of_gt hmin)
  | revert _ =>
      exact modeCommandFrameValid_of (i := i) rfl (show (0 : UInt8) ≤ _ by decide)
        (show cmdRevert ≤ cmdRevert by decide) rfl hid rfl
  | coordinate _ hphase _ hmax =>
      apply decide_eq_true
      refine ⟨rfl, rfl, targetValid_ofNat i, rfl, ?_, rfl, hid, ?_⟩
      · cases hphase with
        | ns => exact .inl rfl
        | ew => exact .inr rfl
      · show (UInt16.ofNat _).toNat < _
        rwa [UInt16.toNat_ofNat_of_lt' (hmax.trans (by decide))]
  | simStart _ => exact ⟨hid, i.isLt⟩
  | simStop _ => exact ⟨hid, i.isLt⟩
  | simTime _ _ => exact ⟨hid, i.isLt⟩

theorem expresses_of_content {message : TestMessage} {parsed : List (List UInt8)}
    {command : OperatorCommand} {target : Option (Fin 6)} (h : Denotes parsed command target)
    {id : UInt16} {i : Fin 6}
    (hcontent : contentOf message =
      some (((command.content target).withId id).withTarget i)) :
    Expresses message command := by
  have hcases := contentOf_cases hcontent
  cases h with
  | setAll _ =>
      obtain ⟨htype, hdata⟩ := hcases
      exact ⟨htype, by simp only [hdata, true_and]⟩
  | set _ _ =>
      obtain ⟨htype, hdata⟩ := hcases
      exact ⟨htype, by simp only [hdata, true_and]⟩
  | temporary _ _ _ _ hmax =>
      obtain ⟨htype, hdata⟩ := hcases
      refine ⟨htype, ?_⟩
      simp only [hdata, true_and]
      exact UInt16.toNat_ofNat_of_lt' (Nat.lt_succ_of_le hmax)
  | revert _ =>
      obtain ⟨htype, hdata⟩ := hcases
      exact ⟨htype, by simp only [hdata, true_and]⟩
  | coordinate _ _ _ hmax =>
      obtain ⟨htype, hdata⟩ := hcases
      refine ⟨htype, ?_⟩
      simp only [hdata, true_and]
      exact UInt16.toNat_ofNat_of_lt' (hmax.trans (by decide))
  | simStart _ => exact ⟨hcases.1, _, hcases.2, rfl, rfl⟩
  | simStop _ => exact ⟨hcases.1, _, hcases.2, rfl, rfl⟩
  | simTime _ _ => exact ⟨hcases.1, _, hcases.2, rfl, rfl⟩

/-- A message with the id and the target filled in. -/
structure Sent (message : TestMessage) (command : OperatorCommand) (id : UInt16) (i : Fin 6) :
    Prop where
  valid : centralFrameValid message controllerLocal = true
  id : centralCommandId message = id
  target : centralCommandTarget message = i.val
  expresses : Expresses message command

theorem sent_of_content {message : TestMessage} {parsed : List (List UInt8)}
    {command : OperatorCommand} {target : Option (Fin 6)} (h : Denotes parsed command target)
    {id : UInt16} (hid : id ≠ 0) {i : Fin 6} (hheader : ToLocal message)
    (hcontent : contentOf message =
      some (((command.content target).withId id).withTarget i)) :
    Sent message command id i where
  valid := centralFrameValid_of_content hheader hcontent (valid_of_denotes h hid i)
  id := (centralCommandId_of_content hcontent).trans (Content.id_filled _ _ _)
  target := (centralCommandTarget_of_content hcontent).trans (Content.target_filled _ _ _)
  expresses := expresses_of_content h hcontent

theorem denotes_of_parse {line : List UInt8} {message : TestMessage} {target : Option (Fin 6)}
    (h : centralParseCommand line = some (message, target)) :
    ∃ command, Denotes (words (line.takeWhile (· ≠ 0))) command target ∧
      Prepared message target command := by
  unfold centralParseCommand at h
  dsimp only at h
  split at h
  · cases h
  · obtain ⟨parsed, hwords, hcommand⟩ := Option.bind_eq_some_iff.mp h
    rw [words_of_commandWords hwords]
    exact denotes_of_commandOf hcommand

theorem ToLocal.of_header {message message' : TestMessage} (h : ToLocal message)
    (hheader : message'.header = message.header) : ToLocal message' :=
  ⟨hheader ▸ h.src, hheader ▸ h.dst, hheader ▸ h.reserved, hheader ▸ h.timestamp⟩

theorem ToLocal.stamp {message : TestMessage} {timestamp : Fin 32 → UInt8} (h : ToLocal message)
    (htimestamp : terminated timestamp = true) : ToLocal (stamp message timestamp) :=
  ⟨h.src, h.dst, h.reserved, htimestamp⟩

theorem filled {message : TestMessage} {content : Content} (hheader : ToLocal message)
    (hcontent : contentOf message = some content) (id : UInt16) (i : Fin 6) :
    (ToLocal (centralCommandSetTarget (centralCommandSetId message id) i) ∧
      contentOf (centralCommandSetTarget (centralCommandSetId message id) i) =
        some ((content.withId id).withTarget i)) ∧
    ToLocal (centralCommandSetId (centralCommandSetTarget message i) id) ∧
      contentOf (centralCommandSetId (centralCommandSetTarget message i) id) =
        some ((content.withId id).withTarget i) := by
  refine ⟨⟨hheader.of_header ?_, ?_⟩, hheader.of_header ?_, ?_⟩
  · rw [header_setTarget, header_setId]
  · rw [contentOf_setTarget, contentOf_setId, hcontent]
    rfl
  · rw [header_setId, header_setTarget]
  · rw [contentOf_setId, contentOf_setTarget, hcontent, Content.withTarget_withId]
    rfl

theorem Prepared.sent {message : TestMessage} {target : Option (Fin 6)}
    {command : OperatorCommand} (h : Prepared message target command)
    {parsed : List (List UInt8)} (hdenotes : Denotes parsed command target) {id : UInt16}
    (hid : id ≠ 0) (i : Fin 6) {timestamp : Fin 32 → UInt8}
    (htimestamp : terminated timestamp = true) :
    Sent (stamp (centralCommandSetTarget (centralCommandSetId message id) i) timestamp)
        command id i ∧
      Sent (stamp (centralCommandSetId (centralCommandSetTarget message i) id) timestamp)
        command id i ∧
      Sent (centralCommandSetTarget (centralCommandSetId (stamp message timestamp) id) i)
        command id i ∧
      Sent (centralCommandSetId (centralCommandSetTarget (stamp message timestamp) i) id)
        command id i := by
  have hsent : ∀ {m : TestMessage}, ToLocal m ∧
      contentOf m = some (((command.content target).withId id).withTarget i) →
        Sent m command id i := fun hm => sent_of_content hdenotes hid hm.1 hm.2
  have hstamped : ∀ {m : TestMessage}, ToLocal m ∧
      contentOf m = some (((command.content target).withId id).withTarget i) →
        Sent (stamp m timestamp) command id i := fun hm =>
    hsent ⟨hm.1.stamp htimestamp, (contentOf_stamp hm.1.timestamp htimestamp).trans hm.2⟩
  obtain ⟨hafterId, hafterTarget⟩ := filled h.toLocal h.content id i
  obtain ⟨hafterId', hafterTarget'⟩ := filled (h.toLocal.stamp htimestamp)
    ((contentOf_stamp h.toLocal.timestamp htimestamp).trans h.content) id i
  exact ⟨hstamped hafterId, hstamped hafterTarget, hsent hafterId', hsent hafterTarget'⟩

/-- Every line that is accepted becomes a valid message of what it denotes, in
whichever order the id and the target are set and whether the timestamp is set before
or after; a line that is not accepted leaves the message and the target alone. -/
theorem parsed_command_sent (line : List UInt8) (old : TestMessage) (oldTarget : Nat) :
    (∀ message target, parseCommandCall line old oldTarget = (true, message, target) →
      ∃ command selected, Denotes (words (line.takeWhile (· ≠ 0))) command selected ∧
        target = (selected.map Fin.val).getD intersectionAll.toNat ∧
        ∀ (id : UInt16) (i : Fin 6) (timestamp : Fin 32 → UInt8), id ≠ 0 →
          terminated timestamp = true →
            Sent (stamp (centralCommandSetTarget (centralCommandSetId message id) i) timestamp)
                command id i ∧
              Sent (stamp (centralCommandSetId (centralCommandSetTarget message i) id) timestamp)
                command id i ∧
              Sent (centralCommandSetTarget (centralCommandSetId (stamp message timestamp) id) i)
                command id i ∧
              Sent (centralCommandSetId (centralCommandSetTarget (stamp message timestamp) i) id)
                command id i) ∧
    ∀ message target, parseCommandCall line old oldTarget = (false, message, target) →
      message = old ∧ target = oldTarget := by
  unfold parseCommandCall
  cases hparse : centralParseCommand line with
  | none =>
      refine ⟨nofun, ?_⟩
      rintro message target ⟨⟩
      exact ⟨rfl, rfl⟩
  | some parsed =>
      refine ⟨?_, nofun⟩
      rintro message target ⟨⟩
      obtain ⟨message, selected⟩ := parsed
      obtain ⟨command, hdenotes, hprepared⟩ := denotes_of_parse hparse
      refine ⟨command, selected, hdenotes, rfl, ?_⟩
      intro id i timestamp hid htimestamp
      exact hprepared.sent hdenotes hid i htimestamp

theorem parsed_command_sent_modeFixed :
    (∃ command selected, Denotes (words modeFixedLine) command selected ∧
      Sent (centralCommandSetId (centralCommandSetTarget
        (stamp (modeMessage 0 cmdSetMode 0) blankTimestamp) 2) 7) command 7 2) ∧
    (parseCommandCall [] (modeMessage 0 cmdSetMode 0) 4).2 = (modeMessage 0 cmdSetMode 0, 4) := by
  have hcall : parseCommandCall modeFixedLine (modeMessage 0 cmdSetMode 0) 4 =
      (true, modeMessage 0 cmdSetMode 0, 0) := by
    unfold parseCommandCall
    rw [modeFixedLine_parsed]
    rfl
  obtain ⟨command, selected, hdenotes, _, hsent⟩ :=
    (parsed_command_sent modeFixedLine (modeMessage 0 cmdSetMode 0) 4).1 _ _ hcall
  have hrejected := (parsed_command_sent [] (modeMessage 0 cmdSetMode 0) 4).2 _ _ rfl
  exact ⟨⟨command, selected, hdenotes,
    (hsent 7 2 blankTimestamp (by decide) (by decide)).2.2.2⟩, Prod.ext hrejected.1 hrejected.2⟩

end TrafficLight.OperatorCommands
