import Mathlib.Data.List.DropRight
import TrafficLight.OperatorCommands
import TrafficLight.SimInvariant

namespace TrafficLight.ConsoleCommands

open TrafficLight.Runs
open TrafficLight.Protocol
open TrafficLight.CrossingMachine
open TrafficLight.Slots
open TrafficLight.RailSimulator
open TrafficLight.Decimal
open TrafficLight.SimCommands
open TrafficLight.SimTrains
open TrafficLight.SimInvariant
open TrafficLight.TrainCommands
open TrafficLight.OperatorCommands

/-- A crossing at the console may also be named by its number alone. -/
def CrossingWord (word : List UInt8) (i : Fin 3) : Prop :=
  IsCrossing word i ∨ word = [crossingDigit i]

/-- The words of a text spell an operation. -/
inductive Spells : List (List UInt8) → TrainOperation → Prop
  | line (dir : TrackDirection) : Spells [lineWord dir] (.line dir)
  | both : Spells [ascii ['t', 'r', 'a', 'i', 'n', '-', 'b', 'o', 't', 'h']] .both
  | train {p d : List UInt8} {i : Fin 3} {dir : TrackDirection} (noExit : Bool)
      (hcrossing : CrossingWord p i) (hdirection : IsDirection d dir) :
      Spells [trainWord noExit, p, d] (.train i dir noExit)
  | numberedFault {p : List UInt8} {i : Fin 3} (hcrossing : IsCrossing p i) :
      Spells [p ++ ascii ['-', 'f', 'a', 'u', 'l', 't']] (.fault i)
  | fault {p : List UInt8} {i : Fin 3} (hcrossing : CrossingWord p i) :
      Spells [ascii ['f', 'a', 'u', 'l', 't'], p] (.fault i)
  | reset {p : List UInt8} {i : Fin 3} (hcrossing : CrossingWord p i) :
      Spells [ascii ['r', 'e', 's', 'e', 't'], p] (.reset i)
  | scale {digits : List UInt8} {n : Nat} (hnumber : IsNumber digits n) (hmin : 1 ≤ n)
      (hmax : n ≤ 100) : Spells [ascii ['s', 'c', 'a', 'l', 'e'], digits] (.scale n)

structure Unchanged (sim sim' : RailSim) : Prop where
  crossings : sim'.crossings = sim.crossings
  events : sim'.events = sim.events
  timeScale : sim'.timeScale = sim.timeScale

/-- A command did nothing, or what its words spell. -/
def ActsAsWritten (cmd : List UInt8) (sim sim' : RailSim) : Prop :=
  Unchanged sim sim' ∨ ∃ op, Spells (words cmd) op ∧ sim' = op.effect sim

def IsInt (n : Int) : Prop := -2147483648 ≤ n ∧ n ≤ 2147483647

instance (n : Int) : Decidable (IsInt n) := inferInstanceAs (Decidable (_ ∧ _))

/-- The request as a platform reads it. What `atoi` returns for a number that no
`int` holds is left open by C, so every platform has its own `overflow`. -/
def platformRequest (overflow : Int → Int) : SimRequest → SimRequest
  | .scale n => .scale (if IsInt n then n else overflow n)
  | request => request

def platformCommand (overflow : Int → Int) (sim : RailSim) (cmd : List UInt8) : SimResult :=
  perform sim (platformRequest overflow (requestOf cmd))

def platformStep (overflow : Int → Int) (sim : RailSim) : SimStep → RailSim
  | .tick => railSimTick sim
  | .command cmd => (platformCommand overflow sim cmd).sim

/-- The words behind `train` or `noexit`, where not all of them is read. -/
inductive LooseTrain : List (List UInt8) → Prop
  /-- the direction is no direction, and up is assumed -/
  | noDirection {p d : List UInt8} {i : Fin 3} (hcrossing : CrossingWord p i)
      (hdirection : ∀ dir, ¬ IsDirection d dir) : LooseTrain [p, d]
  /-- there are words behind the direction -/
  | moreWords {p d e : List UInt8} {rest : List (List UInt8)} {i : Fin 3}
      (hcrossing : CrossingWord p i) : LooseTrain (p :: d :: e :: rest)
  /-- there are characters behind the number of the crossing -/
  | longCrossing {p tail d : List UInt8} {rest : List (List UInt8)} {i : Fin 3}
      (hcrossing : CrossingWord p i) (htail : tail ≠ []) : LooseTrain ((p ++ tail) :: d :: rest)
  /-- they are so many that `%15s` leaves some of them for the direction -/
  | cutCrossing {p tail : List UInt8} {i : Fin 3} (hcrossing : CrossingWord p i)
      (hlong : 15 < (p ++ tail).length) : LooseTrain [p ++ tail]

/-- What is left of a text behind the digits it starts with. -/
def afterDigits (text : List UInt8) : List UInt8 := (text.dropWhile isSpace).dropWhile isDigit

/-- The text behind `scale`, where it is taken for a number that it is not. -/
inductive LooseNumber (text : List UInt8) : Prop
  | noInt (hvalue : ¬ IsInt (atoi text))
  | moreText (hmin : 1 ≤ atoi text) (hmax : atoi text ≤ 100) (hmore : words (afterDigits text) ≠ [])

/-- A text without leading spaces that acts and is no command. -/
inductive Loose : List UInt8 → Prop
  | train (noExit : Bool) {args : List UInt8} (hargs : LooseTrain (words args)) :
      Loose (trainWord noExit ++ 32 :: args)
  | fault {p tail : List UInt8} {i : Fin 3} (hcrossing : CrossingWord p i)
      (htail : words tail ≠ []) :
      Loose (ascii ['f', 'a', 'u', 'l', 't'] ++ 32 :: (p ++ tail))
  | reset {p tail : List UInt8} {i : Fin 3} (hcrossing : CrossingWord p i)
      (htail : words tail ≠ []) :
      Loose (ascii ['r', 'e', 's', 'e', 't'] ++ 32 :: (p ++ tail))
  | scale {args : List UInt8} (hnumber : LooseNumber args) :
      Loose (ascii ['s', 'c', 'a', 'l', 'e'] ++ 32 :: args)

/-! ### What is asked for -/

/-- The crossing of a number, by the numbers the simulator starts with. -/
def crossingOf (id : Option UInt8) : Option (Fin 3) :=
  id.bind fun id => (List.finRange 3).find? fun i => UInt8.ofNat (i + 1) = id

/-- The operation that a request asks for. -/
def asked : SimRequest → Option TrainOperation
  | .trainBoth => some .both
  | .trainLine dir => some (.line dir)
  | .trainAt arg1 dir noExit => (crossingOf (parseCrossingId arg1)).map fun i => .train i dir noExit
  | .faultNumbered id => (crossingOf (some id)).map .fault
  | .fault id => (crossingOf id).map .fault
  | .reset id => (crossingOf id).map .reset
  | .scale n => if 1 ≤ n ∧ n ≤ 100 then some (.scale n.toNat) else none
  | _ => none

theorem findCrossing_eq {sim : RailSim} (h : Numbered sim) (id : Option UInt8) :
    findCrossing sim id = crossingOf id := by
  have hids : ∀ i, (sim.crossings i).id = UInt8.ofNat (i + 1) := h
  simp only [findCrossing, crossingOf, hids]

theorem Unchanged.refl (sim : RailSim) : Unchanged sim sim := ⟨rfl, rfl, rfl⟩

/-- The state after a request is the one before, or the one that is asked for. -/
def Asked (sim : RailSim) (op : Option TrainOperation) (sim' : RailSim) : Prop :=
  sim' = sim ∨ ∃ op', op = some op' ∧ sim' = op'.effect sim

theorem asked_unlessRefused {sim : RailSim} {dir : TrackDirection} {op : Option TrainOperation}
    {refusal : Option TrainRefusal} {started : SimResult} (h : Asked sim op started.sim) :
    Asked sim op (unlessRefused sim dir refusal started).sim := by
  cases refusal with
  | some refusal => exact .inl rfl
  | none => exact h

theorem asked_commandEvent {sim : RailSim} (h : Numbered sim) {id : Option UInt8}
    {event : CrossingEvent} {op : Fin 3 → TrainOperation} (done missing : SimReply)
    (heffect : ∀ i, (op i).effect sim = handle sim i event) :
    Asked sim ((crossingOf id).map op) (commandEvent sim id event done missing).sim := by
  unfold commandEvent
  rw [findCrossing_eq h]
  cases crossingOf id with
  | none => exact .inl rfl
  | some i => exact .inr ⟨op i, rfl, (heffect i).symm⟩

theorem asked_perform {sim : RailSim} (h : Numbered sim) (request : SimRequest) :
    Asked sim (asked request) (perform sim request).sim := by
  cases request with
  | empty | status | help | unknown => exact .inl rfl
  | trainBoth => exact asked_unlessRefused (asked_unlessRefused (.inr ⟨_, rfl, rfl⟩))
  | trainLine dir => exact asked_unlessRefused (.inr ⟨_, rfl, rfl⟩)
  | trainAt arg1 dir noExit =>
      rw [asked, ← findCrossing_eq h]
      show Asked sim _ (trainAtCrossing sim arg1 dir noExit _).sim
      cases findCrossing sim (parseCrossingId arg1) with
      | none => exact .inl rfl
      | some i => exact asked_unlessRefused (.inr ⟨_, rfl, rfl⟩)
  | faultNumbered id => exact asked_commandEvent h _ _ fun _ => rfl
  | fault id => exact asked_commandEvent h _ _ fun _ => rfl
  | reset id => exact asked_commandEvent h _ _ fun _ => rfl
  | scale n =>
      rw [asked, perform_scale]
      by_cases hn : 1 ≤ n ∧ n ≤ 100
      · rw [if_pos hn, if_pos hn]
        refine .inr ⟨_, rfl, ?_⟩
        show setTimeScale sim n = { sim with timeScale := (n.toNat : Int) }
        rw [setTimeScale, if_pos hn, Int.toNat_of_nonneg (by omega)]
      · rw [if_neg hn, if_neg hn]
        exact .inl rfl

theorem crossingOf_number : ∀ i : Fin 3, crossingOf (some (UInt8.ofNat (i + 1))) = some i := by
  decide

theorem digitId_crossingDigit (i : Fin 3) (tail : List UInt8) :
    digitId (crossingDigit i :: tail) = some (UInt8.ofNat (i + 1)) := by
  rw [digitId]
  revert i
  decide

theorem crossingOf_digitId {c : UInt8} {tail : List UInt8} {i : Fin 3}
    (h : crossingOf (digitId (c :: tail)) = some i) : c = crossingDigit i := by
  by_cases hc : 49 ≤ c ∧ c ≤ 51
  · obtain ⟨j, rfl⟩ := exists_crossingDigit hc.1 hc.2
    rw [digitId_crossingDigit, crossingOf_number] at h
    rw [Option.some.inj h]
  · rw [digitId, if_neg hc] at h
    cases h

theorem crossingOf_parseCrossingId {text : List UInt8} {i : Fin 3}
    (h : crossingOf (parseCrossingId text) = some i) :
    ∃ p tail, CrossingWord p i ∧ text = p ++ tail := by
  have hletter : ∀ {p : UInt8} {rest : List UInt8}, p = 80 ∨ p = 112 →
      crossingOf (digitId rest) = some i → ∃ w tail, CrossingWord w i ∧ p :: rest = w ++ tail := by
    intro p rest hp hrest
    cases rest with
    | nil => cases hrest
    | cons c tail =>
        obtain rfl := crossingOf_digitId hrest
        refine ⟨[p, crossingDigit i], tail, .inl ?_, rfl⟩
        rcases hp with rfl | rfl
        · exact .inl rfl
        · exact .inr rfl
  unfold parseCrossingId at h
  split at h
  · exact hletter (.inl rfl) h
  · exact hletter (.inr rfl) h
  · cases text with
    | nil => cases h
    | cons c tail =>
        obtain rfl := crossingOf_digitId h
        exact ⟨[crossingDigit i], tail, .inr rfl, rfl⟩

theorem crossingDigit_ne : ∀ i : Fin 3, crossingDigit i ≠ 80 ∧ crossingDigit i ≠ 112 := by
  decide

theorem crossingOf_crossingWord {p : List UInt8} {i : Fin 3} (h : CrossingWord p i)
    (tail : List UInt8) : crossingOf (parseCrossingId (p ++ tail)) = some i := by
  have hdigit : crossingOf (digitId (crossingDigit i :: tail)) = some i := by
    rw [digitId_crossingDigit, crossingOf_number]
  rcases h with (rfl | rfl) | rfl
  · exact hdigit
  · exact hdigit
  · show crossingOf (parseCrossingId (crossingDigit i :: tail)) = some i
    unfold parseCrossingId
    split
    · rename_i hp
      exact absurd (List.cons.inj hp).1 (crossingDigit_ne i).1
    · rename_i hp
      exact absurd (List.cons.inj hp).1 (crossingDigit_ne i).2
    · exact hdigit

theorem crossingWord_length {p : List UInt8} {i : Fin 3} (h : CrossingWord p i) :
    p.length ≤ 2 := by
  rcases h with (rfl | rfl) | rfl
  · exact le_refl 2
  · exact le_refl 2
  · exact Nat.le_succ 1

theorem crossingWord_append {p tail : List UInt8} {i j : Fin 3} (h : CrossingWord p i)
    (h' : CrossingWord (p ++ tail) j) : tail = [] := by
  have hlength := crossingWord_length h'
  rcases h with (rfl | rfl) | rfl
  · simpa using hlength
  · simpa using hlength
  · rcases h' with (hp | hp) | hp
    · exact absurd (List.cons.inj hp).1 (crossingDigit_ne i).1
    · exact absurd (List.cons.inj hp).1 (crossingDigit_ne i).2
    · exact (List.cons.inj hp).2

theorem crossingWord_ne_nil {p : List UInt8} {i : Fin 3} (h : CrossingWord p i) : p ≠ [] := by
  rcases h with (rfl | rfl) | rfl <;> exact List.cons_ne_nil _ _

theorem noSpace_of_all {word : List UInt8} (h : (word.all fun c => !isSpace c) = true) :
    ∀ c ∈ word, isSpace c = false := by
  intro c hc
  have hall := List.all_eq_true.mp h c hc
  rwa [Bool.not_eq_true'] at hall

theorem crossingWord_noSpace {p : List UInt8} {i : Fin 3} (h : CrossingWord p i) :
    ∀ c ∈ p, isSpace c = false := by
  apply noSpace_of_all
  rcases h with (rfl | rfl) | rfl
  · revert i
    decide
  · revert i
    decide
  · revert i
    decide

theorem words_cons {text first : List UInt8} {rest : List (List UInt8)}
    (h : words text = first :: rest) :
    ∃ after, text.dropWhile isSpace = first ++ after ∧ words after = rest ∧ first ≠ [] ∧
      (∀ c ∈ first, isSpace c = false) ∧ ∀ c, after.head? = some c → isSpace c = true := by
  rw [← words_dropWhile] at h
  by_cases hblank : text.dropWhile isSpace = []
  · rw [hblank] at h
    cases h
  · obtain ⟨hne, hword, hafter, htext⟩ := firstWord hblank
    have hwords := (congrArg words htext).symm.trans h
    rw [words_word hne hword hafter] at hwords
    obtain ⟨rfl, hrest⟩ := List.cons.inj hwords
    exact ⟨_, htext, hrest, hne, hword, hafter⟩

theorem words_nil {text : List UInt8} (h : words text = []) : text.dropWhile isSpace = [] := by
  by_contra hne
  obtain ⟨hword, hspace, hafter, htext⟩ := firstWord hne
  rw [← words_dropWhile, htext, words_word hword hspace hafter] at h
  cases h

theorem head_of_words_nil {text : List UInt8} (h : words text = []) :
    ∀ c, text.head? = some c → isSpace c = true := by
  intro c hc
  have hall := List.dropWhile_eq_nil_iff.mp (words_nil h)
  exact hall c (List.mem_of_mem_head? hc)

theorem scanWord_of_words {text first : List UInt8} {rest : List (List UInt8)}
    (h : words text = first :: rest) :
    ∃ after, scanWord text = some (first.take 15, after) ∧
      words after = if 15 < first.length then first.drop 15 :: rest else rest := by
  obtain ⟨after, htext, rfl, hne, hword, hafter⟩ := words_cons h
  have htake : (first ++ after).takeWhile (fun c => ! isSpace c) = first := by
    rw [List.takeWhile_append_of_pos (by simpa using hword)]
    cases after with
    | nil => simp
    | cons c after => simp [hafter c rfl]
  have hdrop : (first ++ after).drop (first.take 15).length = first.drop 15 ++ after := by
    conv_lhs => rw [← List.take_append_drop 15 first, List.append_assoc]
    rw [List.take_append_drop, List.drop_left]
  refine ⟨first.drop 15 ++ after, ?_, ?_⟩
  · have hsome : first.take 15 ≠ [] := by simpa using hne
    unfold scanWord
    dsimp only
    rw [htext, htake, if_neg hsome, hdrop]
  · split
    · rename_i hlong
      refine words_word ?_ (fun c hc => hword c (List.mem_of_mem_drop hc)) hafter
      simpa using hlong
    · rename_i hshort
      rw [List.drop_eq_nil_of_le (not_lt.mp hshort), List.nil_append]

theorem scanWord_of_blank {text : List UInt8} (h : words text = []) : scanWord text = none := by
  unfold scanWord
  dsimp only
  rw [words_nil h]
  rfl

theorem scanTwo_eq_some {text first : List UInt8} {rest : List (List UInt8)}
    (h : words text = first :: rest) (hmore : 15 < first.length ∨ rest ≠ []) :
    ∃ arg2, scanTwo text = some (first.take 15, arg2) := by
  obtain ⟨after, hscan, hafter⟩ := scanWord_of_words h
  have hsecond : ∃ second more, words after = second :: more := by
    rw [hafter]
    split
    · exact ⟨_, _, rfl⟩
    · rename_i hshort
      exact List.exists_cons_of_ne_nil (hmore.resolve_left hshort)
  obtain ⟨second, more, hsecond⟩ := hsecond
  obtain ⟨after', hscan', -⟩ := scanWord_of_words hsecond
  refine ⟨second.take 15, ?_⟩
  unfold scanTwo
  rw [hscan]
  dsimp only
  rw [hscan']

theorem scanTwo_some {text arg1 arg2 : List UInt8} (h : scanTwo text = some (arg1, arg2)) :
    ∃ first rest, words text = first :: rest ∧ arg1 = first.take 15 ∧
      (15 < first.length ∨ ∃ second more, rest = second :: more ∧ arg2 = second.take 15) := by
  cases hwords : words text with
  | nil =>
      rw [scanTwo, scanWord_of_blank hwords] at h
      cases h
  | cons first rest =>
      obtain ⟨after, hscan, hafter⟩ := scanWord_of_words hwords
      rw [scanTwo, hscan] at h
      dsimp only at h
      by_cases hlong : 15 < first.length
      · cases hscan' : scanWord after with
        | none =>
            rw [hscan'] at h
            cases h
        | some found =>
            rw [hscan'] at h
            obtain ⟨harg, -⟩ := Prod.mk.inj (Option.some.inj h)
            exact ⟨first, rest, rfl, harg.symm, .inl hlong⟩
      · rw [if_neg hlong] at hafter
        cases rest with
        | nil =>
            rw [scanWord_of_blank hafter] at h
            cases h
        | cons second more =>
            obtain ⟨after', hscan', -⟩ := scanWord_of_words hafter
            rw [hscan'] at h
            obtain ⟨harg, harg'⟩ := Prod.mk.inj (Option.some.inj h)
            exact ⟨first, _, rfl, harg.symm, .inr ⟨second, more, rfl, harg'.symm⟩⟩

theorem readDigits_append {digits rest : List UInt8} (hdigits : ∀ c ∈ digits, isDigit c = true)
    (hrest : ∀ c, rest.head? = some c → isDigit c = false) (value : Int) :
    readDigits value (digits ++ rest) = readDigits value digits := by
  induction digits generalizing value with
  | nil =>
      cases rest with
      | nil => rfl
      | cons c rest =>
          show readDigits value (c :: rest) = value
          rw [readDigits, if_neg (by simp [hrest c rfl])]
  | cons c digits ih =>
      obtain ⟨hc, hdigits⟩ := List.forall_mem_cons.mp hdigits
      rw [List.cons_append, readDigits, readDigits, if_pos hc, if_pos hc, ih hdigits]

theorem isDigit_bounds {c : UInt8} (h : isDigit c = true) : 48 ≤ c.toNat ∧ c.toNat ≤ 57 := by
  simp only [isDigit, decide_eq_true_eq, UInt8.le_iff_toNat_le] at h
  exact h

theorem isDigit_of_isSpace {c : UInt8} (h : isSpace c = true) : isDigit c = false := by
  by_contra hdigit
  obtain ⟨hmin, -⟩ := isDigit_bounds (by simpa using hdigit)
  simp only [isSpace, decide_eq_true_eq, UInt8.le_iff_toNat_le] at h
  rcases h with rfl | ⟨-, hmax⟩
  · exact absurd hmin (by decide)
  · have hconst : (13 : UInt8).toNat = 13 := rfl
    omega

theorem atoi_digits {text digits after : List UInt8}
    (htext : text.dropWhile isSpace = digits ++ after) (hne : digits ≠ [])
    (hdigits : ∀ c ∈ digits, isDigit c = true)
    (hafter : ∀ c, after.head? = some c → isDigit c = false) :
    atoi text = readDigits 0 digits ∧ afterDigits text = after := by
  constructor
  · obtain ⟨c, digits, rfl⟩ := List.exists_cons_of_ne_nil hne
    have hread := readDigits_append hdigits hafter 0
    obtain ⟨hmin, -⟩ := isDigit_bounds (List.forall_mem_cons.mp hdigits).1
    rw [← hread, atoi, htext]
    split
    · rename_i hminus
      rw [(List.cons.inj hminus).1] at hmin
      exact absurd hmin (by decide)
    · rename_i hplus
      rw [(List.cons.inj hplus).1] at hmin
      exact absurd hmin (by decide)
    · rfl
  · rw [afterDigits, htext, List.dropWhile_append_of_pos hdigits]
    cases after with
    | nil => rfl
    | cons c after => rw [List.dropWhile_cons_of_neg (by simp [hafter c rfl])]

theorem isSpace_of_isDigit {c : UInt8} (h : isDigit c = true) : isSpace c = false := by
  by_contra hspace
  rw [isDigit_of_isSpace (by simpa using hspace)] at h
  cases h

theorem numeral_of_atoi {text : List UInt8} (hmin : 1 ≤ atoi text)
    (hmore : words (afterDigits text) = []) :
    ∃ digits, words text = [digits] ∧ IsNumber digits (atoi text).toNat := by
  obtain ⟨digits, htext, hdigits⟩ : ∃ digits, text.dropWhile isSpace = digits ++ afterDigits text ∧
      ∀ c ∈ digits, isDigit c = true :=
    ⟨_, List.takeWhile_append_dropWhile.symm, fun c hc => List.mem_takeWhile_imp hc⟩
  have hspace := head_of_words_nil hmore
  by_cases hne : digits = []
  · rw [hne, List.nil_append] at htext
    rw [← htext, words_dropWhile] at hmore
    rw [atoi, words_nil hmore] at hmin
    exact absurd hmin (by decide)
  · obtain ⟨hvalue, -⟩ := atoi_digits htext hne hdigits fun c hc => isDigit_of_isSpace (hspace c hc)
    refine ⟨digits, ?_, hne, hdigits, ?_⟩
    · rw [← words_dropWhile, htext,
        words_word hne (fun c hc => isSpace_of_isDigit (hdigits c hc)) hspace, hmore]
    · rw [Int.toNat_of_nonneg (by omega), hvalue]

theorem atoi_numeral {text digits : List UInt8} {n : Nat} (hwords : words text = [digits])
    (hnumber : IsNumber digits n) : atoi text = n ∧ words (afterDigits text) = [] := by
  obtain ⟨after, htext, hrest, hne, -, hafter⟩ := words_cons hwords
  obtain ⟨hvalue, hdigits⟩ := atoi_digits htext hne hnumber.digits
    fun c hc => isDigit_of_isSpace (hafter c hc)
  exact ⟨hvalue.trans hnumber.value, hdigits ▸ hrest⟩

theorem afterWord_some {word text rest : List UInt8} (h : afterWord word text = some rest) :
    text = word ++ rest := by
  unfold afterWord at h
  split at h
  · rename_i hprefix
    obtain ⟨rest', rfl⟩ := List.isPrefixOf_iff_prefix.mp hprefix
    obtain rfl := Option.some.inj h
    rw [List.drop_left]
  · cases h

theorem words_command {word : List UInt8} (hne : word ≠ [])
    (hword : ∀ c ∈ word, isSpace c = false) (args : List UInt8) :
    words (word ++ 32 :: args) = word :: words args := by
  rw [words_word hne hword, words_space (by decide)]
  rintro c ⟨⟩
  decide

theorem words_single {word : List UInt8} (hne : word ≠ [])
    (hword : ∀ c ∈ word, isSpace c = false) : words word = [word] := by
  have h := @words_word word [] hne hword nofun
  rwa [List.append_nil] at h

theorem directionOf_of_isDirection {word : List UInt8} {dir : TrackDirection}
    (h : IsDirection word dir) : directionOf (word.take 15) = dir := by
  cases dir with
  | up => rcases h with rfl | rfl <;> rfl
  | down => rcases h with rfl | rfl <;> rfl

theorem trainWord_noSpace : ∀ noExit, trainWord noExit ≠ [] ∧
    ∀ c ∈ trainWord noExit, isSpace c = false := by
  intro noExit
  cases noExit <;> exact ⟨by decide, noSpace_of_all (by decide)⟩

theorem taken_train {args arg1 arg2 : List UInt8} {i : Fin 3}
    (hscan : scanTwo args = some (arg1, arg2))
    (hcrossing : crossingOf (parseCrossingId arg1) = some i) :
    LooseTrain (words args) ∨
      ∃ p d, words args = [p, d] ∧ CrossingWord p i ∧ IsDirection d (directionOf arg2) := by
  obtain ⟨first, rest, hwords, harg, hsecond⟩ := scanTwo_some hscan
  obtain ⟨p, tail, hp, htail⟩ := crossingOf_parseCrossingId hcrossing
  have hfirst : first = p ++ (tail ++ first.drop 15) := by
    rw [← List.append_assoc, ← htail, harg, List.take_append_drop]
  generalize tail ++ first.drop 15 = tail at hfirst
  subst hfirst
  rw [hwords]
  by_cases hne : tail = []
  · rcases hsecond with hlong | ⟨d, more, rfl, harg'⟩
    · have hle := crossingWord_length hp
      rw [hne, List.append_nil] at hlong
      omega
    · rw [hne, List.append_nil]
      cases more with
      | nil =>
          by_cases hdirection : ∃ dir, IsDirection d dir
          · obtain ⟨dir, hdir⟩ := hdirection
            refine .inr ⟨p, d, rfl, hp, ?_⟩
            rwa [harg', directionOf_of_isDirection hdir]
          · exact .inl (.noDirection hp fun dir hdir => hdirection ⟨dir, hdir⟩)
      | cons e more => exact .inl (.moreWords hp)
  · left
    cases rest with
    | cons d rest => exact .longCrossing hp hne
    | nil =>
        rcases hsecond with hlong | ⟨d, more, hrest, -⟩
        · exact .cutCrossing hp hlong
        · cases hrest

theorem spells_train {overflow : Int → Int} {noExit : Bool} {text : List UInt8}
    {request : SimRequest} {op : TrainOperation}
    (h : trainRequest (trainWord noExit ++ [32]) noExit text = some request)
    (hasked : asked (platformRequest overflow request) = some op) :
    Spells (words text) op ∨ Loose text := by
  unfold trainRequest at h
  split at h
  · rename_i args hargs
    split at h
    · rename_i arg1 arg2 hscan
      obtain rfl := Option.some.inj h
      obtain ⟨i, hi, rfl⟩ := Option.map_eq_some_iff.mp hasked
      have htext : text = trainWord noExit ++ 32 :: args := by
        rw [afterWord_some hargs, List.append_assoc]
        rfl
      obtain ⟨hne, hword⟩ := trainWord_noSpace noExit
      rw [htext]
      rcases taken_train hscan hi with hloose | ⟨p, d, hwords, hp, hd⟩
      · exact .inr (.train noExit hloose)
      · left
        rw [words_command hne hword, hwords]
        exact .train noExit hp hd
    · cases h
  · cases h

theorem taken_crossing {args : List UInt8} {i : Fin 3}
    (h : crossingOf (parseCrossingId args) = some i) :
    ∃ p tail, CrossingWord p i ∧ args = p ++ tail ∧ (words tail ≠ [] ∨ words args = [p]) := by
  obtain ⟨p, tail, hp, rfl⟩ := crossingOf_parseCrossingId h
  refine ⟨p, tail, hp, rfl, ?_⟩
  by_cases htail : words tail = []
  · right
    rw [words_word (crossingWord_ne_nil hp) (crossingWord_noSpace hp) (head_of_words_nil htail),
      htail]
  · exact .inl htail

theorem spells_numberedFault {overflow : Int → Int} {text : List UInt8} {request : SimRequest}
    {op : TrainOperation} (h : numberedFault text = some request)
    (hasked : asked (platformRequest overflow request) = some op) : Spells (words text) op := by
  unfold numberedFault at h
  split at h
  · rename_i p c rest
    split at h
    · rename_i hword
      obtain ⟨hp, hmin, hmax, rfl⟩ := hword
      obtain rfl := Option.some.inj h
      obtain ⟨i, rfl⟩ := exists_crossingDigit hmin hmax
      have hnumber : ∀ i : Fin 3, crossingOf (some (crossingDigit i - 48)) = some i := by decide
      change (crossingOf (some (crossingDigit i - 48))).map TrainOperation.fault = some op at hasked
      rw [hnumber] at hasked
      obtain rfl := Option.some.inj hasked
      have hcrossing : IsCrossing [p, crossingDigit i] i := by
        rcases hp with rfl | rfl
        · exact .inr rfl
        · exact .inl rfl
      have hword : ∀ c ∈ [p, crossingDigit i] ++ ascii ['-', 'f', 'a', 'u', 'l', 't'],
          isSpace c = false := by
        exact List.forall_mem_append.mpr
          ⟨crossingWord_noSpace (.inl hcrossing), noSpace_of_all (by decide)⟩
      show Spells (words ([p, crossingDigit i] ++ ascii ['-', 'f', 'a', 'u', 'l', 't'])) _
      rw [@words_single (_ ++ _) (List.cons_ne_nil _ _) hword]
      exact .numberedFault hcrossing
    · cases h
  · cases h

theorem spells_scale {overflow : Int → Int} {args : List UInt8} {op : TrainOperation}
    (hasked : asked (platformRequest overflow (.scale (atoi args))) = some op) :
    LooseNumber args ∨ ∃ digits n, words args = [digits] ∧ IsNumber digits n ∧ 1 ≤ n ∧ n ≤ 100 ∧
      op = .scale n := by
  by_cases hint : IsInt (atoi args)
  · rw [platformRequest, if_pos hint, asked] at hasked
    split at hasked
    · rename_i hrange
      obtain rfl := Option.some.inj hasked
      by_cases hmore : words (afterDigits args) = []
      · obtain ⟨digits, hwords, hnumber⟩ := numeral_of_atoi hrange.1 hmore
        exact .inr ⟨digits, _, hwords, hnumber, by omega, by omega, rfl⟩
      · exact .inl (.moreText hrange.1 hrange.2 hmore)
    · cases hasked
  · exact .inl (.noInt hint)

theorem spells_later {overflow : Int → Int} {text : List UInt8} {op : TrainOperation}
    (hasked : asked (platformRequest overflow (laterRequest text)) = some op) :
    Spells (words text) op ∨ Loose text := by
  unfold laterRequest at hasked
  split at hasked
  · rename_i request hrequest
    exact .inl (spells_numberedFault hrequest hasked)
  split at hasked
  · rename_i args hargs
    obtain ⟨i, hi, rfl⟩ := Option.map_eq_some_iff.mp hasked
    obtain ⟨p, tail, hp, rfl, htail⟩ := taken_crossing hi
    have htext : text = ascii ['f', 'a', 'u', 'l', 't'] ++ 32 :: (p ++ tail) := by
      rw [afterWord_some hargs]
      rfl
    rw [htext]
    rcases htail with hmore | hwords
    · exact .inr (.fault hp hmore)
    · left
      rw [words_command (by decide) (noSpace_of_all (by decide)), hwords]
      exact .fault hp
  split at hasked
  · rename_i args hargs
    obtain ⟨i, hi, rfl⟩ := Option.map_eq_some_iff.mp hasked
    obtain ⟨p, tail, hp, rfl, htail⟩ := taken_crossing hi
    have htext : text = ascii ['r', 'e', 's', 'e', 't'] ++ 32 :: (p ++ tail) := by
      rw [afterWord_some hargs]
      rfl
    rw [htext]
    rcases htail with hmore | hwords
    · exact .inr (.reset hp hmore)
    · left
      rw [words_command (by decide) (noSpace_of_all (by decide)), hwords]
      exact .reset hp
  split at hasked
  · rename_i args hargs
    have htext : text = ascii ['s', 'c', 'a', 'l', 'e'] ++ 32 :: args := by
      rw [afterWord_some hargs]
      rfl
    rw [htext]
    rcases spells_scale hasked with hloose | ⟨digits, n, hwords, hnumber, hmin, hmax, rfl⟩
    · exact .inr (.scale hloose)
    · left
      rw [words_command (by decide) (noSpace_of_all (by decide)), hwords]
      exact .scale hnumber hmin hmax
  split at hasked
  · cases hasked
  split at hasked
  · cases hasked
  · cases hasked

theorem spells_or_loose {overflow : Int → Int} {cmd : List UInt8} {op : TrainOperation}
    (hasked : asked (platformRequest overflow (requestOf cmd)) = some op) :
    Spells (words cmd) op ∨ Loose (cmd.dropWhile isSpace) := by
  rw [← words_dropWhile]
  unfold requestOf at hasked
  dsimp only at hasked
  generalize cmd.dropWhile isSpace = text at hasked
  split at hasked
  · cases hasked
  split at hasked
  · rename_i htext
    obtain rfl := Option.some.inj hasked
    left
    rw [htext, words_single (by decide) (noSpace_of_all (by decide))]
    exact .both
  split at hasked
  · rename_i htext
    obtain rfl := Option.some.inj hasked
    left
    rw [htext, words_single (by decide) (noSpace_of_all (by decide))]
    exact .line .up
  split at hasked
  · rename_i htext
    obtain rfl := Option.some.inj hasked
    left
    rw [htext, words_single (by decide) (noSpace_of_all (by decide))]
    exact .line .down
  split at hasked
  · rename_i request hrequest
    exact @spells_train overflow false text request op hrequest hasked
  split at hasked
  · rename_i request hrequest
    exact @spells_train overflow true text request op hrequest hasked
  · exact spells_later hasked

/-! ### Loose texts -/

theorem not_looseTrain {p d : List UInt8} {i : Fin 3} {dir : TrackDirection}
    (hcrossing : CrossingWord p i) (hdirection : IsDirection d dir) : ¬ LooseTrain [p, d] := by
  intro h
  cases h with
  | noDirection _ hnone => exact hnone dir hdirection
  | longCrossing hp htail => exact htail (crossingWord_append hp hcrossing)

/-- The commands with arguments. -/
inductive Arguments (word : List UInt8) (args : List (List UInt8)) : Prop
  | train (noExit : Bool) {p d : List UInt8} {i : Fin 3} {dir : TrackDirection}
      (hword : word = trainWord noExit) (hargs : args = [p, d]) (hcrossing : CrossingWord p i)
      (hdirection : IsDirection d dir)
  | crossing {p : List UInt8} {i : Fin 3} (hword : word = ascii ['f', 'a', 'u', 'l', 't'] ∨
      word = ascii ['r', 'e', 's', 'e', 't']) (hargs : args = [p]) (hcrossing : CrossingWord p i)
  | number {digits : List UInt8} {n : Nat} (hword : word = ascii ['s', 'c', 'a', 'l', 'e'])
      (hargs : args = [digits]) (hnumber : IsNumber digits n) (hmin : 1 ≤ n) (hmax : n ≤ 100)

theorem arguments_of_spells {word : List UInt8} {args : List (List UInt8)} {op : TrainOperation}
    (h : Spells (word :: args) op) (hne : args ≠ []) : Arguments word args := by
  cases h with
  | train noExit hcrossing hdirection => exact .train noExit rfl rfl hcrossing hdirection
  | fault hcrossing => exact .crossing (.inl rfl) rfl hcrossing
  | reset hcrossing => exact .crossing (.inr rfl) rfl hcrossing
  | scale hnumber hmin hmax => exact .number rfl rfl hnumber hmin hmax
  | _ => exact absurd rfl hne

theorem not_crossing_of_more {p tail p' : List UInt8} {i j : Fin 3} (hcrossing : CrossingWord p i)
    (htail : words tail ≠ []) (hwords : words (p ++ tail) = [p']) : ¬ CrossingWord p' j := by
  intro hcrossing'
  obtain ⟨after, htext, hafter, -⟩ := words_cons hwords
  have hhead : (p ++ tail).dropWhile isSpace = p ++ tail := by
    obtain ⟨c, cs, rfl⟩ := List.exists_cons_of_ne_nil (crossingWord_ne_nil hcrossing)
    have hc := crossingWord_noSpace hcrossing c List.mem_cons_self
    exact List.dropWhile_cons_of_neg (by simp [hc])
  rw [hhead] at htext
  rcases List.append_eq_append_iff.mp htext with ⟨more, rfl, rfl⟩ | ⟨more, rfl, rfl⟩
  · rw [crossingWord_append hcrossing hcrossing', List.nil_append] at htail
    exact htail hafter
  · rw [crossingWord_append hcrossing' hcrossing, List.nil_append] at hafter
    exact htail hafter

theorem words_crossing_ne_nil {p tail : List UInt8} {i : Fin 3} (h : CrossingWord p i) :
    words (p ++ tail) ≠ [] := by
  intro hwords
  obtain ⟨c, cs, rfl⟩ := List.exists_cons_of_ne_nil (crossingWord_ne_nil h)
  have hspace := head_of_words_nil hwords c rfl
  rw [crossingWord_noSpace h c List.mem_cons_self] at hspace
  cases hspace

theorem looseNumber_words {args : List UInt8} (h : LooseNumber args) : words args ≠ [] := by
  intro hwords
  have hzero : atoi args = 0 := by
    rw [atoi, words_nil hwords]
    rfl
  cases h with
  | noInt hvalue =>
      rw [hzero] at hvalue
      exact hvalue (by decide)
  | moreText hmin _ _ => omega

theorem not_looseNumber {args digits : List UInt8} {n : Nat} (hwords : words args = [digits])
    (hnumber : IsNumber digits n) (hmax : n ≤ 100) : ¬ LooseNumber args := by
  obtain ⟨hvalue, hafter⟩ := atoi_numeral hwords hnumber
  intro h
  cases h with
  | noInt hint =>
      apply hint
      rw [hvalue, IsInt]
      omega
  | moreText _ _ hmore => exact hmore hafter

theorem not_spells_crossing {word p tail : List UInt8} {i : Fin 3} {op : TrainOperation}
    (hword : word = ascii ['f', 'a', 'u', 'l', 't'] ∨ word = ascii ['r', 'e', 's', 'e', 't'])
    (hcrossing : CrossingWord p i) (htail : words tail ≠ []) :
    ¬ Spells (words (word ++ 32 :: (p ++ tail))) op := by
  intro hspells
  have hletters : word ≠ [] ∧ ∀ c ∈ word, isSpace c = false := by
    rcases hword with rfl | rfl <;> exact ⟨by decide, noSpace_of_all (by decide)⟩
  rw [words_command hletters.1 hletters.2] at hspells
  cases arguments_of_spells hspells (words_crossing_ne_nil hcrossing) with
  | train noExit hword' =>
      rcases hword with rfl | rfl <;> cases noExit <;> exact absurd hword' (by decide)
  | crossing _ hargs hcrossing' => exact not_crossing_of_more hcrossing htail hargs hcrossing'
  | number hword' => rcases hword with rfl | rfl <;> exact absurd hword' (by decide)

theorem not_spells_of_loose {text : List UInt8} (h : Loose text) (op : TrainOperation) :
    ¬ Spells (words text) op := by
  intro hspells
  cases h with
  | @train noExit args hargs =>
      obtain ⟨hne, hword⟩ := trainWord_noSpace noExit
      rw [words_command hne hword] at hspells
      have hwords : words args ≠ [] := by
        intro hnil
        rw [hnil] at hargs
        cases hargs
      cases arguments_of_spells hspells hwords with
      | train _ _ hargs' hcrossing hdirection =>
          rw [hargs'] at hargs
          exact not_looseTrain hcrossing hdirection hargs
      | crossing hword' =>
          rcases hword' with hword' | hword' <;> cases noExit <;> exact absurd hword' (by decide)
      | number hword' => cases noExit <;> exact absurd hword' (by decide)
  | fault hcrossing htail => exact not_spells_crossing (.inl rfl) hcrossing htail hspells
  | reset hcrossing htail => exact not_spells_crossing (.inr rfl) hcrossing htail hspells
  | scale hnumber =>
      rw [words_command (by decide) (noSpace_of_all (by decide))] at hspells
      cases arguments_of_spells hspells (looseNumber_words hnumber) with
      | train noExit hword' => cases noExit <;> exact absurd hword' (by decide)
      | crossing hword' => rcases hword' with hword' | hword' <;> exact absurd hword' (by decide)
      | number _ hargs hnumber' _ hmax => exact not_looseNumber hargs hnumber' hmax hnumber

/-- A loose text asks for one of these. -/
def Argued : TrainOperation → Prop
  | .train .. | .fault .. | .reset .. => True
  | .scale n => 1 ≤ n ∧ n ≤ 100
  | _ => False

theorem first_found (found : Option SimRequest) (other request : SimRequest) :
    found = some request → (match found with
      | some request => request
      | none => other) = request := by
  rintro rfl
  rfl

theorem requestOf_train {noExit : Bool} {args arg1 arg2 : List UInt8}
    (h : scanTwo args = some (arg1, arg2)) :
    requestOf (trainWord noExit ++ 32 :: args) = .trainAt arg1 (directionOf arg2) noExit := by
  have hrequest : trainRequest (trainWord noExit ++ [32]) noExit (trainWord noExit ++ 32 :: args) =
      some (.trainAt arg1 (directionOf arg2) noExit) := by
    have hafter : afterWord (trainWord noExit ++ [32]) (trainWord noExit ++ 32 :: args) =
        some args := by
      cases noExit <;> rfl
    rw [trainRequest, hafter]
    dsimp only
    rw [h]
  cases noExit with
  | false => exact first_found _ _ _ hrequest
  | true => exact first_found _ _ _ hrequest

theorem requestOf_fault (args : List UInt8) :
    requestOf (ascii ['f', 'a', 'u', 'l', 't'] ++ 32 :: args) = .fault (parseCrossingId args) :=
  rfl

theorem requestOf_reset (args : List UInt8) :
    requestOf (ascii ['r', 'e', 's', 'e', 't'] ++ 32 :: args) = .reset (parseCrossingId args) :=
  rfl

theorem requestOf_scale (args : List UInt8) :
    requestOf (ascii ['s', 'c', 'a', 'l', 'e'] ++ 32 :: args) = .scale (atoi args) :=
  rfl

/-- The first word of loose arguments starts with a crossing, and `sscanf` finds
a second one. -/
theorem looseTrain_words {args : List (List UInt8)} (h : LooseTrain args) :
    ∃ p tail rest i, args = (p ++ tail) :: rest ∧ CrossingWord p i ∧
      (15 < (p ++ tail).length ∨ rest ≠ []) := by
  cases h with
  | @noDirection p d i hcrossing _ =>
      exact ⟨p, [], [d], i, by rw [List.append_nil], hcrossing, .inr (List.cons_ne_nil _ _)⟩
  | @moreWords p d e rest i hcrossing =>
      exact ⟨p, [], d :: e :: rest, i, by rw [List.append_nil], hcrossing,
        .inr (List.cons_ne_nil _ _)⟩
  | longCrossing hcrossing _ => exact ⟨_, _, _, _, rfl, hcrossing, .inr (List.cons_ne_nil _ _)⟩
  | cutCrossing hcrossing hlong => exact ⟨_, _, _, _, rfl, hcrossing, .inl hlong⟩

theorem asked_of_loose {text : List UInt8} (h : Loose text) :
    ∃ overflow op, Argued op ∧ asked (platformRequest overflow (requestOf text)) = some op := by
  cases h with
  | @train noExit args hargs =>
      obtain ⟨p, tail, rest, i, hwords, hcrossing, hmore⟩ := looseTrain_words hargs
      obtain ⟨arg2, hscan⟩ := scanTwo_eq_some hwords hmore
      refine ⟨id, .train i (directionOf arg2) noExit, trivial, ?_⟩
      have hle := crossingWord_length hcrossing
      have harg : (p ++ tail).take 15 = p ++ tail.take (15 - p.length) := by
        rw [List.take_append, List.take_of_length_le (by omega)]
      rw [requestOf_train hscan, harg]
      show (crossingOf (parseCrossingId _)).map _ = _
      rw [crossingOf_crossingWord hcrossing]
      rfl
  | @fault p tail i hcrossing htail =>
      refine ⟨id, .fault i, trivial, ?_⟩
      rw [requestOf_fault]
      show (crossingOf (parseCrossingId (p ++ tail))).map _ = _
      rw [crossingOf_crossingWord hcrossing]
      rfl
  | @reset p tail i hcrossing htail =>
      refine ⟨id, .reset i, trivial, ?_⟩
      rw [requestOf_reset]
      show (crossingOf (parseCrossingId (p ++ tail))).map _ = _
      rw [crossingOf_crossingWord hcrossing]
      rfl
  | @scale args hnumber =>
      rw [requestOf_scale]
      cases hnumber with
      | noInt hvalue =>
          refine ⟨fun _ => 11, .scale 11, ⟨by decide, by decide⟩, ?_⟩
          rw [platformRequest, if_neg hvalue]
          rfl
      | moreText hmin hmax hmore =>
          refine ⟨id, .scale (atoi args).toNat, ⟨by omega, by omega⟩, ?_⟩
          rw [platformRequest, if_pos ⟨by omega, by omega⟩, asked, if_pos ⟨hmin, hmax⟩]

theorem commandEvent_sim {sim : RailSim} (h : Numbered sim) {id : Option UInt8} {i : Fin 3}
    (hid : crossingOf id = some i) (event : CrossingEvent) (done missing : SimReply) :
    (commandEvent sim id event done missing).sim = handle sim i event := by
  rw [commandEvent, findCrossing_eq h, hid]

theorem numbered_trainController : Numbered trainControllerStart := fun _ => rfl

theorem canStart_trainController (i : Fin 3) (dir : TrackDirection) (noExit : Bool) :
    cannotStartTrain trainControllerStart (some i) dir (if noExit then 2 else 3) = none := by
  cases dir <;> cases noExit <;> revert i <;> decide +kernel

theorem slots_taken (i : Fin 3) (dir : TrackDirection) (noExit : Bool) :
    freeSlots (simulateTrainAtCrossing trainControllerStart i dir noExit).events ≠
      freeSlots trainControllerStart.events := by
  cases dir <;> cases noExit <;> revert i <;> decide +kernel

theorem acts_train {i : Fin 3} {dir : TrackDirection} {noExit : Bool} {request : SimRequest}
    (h : asked request = some (.train i dir noExit)) :
    ¬ Unchanged trainControllerStart (perform trainControllerStart request).sim := by
  intro hunchanged
  cases request with
  | trainAt arg1 dir' noExit' =>
      obtain ⟨j, hj, hop⟩ := Option.map_eq_some_iff.mp h
      obtain ⟨rfl, rfl, rfl⟩ := TrainOperation.train.inj hop
      have hsim : (perform trainControllerStart (.trainAt arg1 dir' noExit')).sim =
          simulateTrainAtCrossing trainControllerStart j dir' noExit' := by
        show (trainAtCrossing _ _ _ _ (findCrossing _ _)).sim = _
        rw [findCrossing_eq numbered_trainController, hj]
        show (unlessRefused _ _ (cannotStartTrain _ _ _ _) _).sim = _
        rw [canStart_trainController]
        rfl
      rw [hsim] at hunchanged
      exact slots_taken j dir' noExit' (congrArg freeSlots hunchanged.events)
  | _ => simp [asked] at h

theorem fault_injected : ∀ i : Fin 3,
    ((handle trainControllerStart i .injectFault).crossings i).fault ≠
      (trainControllerStart.crossings i).fault := by
  decide +kernel

theorem fault_reset : ∀ i : Fin 3,
    ((handle (handle trainControllerStart i .injectFault) i .resetFault).crossings i).fault ≠
      ((handle trainControllerStart i .injectFault).crossings i).fault := by
  decide +kernel

theorem acts_fault {i : Fin 3} {request : SimRequest} (h : asked request = some (.fault i)) :
    ¬ Unchanged trainControllerStart (perform trainControllerStart request).sim := by
  intro hunchanged
  have hsim : (perform trainControllerStart request).sim =
      handle trainControllerStart i .injectFault := by
    cases request with
    | faultNumbered id =>
        obtain ⟨j, hj, hop⟩ := Option.map_eq_some_iff.mp h
        obtain rfl := TrainOperation.fault.inj hop
        exact commandEvent_sim numbered_trainController hj _ _ _
    | fault id =>
        obtain ⟨j, hj, hop⟩ := Option.map_eq_some_iff.mp h
        obtain rfl := TrainOperation.fault.inj hop
        exact commandEvent_sim numbered_trainController hj _ _ _
    | _ => simp [asked] at h
  rw [hsim] at hunchanged
  exact fault_injected i (congrArg Crossing.fault (congrFun hunchanged.crossings i))

theorem acts_reset {sim : RailSim} (hids : Numbered sim) {i : Fin 3} {request : SimRequest}
    (h : asked request = some (.reset i))
    (hfault : ((handle sim i .resetFault).crossings i).fault ≠ (sim.crossings i).fault) :
    ¬ Unchanged sim (perform sim request).sim := by
  intro hunchanged
  cases request with
  | reset id =>
      obtain ⟨j, hj, hop⟩ := Option.map_eq_some_iff.mp h
      obtain rfl := TrainOperation.reset.inj hop
      have hsim : (perform sim (.reset id)).sim = handle sim j .resetFault :=
        commandEvent_sim hids hj _ _ _
      rw [hsim] at hunchanged
      exact hfault (congrArg Crossing.fault (congrFun hunchanged.crossings j))
  | _ => simp [asked] at h

theorem acts_scale {sim : RailSim} {n : Nat} {request : SimRequest}
    (h : asked request = some (.scale n)) (hne : sim.timeScale ≠ n) :
    ¬ Unchanged sim (perform sim request).sim := by
  intro hunchanged
  cases request with
  | scale m =>
      rw [asked] at h
      split at h
      · rename_i hrange
        obtain rfl := TrainOperation.scale.inj (Option.some.inj h)
        have hscale := hunchanged.timeScale
        rw [perform_scale, if_pos hrange] at hscale
        change (setTimeScale sim m).timeScale = sim.timeScale at hscale
        rw [setTimeScale, if_pos hrange] at hscale
        apply hne
        rw [Int.toNat_of_nonneg (by omega)]
        exact hscale.symm
      · cases h
  | _ => simp [asked] at h

theorem siminv_platform {overflow : Int → Int} {sim : RailSim}
    (h : Reachable SimStart (platformStep overflow) sim) : SimInv sim := by
  apply Reachable.invariant _ _ h
  · exact fun _ => siminv_start
  · intro sim step hsim
    cases step with
    | tick => exact hsim.tick
    | command cmd => exact hsim.command (commandEffect sim _)

theorem faulted_reachable (overflow : Int → Int) (i : Fin 3) :
    Reachable SimStart (platformStep overflow) (handle trainControllerStart i .injectFault) := by
  let cmd := [112, crossingDigit i] ++ ascii ['-', 'f', 'a', 'u', 'l', 't']
  have hsim : platformStep overflow trainControllerStart (.command cmd) =
      handle trainControllerStart i .injectFault := by
    have hrequest : ∀ i : Fin 3, requestOf ([112, crossingDigit i] ++
        ascii ['-', 'f', 'a', 'u', 'l', 't']) = .faultNumbered (UInt8.ofNat (i + 1)) := by
      decide
    show (perform _ (platformRequest overflow (requestOf _))).sim = _
    rw [hrequest]
    exact commandEvent_sim numbered_trainController (crossingOf_number i) _ _ _
  rw [← hsim]
  exact (Reachable.init simStart_trainController).step _

theorem acting_state (overflow : Int → Int) {op : TrainOperation} (h : Argued op) :
    ∃ sim, Reachable SimStart (platformStep overflow) sim ∧
      ∀ request, asked request = some op → ¬ Unchanged sim (perform sim request).sim := by
  have hstart : Reachable SimStart (platformStep overflow) trainControllerStart :=
    Reachable.init simStart_trainController
  cases op with
  | train i dir noExit => exact ⟨_, hstart, fun _ => acts_train⟩
  | fault i => exact ⟨_, hstart, fun _ => acts_fault⟩
  | reset i =>
      have hfaulted := faulted_reachable overflow i
      exact ⟨_, hfaulted, fun _ hasked =>
        acts_reset (siminv_platform hfaulted).ids hasked (fault_reset i)⟩
  | scale n =>
      let sim := railSimInit trainControllerStart.crossings (n + 1) trainControllerStart.layout
      have hsim : SimStart sim :=
        ⟨_, fun i => (UInt8.ofNat (2 * i + 1), UInt8.ofNat (2 * i + 2)), _, _, rfl⟩
      refine ⟨sim, Reachable.init hsim, fun _ hasked => acts_scale hasked ?_⟩
      show (if 0 < (n : Int) + 1 then (n : Int) + 1 else 1) ≠ n
      rw [if_pos (by omega)]
      omega
  | line | both | status => exact h.elim

/-! ### Which texts the console takes as they are written -/

theorem not_actsAsWritten {cmd : List UInt8} {sim sim' : RailSim}
    (hloose : Loose (cmd.dropWhile isSpace)) (h : ¬ Unchanged sim sim') :
    ¬ ActsAsWritten cmd sim sim' := by
  rintro (hunchanged | ⟨op, hspells, -⟩)
  · exact h hunchanged
  · rw [← words_dropWhile] at hspells
    exact not_spells_of_loose hloose op hspells

/-- A command does nothing but what it spells, on every platform and in every
state, unless its text is one of the loose ones. -/
theorem acts_as_written_iff (cmd : List UInt8) :
    (∀ overflow sim, Reachable SimStart (platformStep overflow) sim →
        ActsAsWritten cmd sim (platformCommand overflow sim cmd).sim) ↔
      ¬ Loose (cmd.dropWhile isSpace) := by
  constructor
  · intro h hloose
    obtain ⟨overflow, op, hargued, hasked⟩ := asked_of_loose hloose
    have hrequest : requestOf (cmd.dropWhile isSpace) = requestOf cmd := by
      unfold requestOf
      rw [List.dropWhile_idempotent]
    rw [hrequest] at hasked
    obtain ⟨sim, hsim, hacts⟩ := acting_state overflow hargued
    exact not_actsAsWritten hloose (hacts _ hasked) (h overflow sim hsim)
  · intro h overflow sim hsim
    rcases asked_perform (siminv_platform hsim).ids (platformRequest overflow (requestOf cmd)) with
      hsame | ⟨op, hasked, heffect⟩
    · left
      rw [platformCommand, hsame]
      exact .refl sim
    · exact .inr ⟨op, (spells_or_loose hasked).resolve_right h, heffect⟩

/-- A direction that is none starts a train on the up track, and a reset with a
second command behind it resets. -/
theorem misspelled_commands_act :
    let train := ascii ['t', 'r', 'a', 'i', 'n', ' ', 'P', '1', ' ', 's', 'i', 'd', 'e', 'w', 'a',
      'y', 's']
    let reset := ascii ['r', 'e', 's', 'e', 't', ' ', 'P', '1', ';', 't', 'r', 'a', 'i', 'n', '-',
      'u', 'p']
    let faulted := (railSimCommand trainControllerStart
      (ascii ['p', '1', '-', 'f', 'a', 'u', 'l', 't'])).sim
    (¬ ActsAsWritten train trainControllerStart (railSimCommand trainControllerStart train).sim ∧
        trainPending (railSimCommand trainControllerStart train).sim 0 .up = true) ∧
      ¬ ActsAsWritten reset faulted (railSimCommand faulted reset).sim ∧
        (faulted.crossings 0).fault = .injected ∧
        ((railSimCommand faulted reset).sim.crossings 0).fault = .none := by
  intro train reset faulted
  have htrain : Loose (train.dropWhile isSpace) := by
    have hwords : words (train.drop 6) =
        [[80, crossingDigit 0], ascii ['s', 'i', 'd', 'e', 'w', 'a', 'y', 's']] := by
      decide +kernel
    apply @Loose.train false (train.drop 6)
    rw [hwords]
    refine .noDirection (.inl (.inl rfl)) fun dir => ?_
    cases dir <;> unfold IsDirection <;> decide
  have hreset : Loose (reset.dropWhile isSpace) :=
    @Loose.reset [80, crossingDigit 0] (reset.drop 8) 0 (.inl (.inl rfl)) (by decide +kernel)
  have hfaulted : faulted = handle trainControllerStart 0 .injectFault :=
    commandEvent_sim numbered_trainController (crossingOf_number 0) _ (.faultInjected 1)
      .crossingNotFound
  have hids := (siminv_platform (faulted_reachable id 0)).ids
  refine ⟨⟨not_actsAsWritten htrain ?_, by decide +kernel⟩,
    not_actsAsWritten hreset ?_, by decide +kernel, by decide +kernel⟩
  · exact @acts_train 0 .up false _ (by decide +kernel)
  · rw [hfaulted]
    exact @acts_reset _ hids 0 _ (by decide +kernel) (fault_reset 0)

end TrafficLight.ConsoleCommands
