import TrafficLight.CommandAgreement

namespace TrafficLight.SimLanguage

open TrafficLight.Protocol
open TrafficLight.Decimal
open TrafficLight.Telemetry
open TrafficLight.CentralCommands
open TrafficLight.LocalMessages
open TrafficLight.CommandAgreement

/-- The bytes behind the first NUL are zero. -/
def ZeroTail (data : Data) : Prop := ∀ c ∈ (List.ofFn data).dropWhile (· ≠ 0), c = 0

instance (data : Data) : Decidable (ZeroTail data) :=
  inferInstanceAs (Decidable (∀ c ∈ _, c = 0))

/-- A header that Central's decoder has nothing to object to. -/
def SimHeader (message : TestMessage) : Prop :=
  message.header.type = msgTest ∧ message.header.src = controllerCentral ∧
    message.header.dst = controllerLocal ∧ message.header.reserved = 0 ∧
    terminated message.header.timestamp = true

instance (message : TestMessage) : Decidable (SimHeader message) :=
  inferInstanceAs (Decidable (_ ∧ _))

/-- What a SIM1 command may hold: a target, and a minute of the day for a time
command only, which is the only one that carries a minute. -/
structure SimValid (command : CentralSimCommand) : Prop where
  target : command.target < numIntersections ∨ command.target = intersectionAll.toNat
  minute : command.minute ≤ 1439
  unused : command.action ≠ .time → command.minute = 0

/-- The Local's parser succeeds with the values of a command; the minute of its
caller stays zero unless it is a time command. -/
def LocalReads (data : Data) (command : CentralSimCommand) : Prop :=
  parseSimCommand data =
      some ⟨command.target, command.commandId.toNat, localAction command⟩ ∧
    (command.action ≠ .time → command.minute = 0)

instance (data : Data) (command : CentralSimCommand) : Decidable (LocalReads data command) :=
  inferInstanceAs (Decidable (_ ∧ _))

theorem data_of_zeroTail {data : Data} {text : List UInt8} (htail : ZeroTail data)
    (htext : (List.ofFn data).takeWhile (· ≠ 0) = text) : data = dataOfBytes text := by
  have hsplit := List.takeWhile_append_dropWhile (p := fun c : UInt8 => decide (c ≠ 0))
    (l := List.ofFn data)
  rw [htext] at hsplit
  have hzeros := List.eq_replicate_of_mem htail
  have hlength := congrArg List.length hsplit
  rw [List.length_append, List.length_ofFn] at hlength
  have hcount : ((List.ofFn data).dropWhile fun c => decide (c ≠ 0)).length =
      64 - text.length := by omega
  rw [hcount] at hzeros
  apply List.ofFn_injective
  rw [ofFn_dataOfBytes (by omega), ← hsplit, hzeros]

theorem parseSimNumber_some {maximum n : Nat} {text : List UInt8}
    (h : parseSimNumber maximum text = some n) : text = decimal n ∧ n ≤ maximum := by
  cases text with
  | nil => cases h
  | cons c rest =>
      unfold parseSimNumber at h
      dsimp only at h
      split at h
      · cases h
      · rename_i hlead
        refine ⟨decimal_of_readBounded ?_ h, readBounded_le (Nat.zero_le _) h⟩
        intro hzero
        by_contra hrest
        exact hlead ⟨hzero, hrest⟩

theorem simTokens_some {slots : Nat} {text token : List UInt8} {tokens : List (List UInt8)}
    (h : simTokens slots text = some (token :: tokens)) :
    (tokens = [] ∧ text = token) ∨
      ∃ slots' rest, text = token ++ 32 :: rest ∧ simTokens slots' rest = some tokens ∧
        tokens ≠ [] := by
  cases text with
  | nil => cases slots <;> cases h
  | cons c text =>
      cases slots with
      | zero => cases h
      | succ slots =>
          have hsplit := List.takeWhile_append_dropWhile (p := fun c : UInt8 => decide (c ≠ 32))
            (l := c :: text)
          rw [simTokens] at h
          · split at h
            · rename_i hdrop
              simp only [Option.some.injEq, List.cons.injEq] at h
              refine .inl ⟨h.2.symm, ?_⟩
              rw [hdrop, List.append_nil] at hsplit
              exact hsplit.symm.trans h.1
            · rename_i d rest hdrop
              split at h
              · cases h
              · rename_i hrest
                obtain ⟨tokens', htokens, hcons⟩ := Option.map_eq_some_iff.mp h
                simp only [List.cons.injEq] at hcons
                obtain ⟨htoken, rfl⟩ := hcons
                have hspace : d = 32 := by
                  have hhead := List.head?_dropWhile_not (fun c : UInt8 => decide (c ≠ 32))
                    (c :: text)
                  rw [hdrop] at hhead
                  simpa using hhead
                refine .inr ⟨slots, rest, ?_, htokens, ?_⟩
                · rw [hdrop, hspace, htoken] at hsplit
                  exact hsplit.symm
                · rintro rfl
                  cases rest with
                  | nil => exact hrest (.inl rfl)
                  | cons c' rest' =>
                      cases slots with
                      | zero => cases htokens
                      | succ slots =>
                          rw [simTokens] at htokens
                          · split at htokens
                            · cases htokens
                            · split at htokens
                              · cases htokens
                              · obtain ⟨_, _, hnil⟩ := Option.map_eq_some_iff.mp htokens
                                cases hnil
                          · simp
          · simp

theorem simText_some {data : Data} {text : List UInt8} (h : simText data = some text) :
    (List.ofFn data).takeWhile (· ≠ 0) = text := by
  unfold simText at h
  dsimp only at h
  split at h
  · cases h
  · exact Option.some.inj h

theorem simTokens_four {slots : Nat} {text magic target id action : List UInt8}
    {more : List (List UInt8)}
    (h : simTokens slots text = some (magic :: target :: id :: action :: more)) :
    (more = [] → text = magic ++ 32 :: (target ++ 32 :: (id ++ 32 :: action))) ∧
      ∀ minute, more = [minute] →
        text = magic ++ 32 :: (target ++ 32 :: (id ++ 32 :: (action ++ 32 :: minute))) := by
  obtain ⟨hnil, -⟩ | ⟨slots₁, rest₁, htext₁, hrest₁, -⟩ := simTokens_some h
  · cases hnil
  · obtain ⟨hnil, -⟩ | ⟨slots₂, rest₂, htext₂, hrest₂, -⟩ := simTokens_some hrest₁
    · cases hnil
    · obtain ⟨hnil, -⟩ | ⟨slots₃, rest₃, htext₃, hrest₃, -⟩ := simTokens_some hrest₂
      · cases hnil
      · rw [htext₁, htext₂, htext₃]
        obtain ⟨hnil, hlast⟩ | ⟨slots₄, rest₄, htext₄, hrest₄, hmore⟩ := simTokens_some hrest₃
        · rw [hlast]
          refine ⟨fun _ => rfl, fun minute hone => ?_⟩
          rw [hnil] at hone
          cases hone
        · refine ⟨fun hnil => absurd hnil hmore, ?_⟩
          rintro minute rfl
          rw [htext₄]
          obtain ⟨-, hlast⟩ | ⟨_, _, -, -, hnil⟩ := simTokens_some hrest₄
          · rw [hlast]
          · exact absurd rfl hnil

theorem parseSimCommand_some {data : Data} {c : SimCommand} (h : parseSimCommand data = some c) :
    ∃ command : CentralSimCommand, SimValid command ∧ command.target < numIntersections ∧
      command.commandId ≠ 0 ∧
      (List.ofFn data).takeWhile (· ≠ 0) = simulationText command ∧
      c = ⟨command.target, command.commandId.toNat, localAction command⟩ := by
  unfold parseSimCommand at h
  simp only [Option.bind_eq_bind, Option.bind_eq_some_iff] at h
  obtain ⟨text, htext, tokens, htokens, h⟩ := h
  rw [simText_some htext]
  split at h
  · rename_i magic targetText idText action more
    split at h
    · cases h
    · rename_i hmagic
      simp only [Option.bind_eq_some_iff] at h
      obtain ⟨target, htarget, id, hid, h⟩ := h
      obtain ⟨hfour, hfive⟩ := simTokens_four htokens
      obtain ⟨rfl, htargetLe⟩ := parseSimNumber_some htarget
      obtain ⟨rfl, hidLe⟩ := parseSimNumber_some hid
      have hmagic : magic = ascii ['S', 'I', 'M', '1'] := not_not.mp hmagic
      have hsix : numIntersections = 6 := rfl
      have hidNat : (UInt16.ofNat id).toNat = id := by
        rw [UInt16.toNat_ofNat']
        omega
      split at h
      · cases h
      · rename_i hzero
        have hidNe : UInt16.ofNat id ≠ 0 := by
          intro hnone
          rw [hnone] at hidNat
          exact hzero hidNat.symm
        split at h
        · split at h
          · rename_i haction
            refine ⟨⟨target, UInt16.ofNat id, .start, 0⟩,
              ⟨.inl (by dsimp only; omega), Nat.zero_le _, fun _ => rfl⟩, by dsimp only; omega,
              hidNe, ?_, ?_⟩
            · rw [simulationText_eq, hfour rfl, hmagic, haction]
              simp only [hidNat]
              rfl
            · simp only [hidNat]
              exact (Option.some.inj h).symm
          · split at h
            · rename_i haction
              refine ⟨⟨target, UInt16.ofNat id, .stop, 0⟩,
                ⟨.inl (by dsimp only; omega), Nat.zero_le _, fun _ => rfl⟩, by dsimp only; omega,
                hidNe, ?_, ?_⟩
              · rw [simulationText_eq, hfour rfl, hmagic, haction]
                simp only [hidNat]
                rfl
              · simp only [hidNat]
                exact (Option.some.inj h).symm
            · cases h
        · split at h
          · rename_i minuteText haction
            obtain ⟨minute, hminute, hc⟩ := Option.map_eq_some_iff.mp h
            obtain ⟨rfl, hminuteLe⟩ := parseSimNumber_some hminute
            refine ⟨⟨target, UInt16.ofNat id, .time, minute⟩,
              ⟨.inl (by dsimp only; omega), hminuteLe, fun hnot => absurd rfl hnot⟩,
              by dsimp only; omega, hidNe, ?_, ?_⟩
            · rw [simulationText_eq, hfive _ rfl, hmagic, haction]
              simp only [hidNat]
              rfl
            · simp only [hidNat]
              exact hc.symm
          · cases h
        · cases h
  · cases h

theorem splitSpaces_cons {token : List UInt8} (h : ∀ c ∈ token, c ≠ 32) (rest : List UInt8) :
    splitSpaces (token ++ 32 :: rest) = token :: splitSpaces rest := by
  induction token with
  | nil => simp [splitSpaces]
  | cons c token ih =>
      rw [List.forall_mem_cons] at h
      rw [List.cons_append, splitSpaces, if_neg h.1, ih h.2]

theorem splitSpaces_last {token : List UInt8} (h : ∀ c ∈ token, c ≠ 32) :
    splitSpaces token = [token] := by
  induction token with
  | nil => rfl
  | cons c token ih =>
      rw [List.forall_mem_cons] at h
      rw [splitSpaces, if_neg h.1, ih h.2]

theorem splitSpaces_simulationText (command : CentralSimCommand) :
    splitSpaces (simulationText command) = ascii ['S', 'I', 'M', '1'] ::
      decimal command.target :: decimal command.commandId.toNat :: actionTokens command := by
  rw [simulationText_eq, splitSpaces_cons (ne_of_all (by decide)),
    splitSpaces_cons decimal_no_space, splitSpaces_cons decimal_no_space]
  unfold actionText actionTokens
  cases command.action with
  | start | stop =>
      dsimp only
      rw [splitSpaces_last (ne_of_all (by decide))]
  | time =>
      dsimp only
      rw [splitSpaces_cons (ne_of_all (by decide)), splitSpaces_last decimal_no_space]

theorem parseNumber_decimal {maximum n : Nat} (h : n ≤ maximum) :
    parseNumber (decimal n) 0 maximum = some n := by
  rw [parseNumber, if_neg (decimal_ne_nil n), readBounded_decimal h]
  simp

theorem parseNumber_le {text : List UInt8} {minimum maximum n : Nat}
    (h : parseNumber text minimum maximum = some n) : n ≤ maximum := by
  unfold parseNumber at h
  split at h
  · cases h
  · exact readBounded_le (Nat.zero_le _) (Option.filter_eq_some_iff.mp h).1

theorem simulationFields_tokens {command : CentralSimCommand} (h : SimValid command) :
    simulationFields (ascii ['S', 'I', 'M', '1'] :: decimal command.target ::
      decimal command.commandId.toNat :: actionTokens command) = some command := by
  have hid := command.commandId.toNat_lt
  have hsix : numIntersections = 6 := rfl
  have hall : intersectionAll.toNat = 255 := rfl
  have htarget : command.target ≤ intersectionAll.toNat := by
    rcases h.target with ht | ht <;> omega
  have hvalid : ¬ (command.target ≥ numIntersections ∧
      command.target ≠ intersectionAll.toNat) := by
    rcases h.target with ht | ht
    · exact fun hbad => absurd hbad.1 (not_le.mpr ht)
    · exact fun hbad => hbad.2 ht
  have hunused := h.unused
  have hminute := h.minute
  obtain ⟨target, commandId, action, minute⟩ := command
  dsimp only at *
  unfold simulationFields actionTokens
  cases action with
  | start | stop =>
      obtain rfl := hunused (by simp)
      simp only [ne_eq, not_true_eq_false, if_false, Option.bind_eq_bind, Option.bind_some,
        parseNumber_decimal htarget, parseNumber_decimal (by omega : commandId.toNat ≤ 65535),
        UInt16.ofNat_toNat]
      rw [if_neg hvalid]
      rfl
  | time =>
      simp only [ne_eq, not_true_eq_false, if_false, Option.bind_eq_bind, Option.bind_some,
        parseNumber_decimal htarget, parseNumber_decimal (by omega : commandId.toNat ≤ 65535),
        parseNumber_decimal hminute, UInt16.ofNat_toNat]
      rw [if_neg hvalid]
      rfl

theorem simValid_of_simulationFields {tokens : List (List UInt8)} {command : CentralSimCommand}
    (h : simulationFields tokens = some command) : SimValid command := by
  unfold simulationFields at h
  split at h
  · split at h
    · cases h
    · simp only [Option.bind_eq_bind, Option.bind_eq_some_iff] at h
      obtain ⟨target, -, h⟩ := h
      split at h
      · cases h
      · rename_i hvalid
        have htarget : target < numIntersections ∨ target = intersectionAll.toNat := by
          rw [not_and_or, not_le, not_not] at hvalid
          exact hvalid
        obtain ⟨id, -, h⟩ := Option.bind_eq_some_iff.mp h
        split at h
        · split at h
          · cases h
            exact ⟨htarget, Nat.zero_le _, fun _ => rfl⟩
          · split at h
            · cases h
              exact ⟨htarget, Nat.zero_le _, fun _ => rfl⟩
            · cases h
        · split at h
          · obtain ⟨minute, hminute, rfl⟩ := Option.map_eq_some_iff.mp h
            exact ⟨htarget, parseNumber_le hminute, fun hnot => absurd rfl hnot⟩
          · cases h
        · cases h
  · cases h

theorem simValid_of_centralSimulationDecode {message : TestMessage} {command : CentralSimCommand}
    (h : centralSimulationDecode message = some command) : SimValid command := by
  unfold centralSimulationDecode at h
  split at h
  · cases h
  · dsimp only at h
    split at h
    · cases h
    · split at h
      · cases h
      · exact simValid_of_simulationFields (Option.filter_eq_some_iff.mp h).1

theorem centralSimulationDecode_text {message : TestMessage} {command : CentralSimCommand}
    (hheader : SimHeader message) (h : SimValid command)
    (hdata : message.data = dataOfBytes (simulationText command)) :
    centralSimulationDecode message = some command := by
  have htarget : command.target < 256 := by
    have hsix : numIntersections = 6 := rfl
    have hall : intersectionAll.toNat = 255 := rfl
    rcases h.target with ht | ht <;> omega
  have hlength := length_simulationText htarget fun _ => h.minute
  have hnonzero := simulationText_no_nul command
  have htokens : (actionTokens command).length ≤ 2 := by
    unfold actionTokens
    split <;> simp
  obtain ⟨htype, hsrc, hdst, hreserved, htimestamp⟩ := hheader
  unfold centralSimulationDecode
  rw [if_neg (by simp [htype, hsrc, hdst, hreserved, htimestamp])]
  dsimp only
  rw [hdata, takeWhile_dataOfBytes hlength hnonzero, dropWhile_dataOfBytes hlength hnonzero,
    splitSpaces_simulationText, if_neg (by simp),
    if_neg (by simp only [List.length_cons]; omega), simulationFields_tokens h,
    Option.filter_some, if_pos (by simp)]

theorem localReads_iff {message : TestMessage} (hheader : SimHeader message)
    (htail : ZeroTail message.data) (command : CentralSimCommand) :
    LocalReads message.data command ↔ centralSimulationDecode message = some command ∧
      command.target < numIntersections ∧ command.commandId ≠ 0 := by
  constructor
  · rintro ⟨hparse, hunused⟩
    obtain ⟨command', hvalid, htarget, hid, htext, heq⟩ := parseSimCommand_some hparse
    have hsame : command' = command := by
      obtain ⟨target, commandId, action, minute⟩ := command
      obtain ⟨target', commandId', action', minute'⟩ := command'
      have hunused' := hvalid.unused
      simp only [SimCommand.mk.injEq, UInt16.toNat_inj] at heq
      obtain ⟨rfl, rfl, haction⟩ := heq
      cases action <;> cases action' <;> simp_all [localAction]
    rw [← hsame]
    exact ⟨centralSimulationDecode_text hheader hvalid (data_of_zeroTail htail htext), htarget,
      hid⟩
  · rintro ⟨hdecode, htarget, hid⟩
    have hvalid := simValid_of_centralSimulationDecode hdecode
    refine ⟨?_, hvalid.unused⟩
    rw [data_of_centralSimulationDecode hdecode]
    exact parseSimCommand_simulationText htarget hid fun _ => hvalid.minute

/-- What the text of a command carries: the minute of a time command only. -/
def carried (command : CentralSimCommand) : CentralSimCommand :=
  { command with minute := if command.action = .time then command.minute else 0 }

theorem simulationText_carried (command : CentralSimCommand) :
    simulationText (carried command) = simulationText command := by
  unfold simulationText carried
  cases command.action <;> rfl

theorem simValid_carried {command : CentralSimCommand}
    (htarget : command.target < numIntersections ∨ command.target = intersectionAll.toNat)
    (hminute : command.minute < 1440) : SimValid (carried command) := by
  refine ⟨htarget, ?_, fun hnot => if_neg hnot⟩
  unfold carried
  dsimp only
  split <;> omega

/-- The Local and Central accept the same SIM1 texts with the same values, and
Central's spelling of a command is the only one of what it carries. -/
theorem simulation_language {message : TestMessage} (hheader : SimHeader message) :
    (ZeroTail message.data → ∀ command, LocalReads message.data command ↔
        centralSimulationDecode message = some command ∧ command.target < numIntersections ∧
          command.commandId ≠ 0) ∧
      ∀ command, (command.target < numIntersections ∨ command.target = intersectionAll.toNat) →
        command.minute < 1440 →
          centralSimulationDecode (simulationEncode message command) = some (carried command) ∧
            ∀ data, centralSimulationDecode { message with data } = some (carried command) →
              data = (simulationEncode message command).data := by
  refine ⟨fun htail => localReads_iff hheader htail, ?_⟩
  intro command htarget hminute
  have hvalid := simValid_carried htarget hminute
  constructor
  · have hencoded : SimHeader (simulationEncode message command) := hheader
    apply centralSimulationDecode_text hencoded hvalid
    rw [simulationText_carried]
    rfl
  · intro data hdecode
    have hdata := data_of_centralSimulationDecode hdecode
    rw [simulationText_carried] at hdata
    exact hdata

/-- An empty test message from Central to a Local. -/
def simMessage : TestMessage :=
  { header := ⟨msgTest, controllerCentral, controllerLocal, 0, fun _ => 0⟩
    data := fun _ => 0 }

theorem simulation_language_time :
    centralSimulationDecode (simulationEncode simMessage ⟨5, 42, .time, 1439⟩) =
      some ⟨5, 42, .time, 1439⟩ :=
  ((@simulation_language simMessage (by decide)).2 ⟨5, 42, .time, 1439⟩ (by decide)
    (by decide)).1

/-- The minute of a start command is not in its text. -/
theorem start_minute_lost :
    SimHeader simMessage ∧
      centralSimulationDecode (simulationEncode simMessage ⟨0, 1, .start, 5⟩) ≠
        some ⟨0, 1, .start, 5⟩ :=
  ⟨by decide, by decide +kernel⟩

end TrafficLight.SimLanguage
