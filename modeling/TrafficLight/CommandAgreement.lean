import TrafficLight.CentralFrames
import TrafficLight.LocalCore

namespace TrafficLight.CommandAgreement

open TrafficLight.Runs
open TrafficLight.Protocol
open TrafficLight.Decimal
open TrafficLight.Telemetry
open TrafficLight.CentralCommands
open TrafficLight.CentralFrames
open TrafficLight.LocalData
open TrafficLight.LocalTraffic
open TrafficLight.LocalMessages
open TrafficLight.LocalCore

theorem simText_dataOfBytes {text : List UInt8} (hlength : text.length < 64)
    (hnonzero : ∀ c ∈ text, c ≠ 0) : simText (dataOfBytes text) = some text := by
  unfold simText
  dsimp only
  rw [takeWhile_dataOfBytes hlength hnonzero, ofFn_dataOfBytes_lt hlength, if_neg (by simp)]

theorem simTokens_cons {slots : Nat} {token rest : List UInt8} (htoken : ∀ c ∈ token, c ≠ 32)
    (hrest : rest ≠ []) (hhead : rest.head? ≠ some 32) (hne : token ≠ []) :
    simTokens (slots + 1) (token ++ 32 :: rest) = (simTokens slots rest).map (token :: ·) := by
  have htake : (token ++ 32 :: rest).takeWhile (· ≠ 32) = token := by
    rw [List.takeWhile_append_of_pos (by simpa using htoken)]
    simp
  have hdrop : (token ++ 32 :: rest).dropWhile (· ≠ 32) = 32 :: rest := by
    rw [List.dropWhile_append_of_pos (by simpa using htoken)]
    simp
  obtain ⟨c, token', rfl⟩ := List.exists_cons_of_ne_nil hne
  rw [List.cons_append] at htake hdrop ⊢
  rw [simTokens]
  · simp only [htake, hdrop, hrest, hhead, or_self, if_false]
  · simp

theorem simTokens_last {slots : Nat} {token : List UInt8} (htoken : ∀ c ∈ token, c ≠ 32)
    (hne : token ≠ []) : simTokens (slots + 1) token = some [token] := by
  have htake : token.takeWhile (· ≠ 32) = token := List.takeWhile_eq_self_iff.mpr (by
    simpa using htoken)
  have hdrop : token.dropWhile (· ≠ 32) = [] := List.dropWhile_eq_nil_iff.mpr (by
    simpa using htoken)
  obtain ⟨c, token', rfl⟩ := List.exists_cons_of_ne_nil hne
  rw [simTokens]
  · simp only [htake, hdrop]
  · simp

theorem parseSimNumber_decimal {maximum n : Nat} (h : n ≤ maximum) :
    parseSimNumber maximum (decimal n) = some n := by
  obtain ⟨c, rest, htext⟩ := List.exists_cons_of_ne_nil (decimal_ne_nil n)
  have hread := readBounded_decimal h
  unfold parseSimNumber
  rw [htext] at hread ⊢
  dsimp only
  rw [if_neg, hread]
  rintro ⟨rfl, hrest⟩
  obtain rfl := head_decimal (n := n) (by rw [htext]; rfl)
  rw [decimal_eq, if_pos (by decide)] at htext
  injection htext with _ hnil
  exact hrest hnil.symm

theorem decimal_no_space {n : Nat} : ∀ c ∈ decimal n, c ≠ 32 := by
  rintro c hc rfl
  exact absurd (isDigit_of_mem_decimal _ hc) (by decide)

theorem decimal_no_nul {n : Nat} : ∀ c ∈ decimal n, c ≠ 0 := by
  rintro c hc rfl
  exact absurd (isDigit_of_mem_decimal _ hc) (by decide)

theorem head_decimal_ne_space (n : Nat) (rest : List UInt8) :
    (decimal n ++ rest).head? ≠ some 32 := by
  rw [List.head?_append_of_ne_nil _ (decimal_ne_nil n)]
  intro h
  exact decimal_no_space 32 (List.mem_of_head? h) rfl

/-- What a SIM1 command says behind its id. -/
def actionTokens (command : CentralSimCommand) : List (List UInt8) :=
  match command.action with
  | .time => [ascii ['T', 'I', 'M', 'E'], decimal command.minute]
  | .start => [ascii ['S', 'T', 'A', 'R', 'T']]
  | .stop => [ascii ['S', 'T', 'O', 'P']]

/-- The text behind the id. -/
def actionText (command : CentralSimCommand) : List UInt8 :=
  match command.action with
  | .time => ascii ['T', 'I', 'M', 'E'] ++ 32 :: decimal command.minute
  | .start => ascii ['S', 'T', 'A', 'R', 'T']
  | .stop => ascii ['S', 'T', 'O', 'P']

theorem simulationText_eq (command : CentralSimCommand) :
    simulationText command = ascii ['S', 'I', 'M', '1'] ++ 32 :: (decimal command.target ++
      32 :: (decimal command.commandId.toNat ++ 32 :: actionText command)) := by
  have hspace : ascii [' '] = [32] := rfl
  have hmagic : ascii ['S', 'I', 'M', '1', ' '] = ascii ['S', 'I', 'M', '1'] ++ [32] := rfl
  have htime : ascii ['T', 'I', 'M', 'E', ' '] = ascii ['T', 'I', 'M', 'E'] ++ [32] := rfl
  unfold simulationText actionText
  rw [hspace, hmagic, htime]
  cases command.action <;>
    simp only [List.append_assoc, List.cons_append, List.nil_append]

theorem simTokens_actionText (command : CentralSimCommand) :
    simTokens 2 (actionText command) = some (actionTokens command) := by
  unfold actionText actionTokens
  cases command.action with
  | start | stop =>
      dsimp only
      exact simTokens_last (ne_of_all (by decide)) (by decide)
  | time =>
      have hhead := head_decimal_ne_space command.minute []
      rw [List.append_nil] at hhead
      rw [simTokens_cons (ne_of_all (by decide)) (decimal_ne_nil _) hhead (by decide),
        simTokens_last decimal_no_space (decimal_ne_nil _)]
      rfl

theorem actionText_ne_nil (command : CentralSimCommand) :
    actionText command ≠ [] ∧ (actionText command).head? ≠ some 32 := by
  unfold actionText
  cases command.action with
  | start | stop =>
      dsimp only
      exact ⟨by decide, by decide⟩
  | time => exact ⟨List.cons_ne_nil _ _, fun h => absurd (Option.some.inj h) (by decide)⟩

theorem simTokens_simulationText (command : CentralSimCommand) :
    simTokens 5 (simulationText command) = some (ascii ['S', 'I', 'M', '1'] ::
      decimal command.target :: decimal command.commandId.toNat :: actionTokens command) := by
  obtain ⟨hne, hhead⟩ := actionText_ne_nil command
  rw [simulationText_eq,
    simTokens_cons (ne_of_all (by decide)) (by simp) (head_decimal_ne_space _ _) (by decide),
    simTokens_cons decimal_no_space (by simp) (head_decimal_ne_space _ _) (decimal_ne_nil _),
    simTokens_cons decimal_no_space hne hhead (decimal_ne_nil _), simTokens_actionText]
  rfl

/-- The action of a command in the Local's words. -/
def localAction (command : CentralSimCommand) : SimAction :=
  match command.action with
  | .start => .start
  | .stop => .stop
  | .time => .time command.minute

theorem length_simulationText {command : CentralSimCommand} (htarget : command.target < 256)
    (hminute : command.action = .time → command.minute ≤ 1439) :
    (simulationText command).length < 64 := by
  have htargetLength := @length_decimal command.target 2 (by omega)
  have hid := command.commandId.toNat_lt
  have hidLength := @length_decimal command.commandId.toNat 4 (by omega)
  have haction : (actionText command).length ≤ 9 := by
    unfold actionText
    cases haction : command.action with
    | start => exact (by decide : (ascii ['S', 'T', 'A', 'R', 'T']).length ≤ 9)
    | stop => exact (by decide : (ascii ['S', 'T', 'O', 'P']).length ≤ 9)
    | time =>
        have hlength := @length_decimal command.minute 3 (by
          have hle := hminute haction
          omega)
        simp only [ascii, List.length_append, List.length_cons, List.length_map]
        simp only [List.length_nil]
        omega
  rw [simulationText_eq]
  simp only [ascii, List.length_append, List.length_cons, List.length_map, List.length_nil]
  omega

theorem simulationText_no_nul (command : CentralSimCommand) :
    ∀ c ∈ simulationText command, c ≠ 0 := by
  have haction : ∀ c ∈ actionText command, c ≠ 0 := by
    unfold actionText
    cases command.action with
    | start | stop =>
        dsimp only
        exact ne_of_all (by decide)
    | time =>
        intro c hc
        rcases List.mem_append.mp hc with hword | hminute
        · exact @ne_of_all (ascii ['T', 'I', 'M', 'E']) 0 (by decide) c hword
        · rcases List.mem_cons.mp hminute with rfl | hminute
          · decide
          · exact decimal_no_nul c hminute
  intro c hc
  rw [simulationText_eq] at hc
  simp only [List.mem_append, List.mem_cons] at hc
  rcases hc with hmagic | rfl | htarget | rfl | hid | rfl | hrest
  · exact @ne_of_all (ascii ['S', 'I', 'M', '1']) 0 (by decide) c hmagic
  · decide
  · exact decimal_no_nul c htarget
  · decide
  · exact decimal_no_nul c hid
  · decide
  · exact haction c hrest

theorem parseSimCommand_simulationText {command : CentralSimCommand}
    (htarget : command.target < numIntersections) (hid : command.commandId ≠ 0)
    (hminute : command.action = .time → command.minute ≤ 1439) :
    parseSimCommand (dataOfBytes (simulationText command)) =
      some { target := command.target, commandId := command.commandId.toNat,
             action := localAction command } := by
  have hsix : numIntersections = 6 := rfl
  have hlength := length_simulationText (by omega) hminute
  have hidNat : command.commandId.toNat ≠ 0 := fun h => hid (UInt16.toNat_inj.mp h)
  have hidLt := command.commandId.toNat_lt
  unfold parseSimCommand
  rw [simText_dataOfBytes hlength (simulationText_no_nul command)]
  simp only [Option.bind_eq_bind, Option.bind_some, simTokens_simulationText]
  unfold actionTokens localAction
  cases haction : command.action with
  | start =>
      simp only [ne_eq, not_true_eq_false, if_false,
        parseSimNumber_decimal (by omega : command.target ≤ numIntersections - 1),
        parseSimNumber_decimal (by omega : command.commandId.toNat ≤ 65535),
        Option.bind_some, hidNat]
      rfl
  | stop =>
      simp only [ne_eq, not_true_eq_false, if_false,
        parseSimNumber_decimal (by omega : command.target ≤ numIntersections - 1),
        parseSimNumber_decimal (by omega : command.commandId.toNat ≤ 65535),
        Option.bind_some, hidNat]
      rfl
  | time =>
      simp only [ne_eq, not_true_eq_false, if_false,
        parseSimNumber_decimal (by omega : command.target ≤ numIntersections - 1),
        parseSimNumber_decimal (by omega : command.commandId.toNat ≤ 65535),
        parseSimNumber_decimal (hminute haction), Option.bind_some, hidNat]
      rfl

theorem minute_le_of_simulationFields {tokens : List (List UInt8)} {command : CentralSimCommand}
    (h : simulationFields tokens = some command) (htime : command.action = .time) :
    command.minute ≤ 1439 := by
  unfold simulationFields at h
  split at h
  · split at h
    · cases h
    · simp only [Option.bind_eq_bind, Option.bind_eq_some_iff] at h
      obtain ⟨target, -, h⟩ := h
      split at h
      · cases h
      · obtain ⟨id, -, h⟩ := Option.bind_eq_some_iff.mp h
        split at h
        · split at h
          · cases h
            cases htime
          · split at h
            · cases h
              cases htime
            · cases h
        · split at h
          · obtain ⟨minute, hminute, rfl⟩ := Option.map_eq_some_iff.mp h
            unfold parseNumber at hminute
            split at hminute
            · cases hminute
            · exact readBounded_le (Nat.zero_le _) (Option.filter_eq_some_iff.mp hminute).1
          · cases h
        · cases h
  · cases h

theorem of_centralSimulationDecode {message : TestMessage} {command : CentralSimCommand}
    (h : centralSimulationDecode message = some command) :
    message.header.type = msgTest ∧ (command.action = .time → command.minute ≤ 1439) := by
  unfold centralSimulationDecode at h
  split at h
  · cases h
  · rename_i hheader
    have htype : message.header.type = msgTest := by
      by_contra hne
      exact hheader (Or.inl hne)
    dsimp only at h
    split at h
    · cases h
    · split at h
      · cases h
      · refine ⟨htype, ?_⟩
        exact minute_le_of_simulationFields (Option.filter_eq_some_iff.mp h).1

/-- A reply of the Local as it arrives at Central. -/
def replyMsgOf (reply : Reply) (timestamp : Fin 32 → UInt8) : ReplyMsg :=
  { status := Int8.ofInt reply.status
    timestamp
    commandId := reply.commandId }

theorem validateReply_accepted (message : TestMessage) (hour minute second : Nat) :
    validateReply message (replyMsgOf { status := 0, commandId := centralCommandId message }
      (timestampOf hour minute second)) 0 = .ok := by
  simp [validateReply, replyMsgOf]

theorem validateReply_refused (message : TestMessage) (hour minute second : Nat) :
    validateReply message (replyMsgOf { status := -1, commandId := centralCommandId message }
      (timestampOf hour minute second)) 0 = .rejected := by
  cases hdecode : centralSimulationDecode message <;>
    simp [validateReply, replyMsgOf, hdecode]

/-- The frames with a command: modes, coordination and SIM texts. -/
def isCommandFrame (msg : TestMessage) : Prop :=
  msg.header.type = msgModeCommand ∨ msg.header.type = msgCoordinationCommand ∨
    (msg.header.type = msgTest ∧
      [msg.data 0, msg.data 1, msg.data 2] = ascii ['S', 'I', 'M'])

/-- The command is for this Local, and its offset fits the Local's cycle. -/
def Takes (s : LocalState) (msg : TestMessage) : Prop :=
  targetMatchesLocal s (UInt8.ofNat (centralCommandTarget msg)) ∧
    (msg.header.type = msgCoordinationCommand →
      ((CoordinationCommandMsg.ofData msg.data).cycleOffsetSec.toNat : Int) <
        localFixedCycleSecondsLocked s)

/-- The state before the number of a command is recorded. -/
def Prepared (s s' : LocalState) : Prop :=
  s'.statusSequence = s.statusSequence ∨ s'.statusSequence = bumpSequence s.statusSequence

/-- A command is applied under its number or refused under its number. -/
def Answered (s : LocalState) (msg : TestMessage) (result : LocalState × Reply × Int) : Prop :=
  let id := centralCommandId msg
  (Takes s msg ∧ ∃ s', Prepared s s' ∧
      result = (applied s' id, { status := 0, commandId := id }, 0)) ∨
    (¬ Takes s msg ∧ result = (s, { status := -1, commandId := id }, 0))

theorem prepared_modeActionLocked {s s' : LocalState} {command : ModeCmdMsg}
    (h : modeActionLocked s command = some s') : Prepared s s' := by
  unfold modeActionLocked at h
  split at h
  · cases h
    exact Or.inr rfl
  · split at h
    · cases h
      refine Or.inr ?_
      dsimp only [clearFaultLocked, markStatusDirtyLocked]
      split <;> rfl
    · split at h
      · cases h
        unfold Prepared
        split <;> split <;> first | exact Or.inl rfl | exact Or.inr rfl
      · cases h

theorem exists_modeActionLocked (s : LocalState) {command : ModeCmdMsg}
    (haction : command.action ≤ cmdRevert)
    (hduration : if command.action = cmdTemporary then command.durationSec ≠ 0
      else command.durationSec = 0) : ∃ s', modeActionLocked s command = some s' := by
  have hcases : command.action = cmdSetMode ∨ command.action = cmdTemporary ∨
      command.action = cmdRevert := by
    have hle : command.action.toNat ≤ 2 := UInt8.le_iff_toNat_le.mp haction
    simp only [← UInt8.toNat_inj]
    have hset : cmdSetMode.toNat = 0 := rfl
    have htemporary : cmdTemporary.toNat = 1 := rfl
    have hrevert : cmdRevert.toNat = 2 := rfl
    omega
  unfold modeActionLocked
  rcases hcases with h | h | h
  · rw [h, if_neg (by decide)] at hduration
    rw [if_pos ⟨h, hduration⟩]
    exact ⟨_, rfl⟩
  · rw [h, if_pos rfl] at hduration
    rw [if_neg (fun hset => absurd (h.symm.trans hset.1) (by decide)),
      if_pos ⟨h, UInt16.pos_iff_ne_zero.mpr hduration⟩]
    exact ⟨_, rfl⟩
  · rw [h, if_neg (by decide)] at hduration
    rw [if_neg (fun hset => absurd (h.symm.trans hset.1) (by decide)),
      if_neg (fun htemporary => absurd (h.symm.trans htemporary.1) (by decide)),
      if_pos ⟨h, hduration⟩]
    exact ⟨_, rfl⟩

theorem dispatch_found {msg : TestMessage} {entry : MessageHandlerEntry} (s : LocalState)
    (draws : Draws) (hdst : msg.header.dst = controllerLocal)
    (htype : msg.header.type ≠ msgHeartbeat)
    (hentry : handlers.find? (·.accepts msg.header) = some entry) :
    localDispatchMessage s msg draws =
      ((entry.handler.run s msg { status := 0, commandId := 0 } draws).1,
        (entry.handler.run s msg { status := 0, commandId := 0 } draws).2, 0) := by
  unfold localDispatchMessage
  rw [hentry, if_neg (not_not_intro hdst), if_neg htype]

theorem answered_mode {msg : TestMessage} (s : LocalState) (draws : Draws)
    (htype : msg.header.type = msgModeCommand) (hsrc : msg.header.src = controllerCentral)
    (hdst : msg.header.dst = controllerLocal)
    (hvalid : modeCommandFrameValid controllerCentral controllerLocal
      (.ofData msg.data) = true) : Answered s msg (localDispatchMessage s msg draws) := by
  obtain ⟨-, -, -, hmode, haction, hlow, hhigh, hid, hduration⟩ := of_decide_eq_true hvalid
  have hcommandId : centralCommandId msg = (ModeCmdMsg.ofData msg.data).commandId :=
    if_pos htype
  have htakes : Takes s msg ↔
      targetMatchesLocal s (ModeCmdMsg.ofData msg.data).intersectionId = true := by
    have htarget : centralCommandTarget msg =
        (ModeCmdMsg.ofData msg.data).intersectionId.toNat := if_pos htype
    unfold Takes
    rw [htarget, UInt8.ofNat_toNat, htype]
    constructor
    · exact And.left
    · intro h
      exact ⟨h, fun hother => absurd hother (by decide)⟩
  have hentry : handlers.find? (·.accepts msg.header) =
      some ⟨msgModeCommand, some controllerCentral, .mode⟩ := by
    simp only [handlers, MessageHandlerEntry.accepts, htype, hsrc]
    rfl
  have hbeat : msg.header.type ≠ msgHeartbeat := by
    rw [htype]
    decide
  rw [dispatch_found s draws hdst hbeat hentry]
  dsimp only [Handler.run]
  unfold Answered handleModeCommand
  rw [hcommandId, htakes]
  by_cases hmatch : targetMatchesLocal s (ModeCmdMsg.ofData msg.data).intersectionId = true
  · obtain ⟨s', hs'⟩ := exists_modeActionLocked s haction hduration
    have hcommand : modeCommandValid s msg (ModeCmdMsg.ofData msg.data) = true :=
      decide_eq_true ⟨hsrc, hmatch, hid, hmode, hlow, hhigh, haction⟩
    left
    refine ⟨hmatch, s', prepared_modeActionLocked hs', ?_⟩
    simp only [hcommand, if_true, hs']
    rfl
  · have hcommand : ¬ modeCommandValid s msg (ModeCmdMsg.ofData msg.data) = true := by
      intro h
      exact hmatch (of_decide_eq_true h).2.1
    right
    refine ⟨hmatch, ?_⟩
    simp only [hcommand]
    rfl

theorem answered_coordination {msg : TestMessage} (s : LocalState) (draws : Draws)
    (htype : msg.header.type = msgCoordinationCommand)
    (hsrc : msg.header.src = controllerCentral) (hdst : msg.header.dst = controllerLocal)
    (hvalid : coordinationFrameValid controllerCentral controllerLocal
      (.ofData msg.data) = true) : Answered s msg (localDispatchMessage s msg draws) := by
  obtain ⟨-, -, -, hmode, hphase, hreserved, hid, -⟩ := of_decide_eq_true hvalid
  have hother : ¬ msg.header.type = msgModeCommand := by
    rw [htype]
    decide
  have hcommandId : centralCommandId msg =
      (CoordinationCommandMsg.ofData msg.data).commandId := by
    unfold centralCommandId
    rw [if_neg hother, if_pos htype]
  have htakes : Takes s msg ↔
      targetMatchesLocal s (CoordinationCommandMsg.ofData msg.data).intersectionId = true ∧
        ((CoordinationCommandMsg.ofData msg.data).cycleOffsetSec.toNat : Int) <
          localFixedCycleSecondsLocked s := by
    have htarget : centralCommandTarget msg =
        (CoordinationCommandMsg.ofData msg.data).intersectionId.toNat := by
      unfold centralCommandTarget
      rw [if_neg hother, if_pos htype]
    unfold Takes
    rw [htarget, UInt8.ofNat_toNat]
    exact and_congr_right' ⟨fun h => h htype, fun h _ => h⟩
  have hentry : handlers.find? (·.accepts msg.header) =
      some ⟨msgCoordinationCommand, some controllerCentral, .coordination⟩ := by
    simp only [handlers, MessageHandlerEntry.accepts, htype, hsrc]
    rfl
  have hbeat : msg.header.type ≠ msgHeartbeat := by
    rw [htype]
    decide
  rw [dispatch_found s draws hdst hbeat hentry]
  dsimp only [Handler.run]
  unfold Answered handleCoordinationCommand
  rw [hcommandId, htakes]
  by_cases htake : targetMatchesLocal s
      (CoordinationCommandMsg.ofData msg.data).intersectionId = true ∧
        ((CoordinationCommandMsg.ofData msg.data).cycleOffsetSec.toNat : Int) <
          localFixedCycleSecondsLocked s
  · have hcommand : coordinationCommandValid s msg (.ofData msg.data) = true :=
      decide_eq_true ⟨hsrc, htake.1, hid, hmode, hreserved, htake.2, hphase⟩
    left
    refine ⟨htake, clearFaultLocked
      { s with
        trafficMode := .fixed
        manualModeOverride := true
        coordinationPhase := phaseOfByte (CoordinationCommandMsg.ofData msg.data).phase
        coordinationOffsetSec :=
          (CoordinationCommandMsg.ofData msg.data).cycleOffsetSec.toNat
        coordinationPending := true }, Or.inr rfl, ?_⟩
    simp only [hcommand, if_true]
    rfl
  · have hcommand : ¬ coordinationCommandValid s msg (.ofData msg.data) = true := by
      intro h
      obtain ⟨-, hmatch, -, -, -, hoffset, -⟩ := of_decide_eq_true h
      exact htake ⟨hmatch, hoffset⟩
    right
    refine ⟨htake, ?_⟩
    simp only [hcommand]
    rfl

theorem prepared_applyTimeSettingsLocked (s : LocalState) :
    Prepared s (applyTimeSettingsLocked s) := by
  unfold applyTimeSettingsLocked
  split
  · exact Or.inr rfl
  · exact Or.inl rfl

theorem prepared_simActionLocked (s : LocalState) (action : SimAction) (draws : Draws) :
    Prepared s (simActionLocked s action draws) := by
  cases action with
  | start => exact Or.inl rfl
  | stop => exact Or.inl rfl
  | time minute =>
      dsimp only [simActionLocked, setSimMinuteLocked, setSimSecondsLocked]
      split <;> exact prepared_applyTimeSettingsLocked _

theorem answered_simulation {msg : TestMessage} (s : LocalState) (draws : Draws)
    (htype : msg.header.type = msgTest) (hsrc : msg.header.src = controllerCentral)
    (hdst : msg.header.dst = controllerLocal)
    (hsim : [msg.data 0, msg.data 1, msg.data 2] = ascii ['S', 'I', 'M'])
    (hvalid : testValid msg controllerLocal = true) :
    Answered s msg (localDispatchMessage s msg draws) := by
  unfold testValid at hvalid
  rw [if_pos ⟨hsrc, rfl, hsim⟩] at hvalid
  cases hdecode : centralSimulationDecode msg with
  | none =>
      rw [hdecode] at hvalid
      cases hvalid
  | some command =>
      rw [hdecode] at hvalid
      obtain ⟨hid, htarget⟩ := of_decide_eq_true hvalid
      have hparse : parseSimCommand msg.data = some
          { target := command.target, commandId := command.commandId.toNat,
            action := localAction command } := by
        rw [data_of_centralSimulationDecode hdecode]
        exact parseSimCommand_simulationText htarget hid
          (of_centralSimulationDecode hdecode).2
      have hmode : ¬ msg.header.type = msgModeCommand := by
        rw [htype]
        decide
      have hcoordination : ¬ msg.header.type = msgCoordinationCommand := by
        rw [htype]
        decide
      have hcommandId : centralCommandId msg = command.commandId := by
        unfold centralCommandId
        rw [if_neg hmode, if_neg hcoordination, hdecode]
      have htakes : Takes s msg ↔
          targetMatchesLocal s (UInt8.ofNat command.target) = true := by
        unfold Takes centralCommandTarget
        rw [if_neg hmode, if_neg hcoordination, hdecode]
        exact ⟨And.left, fun h => ⟨h, fun hother => absurd hother hcoordination⟩⟩
      have hentry : handlers.find? (·.accepts msg.header) =
          some ⟨msgTest, some controllerCentral, .simulation⟩ := by
        simp only [handlers, MessageHandlerEntry.accepts, htype, hsrc]
        rfl
      have hbeat : msg.header.type ≠ msgHeartbeat := by
        rw [htype]
        decide
      rw [dispatch_found s draws hdst hbeat hentry]
      dsimp only [Handler.run]
      unfold Answered handleSimulationMessage
      rw [hcommandId, htakes, hparse]
      dsimp only
      rw [UInt16.ofNat_toNat]
      by_cases hmatch : targetMatchesLocal s (UInt8.ofNat command.target) = true
      · left
        refine ⟨hmatch, _, prepared_simActionLocked s (localAction command) draws, ?_⟩
        rw [if_pos ⟨hsrc, hdst, hmatch⟩]
        rfl
      · right
        refine ⟨hmatch, ?_⟩
        rw [if_neg fun h => hmatch h.2.2]
        rfl

theorem answered_of_centralFrameValid {msg : TestMessage} (s : LocalState) (draws : Draws)
    (hkind : isCommandFrame msg) (hsrc : msg.header.src = controllerCentral)
    (hvalid : centralFrameValid msg controllerLocal = true) :
    Answered s msg (localDispatchMessage s msg draws) := by
  unfold centralFrameValid at hvalid
  split at hvalid
  · cases hvalid
  · rename_i hheader
    have hdst : msg.header.dst = controllerLocal := by
      by_contra hne
      exact hheader (Or.inr (Or.inr (Or.inl hne)))
    dsimp only at hvalid
    rcases hkind with htype | htype | ⟨htype, hsim⟩
    · rw [htype] at hvalid
      rw [hsrc] at hvalid
      exact answered_mode s draws htype hsrc hdst hvalid
    · rw [htype] at hvalid
      rw [hsrc] at hvalid
      exact answered_coordination s draws htype hsrc hdst hvalid
    · rw [if_pos htype] at hvalid
      exact answered_simulation s draws htype hsrc hdst hsim hvalid

/-- The result of a command to a Local that answers at the given time of day. -/
def recorded (s : LocalState) (msg : TestMessage) (draws : Draws) (hour minute second : Nat) :
    SendResult :=
  validateReply msg (replyMsgOf (localDispatchMessage s msg draws).2.1
    (timestampOf hour minute second)) 0

/-- The command is the last one the Local applied, and a new status is due. -/
def AppliedNow (s s' : LocalState) (msg : TestMessage) : Prop :=
  s'.lastAppliedCommandId = centralCommandId msg ∧ s'.statusSequence ≠ s.statusSequence

theorem appliedNow_applied {s s' : LocalState} (msg : TestMessage) (h : Prepared s s') :
    AppliedNow s (applied s' (centralCommandId msg)) msg := by
  refine ⟨rfl, ?_⟩
  change bumpSequence s'.statusSequence ≠ s.statusSequence
  rcases h with h | h
  · rw [h]
    exact @iterate_bumpSequence_ne _ 0 (by decide)
  · rw [h]
    exact @iterate_bumpSequence_ne _ 1 (by decide)

/-- Central records success for just the commands the Local applied; every other
command left the Local as it was. -/
theorem recorded_agrees {s : LocalState} {msg : TestMessage}
    (hkind : isCommandFrame msg) (hsrc : msg.header.src = controllerCentral)
    (hvalid : centralFrameValid msg controllerLocal = true) (draws : Draws)
    (hour minute second : Nat) :
    let s' := (localDispatchMessage s msg draws).1
    let result := recorded s msg draws hour minute second
    (result = .ok ↔ AppliedNow s s' msg) ∧
      (¬ AppliedNow s s' msg → result = .rejected ∧ s' = s) ∧
      result ≠ .protocol ∧ (result = .ok ↔ Takes s msg) := by
  dsimp only
  have hanswered := answered_of_centralFrameValid s draws hkind hsrc hvalid
  unfold recorded
  rcases hanswered with ⟨htakes, s', hs', hresult⟩ | ⟨htakes, hresult⟩
  · have happlied := appliedNow_applied msg hs'
    rw [hresult]
    dsimp only
    rw [validateReply_accepted]
    refine ⟨?_, ?_, ?_, ?_⟩
    · exact ⟨fun _ => happlied, fun _ => rfl⟩
    · exact fun h => absurd happlied h
    · exact fun h => nomatch h
    · exact ⟨fun _ => htakes, fun _ => rfl⟩
  · have hunapplied : ¬ AppliedNow s s msg := fun h => h.2 rfl
    rw [hresult]
    dsimp only
    rw [validateReply_refused]
    refine ⟨?_, ?_, ?_, ?_⟩
    · exact ⟨(nomatch ·), fun h => absurd h hunapplied⟩
    · exact fun _ => ⟨rfl, rfl⟩
    · exact fun h => nomatch h
    · exact ⟨(nomatch ·), fun h => absurd h htakes⟩

/-- A frame of Central. -/
def centralFrame (type : UInt16) (payload : List UInt8) : TestMessage :=
  { header :=
      { type, src := controllerCentral, dst := controllerLocal, reserved := 0,
        timestamp := fun _ => 0 }
    data := dataOfBytes payload }

/-- Command 5: I1 changes to Sensor. -/
def setSensorFrame : TestMessage :=
  centralFrame msgModeCommand (ModeCmdMsg.toBytes
    { intersectionId := 0, newMode := TrafficLightMode.sensor.toByte, action := cmdSetMode,
      priority := cmdPrioOperator, durationSec := 0, commandId := 5 })

/-- Command 5 again: I1 starts a Green 60 seconds into its cycle of 44. -/
def lateOffsetFrame : TestMessage :=
  centralFrame msgCoordinationCommand (CoordinationCommandMsg.toBytes
    { intersectionId := 0, mode := TrafficLightMode.fixed.toByte,
      phase := Phase.nsGreen.toByte, reserved := 0, cycleOffsetSec := 60, commandId := 5 })

theorem recorded_agrees_setSensor :
    recorded (localStateInit 0 .zero) setSensorFrame .zero 6 0 0 = .ok ∧
      recorded (localStateInit 0 .zero) lateOffsetFrame .zero 6 0 0 = .rejected := by
  have hset := @recorded_agrees (localStateInit 0 .zero) setSensorFrame (Or.inl rfl) rfl
    (by decide +kernel) .zero 6 0 0
  have hlate := @recorded_agrees (localStateInit 0 .zero) lateOffsetFrame
    (Or.inr (Or.inl rfl)) rfl (by decide +kernel) .zero 6 0 0
  refine ⟨hset.1.mpr ⟨by decide +kernel, by decide +kernel⟩, (hlate.2.1 ?_).1⟩
  rintro ⟨hid, -⟩
  exact absurd hid (by decide +kernel)

/-- A refused command may carry the number of the last applied one. -/
theorem not_recorded_iff_last_applied :
    ¬ ∀ (s : LocalState) (msg : TestMessage) (draws : Draws),
      Reachable Booted localStep s → isCommandFrame msg →
        msg.header.src = controllerCentral → centralFrameValid msg controllerLocal = true →
        ∀ hour minute second, (recorded s msg draws hour minute second = .ok ↔
          (localDispatchMessage s msg draws).1.lastAppliedCommandId = centralCommandId msg) := by
  intro h
  have hboot : Reachable Booted localStep (localStateInit 0 .zero) := .init ⟨0, .zero, rfl⟩
  have hreach := hboot.step (.frame setSensorFrame .zero)
  have hlast := h _ lateOffsetFrame .zero hreach (Or.inr (Or.inl rfl)) rfl (by decide +kernel)
    6 0 0
  have hok := hlast.mpr (by decide +kernel)
  exact absurd hok (by decide +kernel)

end TrafficLight.CommandAgreement
