import TrafficLight.CentralFrames

/-!
A reply that is cut off, from `ipc.c`. The kernel reports no length, so Central
fills its buffer such that no prefix of a reply makes an answer of it.
-/

namespace TrafficLight.TruncatedReplies

open TrafficLight.Protocol
open TrafficLight.CentralCommands
open TrafficLight.CentralFrames

inductive ByteOrder
  | little
  | big

def wordBytes : ByteOrder → UInt16 → UInt8 × UInt8
  | .little, w => (w.toUInt8, (w >>> 8).toUInt8)
  | .big, w => ((w >>> 8).toUInt8, w.toUInt8)

def wordOfBytes : ByteOrder → UInt8 × UInt8 → UInt16
  | .little, (first, second) => le16 first second
  | .big, (first, second) => le16 second first

theorem wordBytes_wordOfBytes (order : ByteOrder) (bytes : UInt8 × UInt8) :
    wordBytes order (wordOfBytes order bytes) = bytes := by
  cases order with
  | little => exact Prod.ext (le16_low ..) (le16_high ..)
  | big => exact Prod.ext (le16_high ..) (le16_low ..)

theorem wordOfBytes_ne (order : ByteOrder) {bytes : UInt8 × UInt8} {w : UInt16}
    (hsecond : bytes.2 ≠ (wordBytes order w).2) : wordOfBytes order bytes ≠ w := by
  rintro rfl
  rw [wordBytes_wordOfBytes] at hsecond
  exact hsecond rfl

abbrev replySize : Nat := 36
def commandIdOffset : Nat := 34

/-- `reply_t` in memory, with the padding in front of its command ID. -/
abbrev ReplyBytes := Fin replySize → UInt8

def replyOfBytes (order : ByteOrder) (bytes : ReplyBytes) : ReplyMsg :=
  { status := (bytes 0).toInt8
    timestamp := fun i => bytes ⟨i.val + 1, Nat.lt_trans (Nat.succ_lt_succ i.isLt) (by decide)⟩
    commandId := wordOfBytes order (bytes 34, bytes 35) }

def prepareBytes (order : ByteOrder) (request : TestMessage) : ReplyBytes :=
  let expected := wordBytes order (centralCommandId request)
  fun i =>
    if i = 34 then pendingByte expected.1
    else if i = 35 then pendingByte expected.2
    else 0xa5

/-- The first bytes of a reply arrive in the buffer. -/
def overlay (length : Nat) (sent buffer : ReplyBytes) : ReplyBytes :=
  fun i => if i.val < length then sent i else buffer i

/-- What Central finds in its buffer when `length` bytes of a reply have come. -/
def received (order : ByteOrder) (length : Nat) (request : TestMessage) (sent : ReplyBytes) :
    ReplyMsg :=
  replyOfBytes order (overlay length sent (prepareBytes order request))

theorem received_complete (order : ByteOrder) (request : TestMessage) (sent : ReplyBytes) :
    received order replySize request sent = replyOfBytes order sent := by
  have hall : overlay replySize sent (prepareBytes order request) = sent := by
    funext i
    exact if_pos i.isLt
  unfold received
  rw [hall]

theorem pendingByte_ne (expected : UInt8) :
    pendingByte expected ≠ expected ∧ pendingByte expected ≠ 0 := by
  unfold pendingByte
  split
  · rename_i hexpected
    rw [hexpected]
    decide
  · rename_i hexpected
    exact ⟨Ne.symm hexpected, by decide⟩

/-- The last byte of the ID has not come, and what is in its place belongs neither
to the ID nor to a zero. -/
theorem received_commandId {order : ByteOrder} {length : Nat} (hcut : length < replySize)
    (request : TestMessage) (sent : ReplyBytes) :
    (received order length request sent).commandId ≠ centralCommandId request ∧
      (received order length request sent).commandId ≠ 0 := by
  have hlast : overlay length sent (prepareBytes order request) 35 =
      pendingByte (wordBytes order (centralCommandId request)).2 := by
    have hlate : ¬ 35 < length := by
      unfold replySize at hcut
      omega
    exact if_neg hlate
  obtain ⟨hexpected, hzero⟩ := pendingByte_ne (wordBytes order (centralCommandId request)).2
  have hnothing : (wordBytes order 0).2 = 0 := by
    cases order <;> rfl
  constructor
  · apply wordOfBytes_ne order
    rwa [hlast]
  · apply wordOfBytes_ne order
    rwa [hlast, hnothing]

/-- The reply says that the request was carried out. -/
def Acknowledges (request : TestMessage) (reply : ReplyMsg) : Prop :=
  reply.status = 0 ∧ reply.commandId = centralCommandId request

/-- The reply says that the request was turned down. An old peer answers zero for the
ID, but none knows SIM1. -/
def Refuses (request : TestMessage) (reply : ReplyMsg) : Prop :=
  reply.status = -1 ∧ (reply.commandId = centralCommandId request ∨
    centralSimulationDecode request = none ∧ reply.commandId = 0)

theorem validateReply_unanswered {request : TestMessage} {reply : ReplyMsg}
    (hid : reply.commandId ≠ centralCommandId request) (hzero : reply.commandId ≠ 0) :
    validateReply request reply 0 = .protocol := by
  have hneither : ¬ (reply.commandId = 0 ∨ reply.commandId = centralCommandId request) :=
    not_or_intro hzero hid
  unfold validateReply
  dsimp only
  by_cases hmalformed : (0 : Int) ≠ 0 ∨ terminated reply.timestamp = false
  · exact if_pos hmalformed
  · rw [if_neg hmalformed]
    by_cases hstatus : reply.status = -1
    · rw [if_pos hstatus]
      cases centralSimulationDecode request with
      | some simulation => exact if_neg hid
      | none => exact if_neg hneither
    · rw [if_neg hstatus, if_pos (.inr hid)]

theorem validateReply_acknowledged {request : TestMessage} {reply : ReplyMsg}
    (hterminated : terminated reply.timestamp = true) (h : Acknowledges request reply) :
    validateReply request reply 0 = .ok := by
  obtain ⟨hstatus, hid⟩ := h
  unfold validateReply
  dsimp only
  rw [if_neg (by simp [hterminated]), if_neg (by rw [hstatus]; decide),
    if_neg (by simp [hstatus, hid])]

theorem validateReply_refused {request : TestMessage} {reply : ReplyMsg}
    (hterminated : terminated reply.timestamp = true) (h : Refuses request reply) :
    validateReply request reply 0 = .rejected := by
  obtain ⟨hstatus, hid⟩ := h
  unfold validateReply
  dsimp only
  rw [if_neg (by simp [hterminated]), if_pos hstatus]
  cases hdecode : centralSimulationDecode request with
  | some simulation =>
      obtain hid | ⟨hnone, -⟩ := hid
      · exact if_pos hid
      · rw [hdecode] at hnone
        cases hnone
  | none => exact if_pos (hid.symm.imp_left And.right)

theorem validateReply_neither {request : TestMessage} {reply : ReplyMsg}
    (hterminated : terminated reply.timestamp = true) (hacks : ¬ Acknowledges request reply)
    (hrefuses : ¬ Refuses request reply) : validateReply request reply 0 = .protocol := by
  unfold validateReply
  dsimp only
  rw [if_neg (by simp [hterminated])]
  by_cases hstatus : reply.status = -1
  · rw [if_pos hstatus]
    have hid : ¬ (reply.commandId = centralCommandId request ∨
        centralSimulationDecode request = none ∧ reply.commandId = 0) :=
      fun hid => hrefuses ⟨hstatus, hid⟩
    obtain ⟨hother, hsim⟩ := not_or.mp hid
    cases hdecode : centralSimulationDecode request with
    | some simulation => exact if_neg hother
    | none => exact if_neg (not_or_intro (fun hzero => hsim ⟨hdecode, hzero⟩) hother)
  · rw [if_neg hstatus, if_pos (not_and_or.mp hacks)]

theorem not_acknowledges_and_refuses {request : TestMessage} {reply : ReplyMsg} :
    ¬ (Acknowledges request reply ∧ Refuses request reply) := by
  rintro ⟨⟨hzero, -⟩, hminus, -⟩
  rw [hzero] at hminus
  exact absurd hminus (by decide)

/-- No cut leaves an answer in the buffer. A complete reply is an acknowledgement, a
refusal or neither, and is read as that. -/
theorem reply_classified (order : ByteOrder) (request : TestMessage) (sent : ReplyBytes) :
    (∀ length < commandIdOffset + 2,
      validateReply request (received order length request sent) 0 = .protocol) ∧
    (terminated (replyOfBytes order sent).timestamp = true →
      let reply := replyOfBytes order sent
      let result := validateReply request (received order replySize request sent) 0
      (result = .ok ↔ Acknowledges request reply) ∧
        (result = .rejected ↔ Refuses request reply) ∧
          (result = .protocol ↔ ¬ Acknowledges request reply ∧ ¬ Refuses request reply)) := by
  constructor
  · intro length hcut
    obtain ⟨hid, hzero⟩ := received_commandId hcut request sent
    exact validateReply_unanswered hid hzero
  · intro hterminated reply result
    have hexclusive : ¬ (Acknowledges request reply ∧ Refuses request reply) :=
      not_acknowledges_and_refuses
    have hresult : result = validateReply request reply 0 := by
      show validateReply request (received order replySize request sent) 0 = _
      rw [received_complete]
    rw [hresult]
    by_cases hacks : Acknowledges request reply
    · have hrefuses : ¬ Refuses request reply := fun h => hexclusive ⟨hacks, h⟩
      rw [validateReply_acknowledged hterminated hacks]
      simp [hacks, hrefuses]
    · by_cases hrefuses : Refuses request reply
      · rw [validateReply_refused hterminated hrefuses]
        simp [hacks, hrefuses]
      · rw [validateReply_neither hterminated hacks hrefuses]
        simp [hacks, hrefuses]

/-- A complete refusal of the ID that looks like the fill of the buffer. -/
theorem reply_classified_refusal :
    let request := frameOf msgModeCommand controllerCentral controllerLocal
      (ModeCmdMsg.toBytes ⟨0, 0, cmdSetMode, cmdPrioOperator, 0, 0xa5a5⟩)
    let sent : ReplyBytes := fun i => if i = 0 then 0xff else if i < 34 then 0 else 0xa5
    validateReply request (received .little replySize request sent) 0 = .rejected := by
  intro request sent
  have hanswer := (reply_classified .little request sent).2 (by decide)
  exact hanswer.2.1.mpr ⟨by decide, .inl (by decide)⟩

end TrafficLight.TruncatedReplies
