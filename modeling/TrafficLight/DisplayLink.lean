import Mathlib.Data.List.DropRight
import Mathlib.Data.List.GetD
import Mathlib.Data.List.TakeWhile
import TrafficLight.Decimal
import TrafficLight.Protocol

/-!
The link between Central and its display, from `ui_ipc.c`, with the buffer that
`output` fills and the request handler `ui_command` of `central_controller.c`. A request
goes out once; what comes back is shown only if it is a whole response.
-/

namespace TrafficLight.DisplayLink

open TrafficLight.Protocol
open TrafficLight.Decimal

def requestSize : Nat := 256
def textSize : Nat := 16384
abbrev responseSize : Nat := 16404

def uiMessageType : UInt16 := 0x7000
def uiProtocolVersion : UInt16 := 1
def uiResponseMagic : UInt32 := 0x43554931

/-- What stands in an array in front of its first zero. -/
def cString {n : Nat} (memory : Fin n → UInt8) : List UInt8 :=
  (List.ofFn memory).takeWhile (· ≠ 0)

/-- A text in a cleared array. -/
def inMemory (n : Nat) (text : List UInt8) : Fin n → UInt8 := fun i => text.getD i 0

/-- A text that C can print: it has no zero. -/
def Printed : Type := { bytes : List UInt8 // ∀ c ∈ bytes, c ≠ 0 }

/-- The loop of `valid_text`, which must meet a zero. -/
def validBytes : List UInt8 → Bool
  | [] => false
  | c :: rest =>
      if c = 0 then true
      else if (c < 32 ∧ c ≠ 9) ∨ c > 126 then false
      else validBytes rest

theorem ofFn_inMemory {n : Nat} {text : List UInt8} (hlength : text.length < n) :
    List.ofFn (inMemory n text) = text ++ 0 :: List.replicate (n - text.length - 1) 0 := by
  apply List.ext_getElem
  · simp only [List.length_ofFn, List.length_append, List.length_cons, List.length_replicate]
    omega
  · intro i hi hi'
    rw [List.getElem_ofFn]
    show text.getD i 0 = _
    by_cases hin : i < text.length
    · rw [List.getD_eq_getElem _ _ hin, List.getElem_append_left hin]
    · rw [List.getD_eq_default _ _ (by omega), List.getElem_append_right (by omega)]
      rw [List.getElem_cons]
      split
      · rfl
      · exact (List.getElem_replicate _).symm

theorem cString_inMemory {n : Nat} {text : List UInt8} (htext : ∀ c ∈ text, c ≠ 0)
    (hlength : text.length < n) : cString (inMemory n text) = text := by
  rw [cString, ofFn_inMemory hlength,
    List.takeWhile_append_of_pos fun c hc => decide_eq_true (htext c hc)]
  simp

theorem cString_ne_zero {n : Nat} (memory : Fin n → UInt8) : ∀ c ∈ cString memory, c ≠ 0 := by
  intro c hc
  simpa using List.mem_takeWhile_imp hc

theorem length_cString_le {n : Nat} (memory : Fin n → UInt8) : (cString memory).length ≤ n := by
  have hle := (List.takeWhile_sublist (l := List.ofFn memory) (· ≠ 0)).length_le
  rwa [List.length_ofFn] at hle

theorem cString_spec {n : Nat} (memory : Fin n → UInt8) (hzero : ∃ i, memory i = 0) :
    ∃ h : (cString memory).length < n, memory ⟨(cString memory).length, h⟩ = 0 := by
  obtain ⟨i, hi⟩ := hzero
  have hlt : (cString memory).length < n := by
    by_contra hall
    have hlength : (cString memory).length = (List.ofFn memory).length := by
      rw [List.length_ofFn]
      exact Nat.le_antisymm (length_cString_le memory) (not_lt.mp hall)
    have hself : cString memory = List.ofFn memory :=
      (List.takeWhile_prefix _).eq_of_length hlength
    have hmem : memory i ∈ cString memory := by
      rw [hself]
      exact (List.mem_ofFn' memory _).mpr ⟨i, rfl⟩
    exact cString_ne_zero memory _ hmem hi
  refine ⟨hlt, ?_⟩
  have hstop := List.takeWhile_append_dropWhile (p := (· ≠ (0 : UInt8))) (l := List.ofFn memory)
  have hrest : (List.ofFn memory).dropWhile (· ≠ 0) ≠ [] := by
    intro hnil
    rw [hnil, List.append_nil] at hstop
    have hlength := congrArg List.length hstop
    rw [List.length_ofFn] at hlength
    exact absurd hlength hlt.ne
  have hhead := List.head_dropWhile_not (fun c : UInt8 => decide (c ≠ 0)) hrest
  have hget : (List.ofFn memory)[(cString memory).length]? =
      some ((List.ofFn memory).dropWhile (· ≠ 0) |>.head hrest) := by
    conv_lhs => rw [← hstop]
    rw [cString, List.getElem?_append_right le_rfl, Nat.sub_self, ← List.head?_eq_getElem?,
      List.head?_eq_some_head hrest]
  rw [List.getElem?_eq_getElem (by rwa [List.length_ofFn]), List.getElem_ofFn] at hget
  rw [Option.some.inj hget]
  simpa using hhead

/-- `ui_request_t` -/
structure UiRequest where
  type : UInt16
  version : UInt16
  text : Fin requestSize → UInt8

/-- `ui_response_t` -/
structure UiResponse where
  magic : UInt32
  version : UInt16
  reserved : UInt16
  status : Int32
  length : UInt32
  text : Fin textSize → UInt8
  trailer : UInt32

/-- A byte of a number, the lowest first. -/
def byteOf (w : UInt32) (k : Nat) : UInt8 := UInt8.ofNat (w.toNat / 256 ^ k)

def le32 (first second third fourth : UInt8) : UInt32 :=
  UInt32.ofNat (first.toNat + 256 * second.toNat + 65536 * third.toNat + 16777216 * fourth.toNat)

theorem le32_byteOf (w : UInt32) :
    le32 (byteOf w 0) (byteOf w 1) (byteOf w 2) (byteOf w 3) = w := by
  have hlt := w.toNat_lt
  apply UInt32.toNat_inj.mp
  simp only [le32, byteOf, UInt32.toNat_ofNat', UInt8.toNat_ofNat']
  omega

theorem le32_fourth {first second third fourth : UInt8} {w : UInt32}
    (h : le32 first second third fourth = w) : fourth = byteOf w 3 := by
  have hfirst := first.toNat_lt
  have hsecond := second.toNat_lt
  have hthird := third.toNat_lt
  have hfourth := fourth.toNat_lt
  apply UInt8.toNat_inj.mp
  rw [← h]
  simp only [le32, byteOf, UInt32.toNat_ofNat', UInt8.toNat_ofNat']
  omega

/-- The response in memory. -/
def bytesOfResponse (r : UiResponse) : Fin responseSize → UInt8 := fun i =>
  if i.val < 4 then byteOf r.magic i
  else if i.val = 4 then r.version.toUInt8
  else if i.val = 5 then (r.version >>> 8).toUInt8
  else if i.val = 6 then r.reserved.toUInt8
  else if i.val = 7 then (r.reserved >>> 8).toUInt8
  else if i.val < 12 then byteOf r.status.toUInt32 (i - 8)
  else if i.val < 16 then byteOf r.length (i - 12)
  else if h : i.val - 16 < textSize then r.text ⟨i - 16, h⟩
  else byteOf r.trailer (i - 16400)

def responseOfBytes (bytes : Fin responseSize → UInt8) : UiResponse :=
  { magic := le32 (bytes 0) (bytes 1) (bytes 2) (bytes 3)
    version := le16 (bytes 4) (bytes 5)
    reserved := le16 (bytes 6) (bytes 7)
    status := (le32 (bytes 8) (bytes 9) (bytes 10) (bytes 11)).toInt32
    length := le32 (bytes 12) (bytes 13) (bytes 14) (bytes 15)
    text := fun i => bytes ⟨i + 16, Nat.lt_of_lt_of_le (Nat.add_lt_add_right i.isLt 16) (by decide)⟩
    trailer := le32 (bytes 16400) (bytes 16401) (bytes 16402) (bytes 16403) }

theorem responseOfBytes_bytesOfResponse (r : UiResponse) :
    responseOfBytes (bytesOfResponse r) = r := by
  obtain ⟨magic, version, reserved, status, length, text, trailer⟩ := r
  unfold responseOfBytes
  rw [UiResponse.mk.injEq]
  refine ⟨le32_byteOf magic, le16_split version, le16_split reserved, ?_, le32_byteOf length, ?_,
    le32_byteOf trailer⟩
  · exact (congrArg UInt32.toInt32 (le32_byteOf status.toUInt32)).trans status.toInt32_toUInt32
  · funext i
    have hlt := i.isLt
    simp only [bytesOfResponse]
    rw [if_neg (by omega), if_neg (by omega), if_neg (by omega), if_neg (by omega),
      if_neg (by omega), if_neg (by omega), if_neg (by omega), dif_pos (by omega)]
    congr 1

/-- The buffer behind `output`: what was written, and whether something was cut off. -/
structure OutputBuffer where
  used : List UInt8
  truncated : Bool

def output (capacity : Nat) (o : OutputBuffer) (text : Printed) : OutputBuffer :=
  if o.used.length < capacity then
    let left := capacity - o.used.length
    if 0 < text.val.length then
      { used := o.used ++ text.val.take (left - 1)
        truncated := o.truncated || decide (left ≤ text.val.length) }
    else o
  else o

/-- All texts, one after the other. -/
def allOf (texts : List Printed) : List UInt8 := (texts.map Subtype.val).flatten

theorem allOf_ne_zero (texts : List Printed) : ∀ c ∈ allOf texts, c ≠ 0 := by
  intro c hc
  obtain ⟨text, htext, hmem⟩ := List.mem_flatten.mp hc
  obtain ⟨printed, -, rfl⟩ := List.mem_map.mp htext
  exact printed.property c hmem

theorem output_step {capacity : Nat} (hcapacity : 0 < capacity) (all : List UInt8)
    (text : Printed) :
    output capacity ⟨all.take (capacity - 1), decide (capacity ≤ all.length)⟩ text =
      ⟨(all ++ text.val).take (capacity - 1), decide (capacity ≤ (all ++ text.val).length)⟩ := by
  have hlength : (all.take (capacity - 1)).length < capacity := by
    rw [List.length_take]
    omega
  simp only [output, if_pos hlength]
  split
  · rw [OutputBuffer.mk.injEq, List.take_append, List.length_take, List.length_append]
    constructor
    · congr 2
      omega
    · rw [← Bool.decide_or]
      congr 1
      rw [eq_iff_iff]
      omega
  · rename_i hempty
    have hnil : text.val = [] := List.eq_nil_of_length_eq_zero (by omega)
    rw [hnil, List.append_nil]

theorem output_all {capacity : Nat} (hcapacity : 0 < capacity) (texts : List Printed) :
    texts.foldl (output capacity) ⟨[], false⟩ =
      ⟨(allOf texts).take (capacity - 1), decide (capacity ≤ (allOf texts).length)⟩ := by
  have hstart : (⟨[], false⟩ : OutputBuffer) =
      ⟨([] : List UInt8).take (capacity - 1), decide (capacity ≤ ([] : List UInt8).length)⟩ := by
    rw [List.take_nil, OutputBuffer.mk.injEq]
    exact ⟨rfl, (decide_eq_false (by simp only [List.length_nil]; omega)).symm⟩
  have hall : ∀ (texts : List Printed) (all : List UInt8),
      texts.foldl (output capacity)
          ⟨all.take (capacity - 1), decide (capacity ≤ all.length)⟩ =
        ⟨(all ++ allOf texts).take (capacity - 1),
          decide (capacity ≤ (all ++ allOf texts).length)⟩ := by
    intro texts
    induction texts with
    | nil =>
        intro all
        have hnil : allOf [] = [] := rfl
        rw [hnil, List.append_nil]
        rfl
    | cons text texts ih =>
        intro all
        have hcons : allOf (text :: texts) = text.val ++ allOf texts := rfl
        rw [List.foldl_cons, output_step hcapacity, ih, hcons, List.append_assoc]
  rw [hstart, hall texts [], List.nil_append]

/-- `trim_command` -/
def trimCommand (line : List UInt8) : List UInt8 :=
  (line.dropWhile fun c => c = 32 ∨ c = 9).rdropWhile fun c => c = 32 ∨ c = 9 ∨ c = 13

/-- What Central prints: the dashboard, and the output and the result of a command. -/
structure Commands where
  displayUi : List Printed
  execute : List UInt8 → List Printed × Int32

def quitBytes : List UInt8 :=
  ascii ['C', 'l', 'o', 's', 'e', ' ', 't', 'h', 'e', ' ', 'd', 'i', 's', 'p', 'l', 'a', 'y', ' ',
    'w', 'i', 't', 'h', ' ', 'q', 'u', 'i', 't', ';', ' ', 'u', 's', 'e', ' ', 's', 'h', 'u', 't',
    'd', 'o', 'w', 'n', ' ', 't', 'o', ' ', 's', 't', 'o', 'p', ' ', 'C', 'e', 'n', 't', 'r', 'a',
    'l', '.', '\n']

theorem quitBytes_ne_zero : ∀ c ∈ quitBytes, c ≠ 0 := by decide +kernel

def quitText : Printed := ⟨quitBytes, quitBytes_ne_zero⟩

def marker : List UInt8 :=
  ascii ['\n', 'O', 'U', 'T', 'P', 'U', 'T', ' ', 'T', 'R', 'U', 'N', 'C', 'A', 'T', 'E', 'D', ';',
    ' ', 'i', 'n', 's', 'p', 'e', 'c', 't', ' ', 't', 'h', 'e', ' ', 'e', 'v', 'e', 'n', 't', ' ',
    'l', 'o', 'g', '.', '\n']

/-- The marker and its zero at the end of the array. -/
def withMarker (response : Fin textSize → UInt8) : Fin textSize → UInt8 := fun i =>
  if i.val < textSize - (marker.length + 1) then response i
  else marker.getD (i.val - (textSize - (marker.length + 1))) 0

theorem withMarker_eq {used : List UInt8} (h : textSize - (marker.length + 1) ≤ used.length) :
    withMarker (inMemory textSize used) =
      inMemory textSize (used.take (textSize - (marker.length + 1)) ++ marker) := by
  funext i
  have hlength : (used.take (textSize - (marker.length + 1))).length =
      textSize - (marker.length + 1) := List.length_take_of_le h
  simp only [withMarker, inMemory]
  split
  · rename_i hfront
    rw [List.getD_append _ _ _ _ (by rwa [hlength]), List.getD_eq_getElem?_getD,
      List.getD_eq_getElem?_getD, List.getElem?_take_of_lt hfront]
  · rename_i hend
    rw [List.getD_append_right _ _ _ _ (by rw [hlength]; exact not_lt.mp hend), hlength]

/-- The three kinds of a request for the display. -/
def answer (commands : Commands) (command : List UInt8) : List Printed × Int32 :=
  if command = ascii ['w', 'a', 't', 'c', 'h'] then (commands.displayUi, 0)
  else if command = ascii ['q', 'u', 'i', 't'] then ([quitText], 0)
  else commands.execute command

/-- `ui_command`, which ends a text that was cut off with a marker and its zero. -/
def uiCommand (commands : Commands) (request : List UInt8) : (Fin textSize → UInt8) × Int32 :=
  let (texts, result) := answer commands (trimCommand (request.take (requestSize - 1)))
  let o := texts.foldl (output textSize) ⟨[], false⟩
  if o.truncated then (withMarker (inMemory textSize o.used), -1)
  else (inMemory textSize o.used, result)

/-- What the operator gets to see of some texts. -/
def shownText (texts : List Printed) : List UInt8 :=
  if (allOf texts).length < textSize then allOf texts
  else (allOf texts).take (textSize - (marker.length + 1)) ++ marker

theorem shownText_spec (texts : List Printed) :
    (∀ c ∈ shownText texts, c ≠ 0) ∧ (shownText texts).length < textSize := by
  have hmarker : (∀ c ∈ marker, c ≠ 0) ∧ marker.length = 42 := by decide +kernel
  unfold shownText
  split
  · rename_i hshort
    exact ⟨allOf_ne_zero texts, hshort⟩
  · constructor
    · intro c hc
      rcases List.mem_append.mp hc with hall | hend
      · exact allOf_ne_zero texts c (List.mem_of_mem_take hall)
      · exact hmarker.1 c hend
    · rw [List.length_append, List.length_take, hmarker.2]
      unfold textSize
      omega

theorem uiCommand_eq (commands : Commands) (request : List UInt8) :
    uiCommand commands request =
      (inMemory textSize
          (shownText (answer commands (trimCommand (request.take (requestSize - 1)))).1),
        if (allOf (answer commands (trimCommand (request.take (requestSize - 1)))).1).length <
            textSize
          then (answer commands (trimCommand (request.take (requestSize - 1)))).2 else -1) := by
  have hpos : 0 < textSize := by decide
  unfold uiCommand
  generalize answer commands (trimCommand (request.take (requestSize - 1))) = given
  obtain ⟨texts, result⟩ := given
  dsimp only
  rw [output_all hpos]
  by_cases hshort : (allOf texts).length < textSize
  · rw [if_neg (by simpa using hshort), if_pos hshort, shownText, if_pos hshort,
      List.take_of_length_le (by omega)]
  · have hmarker : marker.length = 42 := by decide
    have hroom : textSize - (marker.length + 1) ≤
        ((allOf texts).take (textSize - 1)).length := by
      rw [List.length_take, hmarker]
      omega
    have hmin : min (textSize - (marker.length + 1)) (textSize - 1) =
        textSize - (marker.length + 1) := by
      rw [hmarker]
      omega
    rw [if_pos (by simpa using hshort), if_neg hshort, shownText, if_neg hshort,
      withMarker_eq hroom, List.take_take, hmin]

/-- `sizeof(ui_request_t)` -/
def requestBytes : Nat := 260

/-- A message as `MsgReceive` hands it over: what the sender offered, what arrived, the
room for an answer, and the request. -/
structure Incoming where
  sourceLength : Nat
  length : Nat
  replyRoom : Nat
  request : UiRequest

def exceededText : List UInt8 :=
  ascii ['C', 'e', 'n', 't', 'r', 'a', 'l', ' ', 'r', 'e', 's', 'p', 'o', 'n', 's', 'e', ' ', 'e',
    'x', 'c', 'e', 'e', 'd', 'e', 'd', ' ', 't', 'h', 'e', ' ', 'd', 'i', 's', 'p', 'l', 'a', 'y',
    ' ', 'b', 'u', 'f', 'f', 'e', 'r', '.', '\n']

/-- What the callback of the service leaves in the response. -/
abbrev Callback := List UInt8 → (Fin textSize → UInt8) × Int32

/-- A text without an end is replaced. -/
def endedText (left : (Fin textSize → UInt8) × Int32) : (Fin textSize → UInt8) × Int32 :=
  if 0 ∈ List.ofFn left.1 then left else (inMemory textSize exceededText, -1)

/-- `receive_request` for a message that is no pulse and no connection request; `none`
is the error EPROTO. -/
def receiveRequest (callback : Callback) (m : Incoming) : Option UiResponse :=
  if m.sourceLength ≠ requestBytes ∨ m.length ≠ requestBytes ∨ m.replyRoom ≠ responseSize ∨
      m.request.type ≠ uiMessageType ∨ m.request.version ≠ uiProtocolVersion ∨
      validBytes (List.ofFn m.request.text) = false then none
  else
    let (text, status) := endedText (callback (cString m.request.text))
    some
      { magic := uiResponseMagic
        version := uiProtocolVersion
        reserved := 0
        status
        length := UInt32.ofNat (cString text).length
        text
        trailer := uiResponseMagic }

/-- What `central_ui_client_request` reports. -/
inductive ClientResult
  | invalid
  | failed
  | protocol
  | tooLong
  | shown (output : List UInt8) (status : Int32)

/-- The request that the client sends. -/
def clientMessage (request : Printed) : Incoming :=
  { sourceLength := requestBytes
    length := requestBytes
    replyRoom := responseSize
    request := ⟨uiMessageType, uiProtocolVersion, inMemory requestSize request.val⟩ }

/-- The first bytes of a reply over the pattern that the client has filled in. -/
def received (length : Nat) (sent : Fin responseSize → UInt8) : Fin responseSize → UInt8 :=
  fun i => if i.val < length then sent i else 0xa5

/-- The tests of the client on what came back with the result of `MsgSend`. -/
def checkResponse (capacity : Nat) (result : Int) (r : UiResponse) : ClientResult :=
  if result ≠ responseSize ∨ r.magic ≠ uiResponseMagic ∨ r.version ≠ uiProtocolVersion ∨
      r.reserved ≠ 0 ∨ r.trailer ≠ uiResponseMagic ∨ textSize ≤ r.length.toNat ∨
      (∃ h : r.length.toNat < textSize, r.text ⟨r.length.toNat, h⟩ ≠ 0) ∨
      (cString r.text).length ≠ r.length.toNat then .protocol
  else if capacity ≤ r.length.toNat then .tooLong
  else .shown (cString r.text) r.status

/-- How an exchange went: `MsgSend` failed, or returned a result with some bytes. -/
inductive Exchange
  | failed
  | replied (result : Int) (length : Nat) (sent : Fin responseSize → UInt8)

/-- `central_ui_client_request` -/
def clientRequest (capacity : Nat) (request : Printed) (exchange : Exchange) : ClientResult :=
  if capacity = 0 ∨ validBytes ((request.val ++ [0]).take requestSize) = false then .invalid
  else
    match exchange with
    | .failed => .failed
    | .replied result length sent =>
        checkResponse capacity result (responseOfBytes (received length sent))

/-- What the kernel makes of the message of a client: the answer of the service in full. -/
def served (callback : Callback) (request : Printed) : Exchange :=
  match receiveRequest callback (clientMessage request) with
  | none => .failed
  | some response => .replied responseSize responseSize (bytesOfResponse response)

theorem validBytes_append (text rest : List UInt8) (htext : ∀ c ∈ text, c ≠ 0) :
    validBytes (text ++ 0 :: rest) = validBytes (text ++ [0]) := by
  induction text with
  | nil => rfl
  | cons c text ih =>
      have hrest := ih fun b hb => htext b (List.mem_cons_of_mem c hb)
      simp only [List.cons_append, validBytes, hrest]

theorem zero_mem_of_validBytes {text : List UInt8} (h : validBytes text = true) : 0 ∈ text := by
  induction text with
  | nil => exact absurd h Bool.false_ne_true
  | cons c text ih =>
      unfold validBytes at h
      split at h
      · rename_i hzero
        rw [hzero]
        exact List.mem_cons_self
      · split at h
        · exact absurd h Bool.false_ne_true
        · exact List.mem_cons_of_mem c (ih h)

theorem length_of_valid {request : Printed}
    (h : validBytes ((request.val ++ [0]).take requestSize) = true) :
    request.val.length < requestSize := by
  by_contra hlong
  have hzero := zero_mem_of_validBytes h
  rw [List.take_append_of_le_length (not_lt.mp hlong)] at hzero
  exact request.property 0 (List.mem_of_mem_take hzero) rfl

theorem toNat_length {n : Nat} (h : n < textSize) : (UInt32.ofNat n).toNat = n := by
  apply UInt32.toNat_ofNat_of_lt'
  exact h.trans (by decide)

theorem checkResponse_served (capacity : Nat) {text : Fin textSize → UInt8}
    (hzero : ∃ i, text i = 0) (status : Int32) :
    checkResponse capacity responseSize
        { magic := uiResponseMagic
          version := uiProtocolVersion
          reserved := 0
          status
          length := UInt32.ofNat (cString text).length
          text
          trailer := uiResponseMagic } =
      if (cString text).length < capacity then .shown (cString text) status else .tooLong := by
  obtain ⟨hlt, hend⟩ := cString_spec text hzero
  have hlength := toNat_length hlt
  unfold checkResponse
  dsimp only
  rw [hlength, if_neg]
  · by_cases hroom : (cString text).length < capacity
    · rw [if_neg (not_le.mpr hroom), if_pos hroom]
    · rw [if_pos (not_lt.mp hroom), if_neg hroom]
  · rintro (h | h | h | h | h | h | ⟨_, hnonzero⟩ | h)
    · exact h rfl
    · exact h rfl
    · exact h rfl
    · exact h rfl
    · exact h rfl
    · exact absurd hlt (not_lt.mpr h)
    · exact hnonzero hend
    · exact h rfl

theorem received_all (sent : Fin responseSize → UInt8) : received responseSize sent = sent := by
  funext i
  exact if_pos i.isLt

theorem zero_mem_inMemory {n : Nat} {text : List UInt8} (h : text.length < n) :
    ∃ i, inMemory n text i = 0 :=
  ⟨⟨text.length, h⟩, List.getD_eq_default _ _ le_rfl⟩

theorem endedText_of_zero {left : (Fin textSize → UInt8) × Int32} (h : ∃ i, left.1 i = 0) :
    endedText left = left :=
  if_pos ((List.mem_ofFn' left.1 0).mpr h)

theorem served_eq (callback : Callback) {request : Printed}
    (h : validBytes ((request.val ++ [0]).take requestSize) = true) :
    served callback request =
      .replied responseSize responseSize (bytesOfResponse
        { magic := uiResponseMagic
          version := uiProtocolVersion
          reserved := 0
          status := (endedText (callback request.val)).2
          length := UInt32.ofNat (cString (endedText (callback request.val)).1).length
          text := (endedText (callback request.val)).1
          trailer := uiResponseMagic }) := by
  have hlength := length_of_valid h
  have hfits : (request.val ++ [0]).take requestSize = request.val ++ [0] := by
    apply List.take_of_length_le
    rw [List.length_append, List.length_singleton]
    exact hlength
  rw [hfits] at h
  have hmemory : validBytes (List.ofFn (inMemory requestSize request.val)) = true := by
    rw [ofFn_inMemory hlength, validBytes_append _ _ request.property]
    exact h
  have hsent : cString (clientMessage request).request.text = request.val :=
    cString_inMemory request.property hlength
  have haccepted : ¬ ((clientMessage request).sourceLength ≠ requestBytes ∨
      (clientMessage request).length ≠ requestBytes ∨
      (clientMessage request).replyRoom ≠ responseSize ∨
      (clientMessage request).request.type ≠ uiMessageType ∨
      (clientMessage request).request.version ≠ uiProtocolVersion ∨
      validBytes (List.ofFn (clientMessage request).request.text) = false) := by
    rintro (h | h | h | h | h | h)
    · exact h rfl
    · exact h rfl
    · exact h rfl
    · exact h rfl
    · exact h rfl
    · exact absurd (hmemory.symm.trans h) (by decide)
  unfold served receiveRequest
  rw [if_neg haccepted, hsent]

/-- What a client shows for a valid request is the whole output of the trimmed command
with its result; an output that exceeds the response is cut off in front of a marker
and reported as an error. -/
theorem display_shows_output (commands : Commands) (request : Printed) (capacity : Nat)
    (hcapacity : 0 < capacity)
    (hvalid : validBytes ((request.val ++ [0]).take requestSize) = true) :
    let given := answer commands (trimCommand request.val)
    clientRequest capacity request (served (uiCommand commands) request) =
      if (shownText given.1).length < capacity then
        .shown (shownText given.1) (if (allOf given.1).length < textSize then given.2 else -1)
      else .tooLong := by
  intro given
  have hlength := length_of_valid hvalid
  have hline : request.val.take (requestSize - 1) = request.val :=
    List.take_of_length_le (by omega)
  obtain ⟨hprinted, hshort⟩ := shownText_spec given.1
  have hcallback : uiCommand commands request.val =
      (inMemory textSize (shownText given.1),
        if (allOf given.1).length < textSize then given.2 else -1) := by
    rw [uiCommand_eq, hline]
  have hzero : ∃ i, (uiCommand commands request.val).1 i = 0 := by
    rw [hcallback]
    exact zero_mem_inMemory hshort
  have hclient : ¬ (capacity = 0 ∨
      validBytes ((request.val ++ [0]).take requestSize) = false) := by
    rintro (h | h)
    · exact hcapacity.ne' h
    · exact absurd (hvalid.symm.trans h) (by decide)
  have hchecked := checkResponse_served capacity hzero (uiCommand commands request.val).2
  rw [served_eq _ hvalid, endedText_of_zero hzero]
  unfold clientRequest
  rw [if_neg hclient]
  dsimp only
  rw [received_all, responseOfBytes_bytesOfResponse, hchecked, hcallback,
    cString_inMemory hprinted hshort]

/-- A Central that prints one line. -/
def okText : List UInt8 := ascii ['O', 'K', '\n']

theorem okText_ne_zero : ∀ c ∈ okText, c ≠ 0 := by decide +kernel

def statusText : List UInt8 := ascii [' ', 's', 't', 'a', 't', 'u', 's']

theorem statusText_ne_zero : ∀ c ∈ statusText, c ≠ 0 := by decide +kernel

theorem display_shows_output_status :
    let commands : Commands := ⟨[], fun _ => ([⟨okText, okText_ne_zero⟩], 0)⟩
    let request : Printed := ⟨statusText, statusText_ne_zero⟩
    let given := answer commands (trimCommand request.val)
    clientRequest 80 request (served (uiCommand commands) request) =
      if (shownText given.1).length < 80 then
        .shown (shownText given.1) (if (allOf given.1).length < textSize then given.2 else -1)
      else .tooLong :=
  display_shows_output ⟨[], fun _ => ([⟨okText, okText_ne_zero⟩], 0)⟩
    ⟨statusText, statusText_ne_zero⟩ 80 (by decide) (by decide +kernel)

theorem printable_of_validBytes {text : List UInt8} (h : validBytes text = true) :
    ∀ c ∈ text.takeWhile (· ≠ 0), c = 9 ∨ 32 ≤ c ∧ c ≤ 126 := by
  induction text with
  | nil => exact absurd h Bool.false_ne_true
  | cons c text ih =>
      unfold validBytes at h
      split at h
      · rename_i hzero
        intro b hb
        rw [hzero, List.takeWhile_cons_of_neg (by decide)] at hb
        exact absurd hb List.not_mem_nil
      · rename_i hnonzero
        split at h
        · exact absurd h Bool.false_ne_true
        · rename_i hprintable
          have hkept : (c :: text).takeWhile (· ≠ 0) = c :: text.takeWhile (· ≠ 0) :=
            List.takeWhile_cons_of_pos (decide_eq_true hnonzero)
          rw [hkept]
          intro b hb
          rcases List.mem_cons.mp hb with rfl | htail
          · by_cases htab : b = 9
            · exact Or.inl htab
            · refine Or.inr ⟨?_, ?_⟩
              · exact UInt8.not_lt.mp fun hlow => hprintable (Or.inl ⟨hlow, htab⟩)
              · exact UInt8.not_lt.mp fun hhigh => hprintable (Or.inr hhigh)
          · exact ih h b htail

theorem trailer_of_short {length : Nat} (hshort : length < responseSize)
    (sent : Fin responseSize → UInt8) :
    (responseOfBytes (received length sent)).trailer ≠ uiResponseMagic := by
  intro hmagic
  have hlast : received length sent 16403 = 0xa5 := by
    apply if_neg
    show ¬ 16403 < length
    unfold responseSize at hshort
    omega
  have hbyte := le32_fourth hmagic
  rw [hlast] at hbyte
  exact absurd hbyte (by decide)

/-- A request with a proper head and a text that ends and can be printed. -/
structure WholeRequest (m : Incoming) : Prop where
  source : m.sourceLength = requestBytes
  length : m.length = requestBytes
  room : m.replyRoom = responseSize
  type : m.request.type = uiMessageType
  version : m.request.version = uiProtocolVersion
  ends : (cString m.request.text).length < requestSize
  printable : ∀ c ∈ cString m.request.text, c = 9 ∨ 32 ≤ c ∧ c ≤ 126

/-- A response with a proper head and tail, whose text has the length that it says. -/
structure WholeResponse (r : UiResponse) : Prop where
  magic : r.magic = uiResponseMagic
  version : r.version = uiProtocolVersion
  reserved : r.reserved = 0
  trailer : r.trailer = uiResponseMagic
  ends : (cString r.text).length < textSize
  length : r.length.toNat = (cString r.text).length

theorem whole_of_receive {callback : Callback} {m : Incoming} {r : UiResponse}
    (h : receiveRequest callback m = some r) : WholeRequest m := by
  unfold receiveRequest at h
  split at h
  · exact absurd h.symm (Option.some_ne_none _)
  · rename_i hwhole
    simp only [not_or, not_not, Bool.not_eq_false] at hwhole
    obtain ⟨hsource, hlength, hroom, htype, hversion, hvalid⟩ := hwhole
    have hzero := (List.mem_ofFn' m.request.text 0).mp (zero_mem_of_validBytes hvalid)
    exact ⟨hsource, hlength, hroom, htype, hversion, (cString_spec _ hzero).1,
      printable_of_validBytes hvalid⟩

theorem checkResponse_shown {capacity : Nat} {result : Int} {r : UiResponse} {shown : List UInt8}
    {status : Int32} (h : checkResponse capacity result r = .shown shown status) :
    result = responseSize ∧ WholeResponse r ∧ shown = cString r.text ∧ status = r.status ∧
      shown.length < capacity := by
  unfold checkResponse at h
  split at h
  · exact absurd h ClientResult.noConfusion
  · rename_i hgood
    simp only [not_or, not_not, not_le] at hgood
    obtain ⟨hresult, hmagic, hversion, hreserved, htrailer, hfits, -, hlength⟩ := hgood
    split at h
    · exact absurd h ClientResult.noConfusion
    · rename_i hroom
      obtain ⟨rfl, rfl⟩ := ClientResult.shown.inj h
      rw [← hlength] at hfits hroom
      exact ⟨hresult, ⟨hmagic, hversion, hreserved, htrailer, hfits, hlength.symm⟩, rfl, rfl,
        not_le.mp hroom⟩

/-- Neither end accepts a part of a message: the service runs a command only for a whole
request, and the client shows only what a whole response says, however many bytes came
with which result. -/
theorem link_accepts_whole_messages :
    (∀ callback m r, receiveRequest callback m = some r → WholeRequest m) ∧
      ∀ capacity request result length sent shown status,
        clientRequest capacity request (.replied result length sent) = .shown shown status →
          result = responseSize ∧ responseSize ≤ length ∧ WholeResponse (responseOfBytes sent) ∧
            shown = cString (responseOfBytes sent).text ∧
              status = (responseOfBytes sent).status ∧ shown.length < capacity := by
  refine ⟨fun callback m r => whole_of_receive, ?_⟩
  intro capacity request result length sent shown status hshown
  unfold clientRequest at hshown
  split at hshown
  · exact absurd hshown ClientResult.noConfusion
  · have hchecked := checkResponse_shown hshown
    have hwhole : responseSize ≤ length := by
      by_contra hshort
      exact trailer_of_short (not_le.mp hshort) sent hchecked.2.1.trailer
    have hall : received length sent = sent := by
      funext i
      exact if_pos (i.isLt.trans_le hwhole)
    rw [hall] at hchecked
    obtain ⟨hresult, hproper, htext, hstatus, hroom⟩ := hchecked
    exact ⟨hresult, hwhole, hproper, htext, hstatus, hroom⟩

end TrafficLight.DisplayLink
