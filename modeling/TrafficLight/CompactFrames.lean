import TrafficLight.CentralFrames

namespace TrafficLight.CompactFrames

open TrafficLight.Protocol
open TrafficLight.Telemetry
open TrafficLight.CentralFrames

/-- The payload sizes of a type that has compact frames. -/
def payloadSizes (type : UInt16) : List Nat :=
  if type = msgHeartbeat then [4]
  else if type = msgStatusUpdate then [36]
  else if type = msgFaultAlert then [36]
  else if type = msgRailwayStatus then [8, 4]
  else []

/-- The frames whose first payload byte is a crossing of the Train. -/
def NamesCrossing (header : MsgHeader) : Prop :=
  header.src = controllerTrain ∧
    (header.type = msgRailwayStatus ∨ header.type = msgFaultAlert)

instance (header : MsgHeader) : Decidable (NamesCrossing header) :=
  inferInstanceAs (Decidable (_ ∧ _))

def wireData (message : TestMessage) : Data :=
  if NamesCrossing message.header then
    Function.update message.data 0 (message.data 0 + 1)
  else message.data

def encodeCompact (payloadSize : Nat) (message : TestMessage) : List UInt8 :=
  headerBytes message.header ++ (List.ofFn (wireData message)).take payloadSize

/-- The envelope of a header and the payload on the wire. -/
def ofWire (header : MsgHeader) (data : Data) : Option TestMessage :=
  if NamesCrossing header then
    if data 0 < 1 ∨ (data 0).toNat > numCrossings then none
    else some { header, data := Function.update data 0 (data 0 - 1) }
  else some { header, data }

/-- `central_frame_normalize` with the envelope that it fills in. -/
def normalizeInto (frame : List UInt8) (destination : UInt16) (output : TestMessage) :
    Bool × TestMessage :=
  match centralFrameNormalize frame destination with
  | some candidate => (true, candidate)
  | none => (false, output)

theorem ofWire_wireData {message : TestMessage}
    (hid : NamesCrossing message.header → (message.data 0).toNat < numCrossings) :
    ofWire message.header (wireData message) = some message := by
  unfold ofWire wireData
  by_cases hnames : NamesCrossing message.header
  · rw [if_pos hnames, if_pos hnames]
    have hnumber := hid hnames
    have hnext : (message.data 0 + 1).toNat = (message.data 0).toNat + 1 := by
      rw [UInt8.toNat_add, Nat.mod_eq_of_lt]
      · rfl
      · unfold numCrossings at hnumber
        simp
        omega
    have hknown : ¬ (message.data 0 + 1 < 1 ∨ (message.data 0 + 1).toNat > numCrossings) := by
      rw [UInt8.lt_iff_toNat_lt, hnext]
      simp
      omega
    rw [Function.update_self, if_neg hknown, Function.update_idem, UInt8.add_sub_cancel,
      Function.update_eq_self]
  · rw [if_neg hnames, if_neg hnames]

theorem wireData_of_ofWire {header : MsgHeader} {data : Data} {message : TestMessage}
    (h : ofWire header data = some message) :
    message.header = header ∧ wireData message = data := by
  unfold ofWire at h
  unfold wireData
  by_cases hnames : NamesCrossing header
  · rw [if_pos hnames] at h
    split at h
    · cases h
    · obtain rfl := Option.some.inj h
      refine ⟨rfl, ?_⟩
      rw [if_pos hnames]
      dsimp only
      rw [Function.update_self, Function.update_idem, UInt8.sub_add_cancel,
        Function.update_eq_self]
  · rw [if_neg hnames] at h
    obtain rfl := Option.some.inj h
    exact ⟨rfl, if_neg hnames⟩

theorem payloadSizes_le {type : UInt16} {payloadSize : Nat}
    (h : payloadSize ∈ payloadSizes type) : 4 ≤ payloadSize ∧ payloadSize ≤ 36 := by
  unfold payloadSizes at h
  split_ifs at h <;> simp at h <;> omega

theorem compactSizes_of_mem {type : UInt16} {payloadSize : Nat}
    (h : payloadSize ∈ payloadSizes type) :
    compactSizes type (headerSize + payloadSize) =
      some (headerSize + payloadSize, payloadSize) := by
  unfold payloadSizes at h
  unfold compactSizes
  split_ifs at h ⊢ <;> simp_all

theorem compactSizes_mem {type : UInt16} {size payloadSize : Nat}
    (h : compactSizes type size = some (size, payloadSize)) :
    payloadSize ∈ payloadSizes type ∧ size = headerSize + payloadSize := by
  unfold compactSizes at h
  unfold payloadSizes
  split_ifs at h ⊢
  all_goals
    rw [Option.some.injEq, Prod.mk.injEq] at h
    obtain ⟨hsize, rfl⟩ := h
    exact ⟨by simp, by omega⟩

theorem frameEnvelope_compact {frame : List UInt8} {payloadSize : Nat}
    (hpayload : payloadSize ∈ payloadSizes (headerOfBytes frame).type)
    (hsize : frame.length = headerSize + payloadSize) :
    frameEnvelope frame =
      ofWire (headerOfBytes frame) (dataOfBytes (frame.drop headerSize)) := by
  have hbounds := payloadSizes_le hpayload
  have hsmall : frame.length ≠ headerSize + dataSize := by
    unfold dataSize
    omega
  have hfits : ¬ (frame.length ≠ headerSize + payloadSize ∨ payloadSize > dataSize ∨
      headerSize > frame.length ∨ payloadSize > frame.length - headerSize) := by
    unfold dataSize
    omega
  have htake : (frame.drop headerSize).take payloadSize = frame.drop headerSize := by
    apply List.take_of_length_le
    rw [List.length_drop]
    omega
  unfold frameEnvelope
  dsimp only
  rw [if_neg hsmall, hsize, compactSizes_of_mem hpayload]
  dsimp only
  rw [← hsize] at hfits ⊢
  rw [if_neg hfits, htake]
  rfl

theorem frameEnvelope_other {frame : List UInt8} (henvelope : frame.length ≠ headerSize + dataSize)
    (hother : ∀ payloadSize ∈ payloadSizes (headerOfBytes frame).type,
      frame.length ≠ headerSize + payloadSize) : frameEnvelope frame = none := by
  unfold frameEnvelope
  dsimp only
  rw [if_neg henvelope]
  cases hsizes : compactSizes (headerOfBytes frame).type frame.length with
  | none => rfl
  | some sizes =>
      obtain ⟨expected, payloadSize⟩ := sizes
      dsimp only
      have hunexpected : frame.length ≠ expected := by
        rintro rfl
        obtain ⟨hpayload, hsize⟩ := compactSizes_mem hsizes
        exact hother _ hpayload hsize
      rw [if_pos (.inl hunexpected)]

theorem dataOfBytes_take {data : Data} {payloadSize : Nat}
    (hzero : ∀ i : Fin 64, payloadSize ≤ i.val → data i = 0) :
    dataOfBytes ((List.ofFn data).take payloadSize) = data := by
  funext i
  unfold dataOfBytes
  rw [List.getD_eq_getElem?_getD, List.getElem?_take]
  split
  · rw [List.getElem?_ofFn, dif_pos i.isLt]
    rfl
  · rename_i hbeyond
    exact (hzero i (not_lt.mp hbeyond)).symm

theorem wireData_of_pos (message : TestMessage) {i : Fin 64} (hi : 0 < i.val) :
    wireData message i = message.data i := by
  have hrest : i ≠ 0 := by
    rintro rfl
    cases hi
  unfold wireData
  split
  · exact Function.update_of_ne hrest _ _
  · rfl

theorem take_dataOfBytes {bytes : List UInt8} (hlength : bytes.length ≤ 64) :
    (List.ofFn (dataOfBytes bytes)).take bytes.length = bytes := by
  rw [ofFn_dataOfBytes hlength]
  exact List.take_left' rfl

theorem namesCrossing_valid {message : TestMessage} {destination : UInt16}
    (hvalid : centralFrameValid message destination = true)
    (hnames : NamesCrossing message.header) : (message.data 0).toNat < numCrossings := by
  obtain ⟨hsrc, htype⟩ := hnames
  unfold centralFrameValid at hvalid
  dsimp only at hvalid
  split at hvalid
  · cases hvalid
  · obtain htype | htype := htype
    · rw [htype, if_neg (by decide), if_neg (by decide), if_neg (by decide), if_pos rfl]
        at hvalid
      exact (of_decide_eq_true hvalid).2.2.1
    · rw [htype, if_neg (by decide), if_neg (by decide), if_neg (by decide),
        if_neg (by decide), if_pos rfl] at hvalid
      have hsender : (message.data 0).toNat < senderCount message.header.src :=
        (of_decide_eq_true hvalid).2.2.1
      rwa [hsrc] at hsender

theorem centralFrameNormalize_encodeCompact {message : TestMessage} {destination : UInt16}
    {payloadSize : Nat} (hvalid : centralFrameValid message destination = true)
    (hpayload : payloadSize ∈ payloadSizes message.header.type)
    (hzero : ∀ i : Fin 64, payloadSize ≤ i.val → message.data i = 0) :
    centralFrameNormalize (encodeCompact payloadSize message) destination = some message := by
  have hbounds := payloadSizes_le hpayload
  have hheader : headerOfBytes (encodeCompact payloadSize message) = message.header :=
    headerOfBytes_append _ _
  have hlength : (encodeCompact payloadSize message).length = headerSize + payloadSize := by
    unfold encodeCompact
    rw [List.length_append, length_headerBytes, List.length_take, List.length_ofFn]
    omega
  have hdata : dataOfBytes ((encodeCompact payloadSize message).drop headerSize) =
      wireData message := by
    unfold encodeCompact
    rw [drop_headerBytes]
    exact dataOfBytes_take fun i hi =>
      (wireData_of_pos message (by omega)).trans (hzero i hi)
  apply frameNormalize_of_envelope (by omega) (by unfold dataSize; omega) ?_ hvalid
  rw [frameEnvelope_compact (by rwa [hheader]) hlength, hheader, hdata]
  exact ofWire_wireData (namesCrossing_valid hvalid)

theorem centralFrameNormalize_accepts {frame : List UInt8} {destination : UInt16}
    {message : TestMessage} (h : centralFrameNormalize frame destination = some message) :
    headerSize ≤ frame.length ∧ frameEnvelope frame = some message ∧
      centralFrameValid message destination = true := by
  unfold centralFrameNormalize at h
  split at h
  · cases h
  · obtain ⟨henvelope, hvalid⟩ := Option.filter_eq_some_iff.mp h
    exact ⟨by omega, henvelope, hvalid⟩

theorem encodeCompact_of_normalize {frame : List UInt8} {destination : UInt16}
    {message : TestMessage} (hcompact : frame.length ≠ headerSize + dataSize)
    (h : centralFrameNormalize frame destination = some message) :
    encodeCompact (frame.length - headerSize) message = frame ∧
      ∀ i : Fin 64, frame.length - headerSize ≤ i.val → message.data i = 0 := by
  obtain ⟨hlow, henvelope, -⟩ := centralFrameNormalize_accepts h
  by_cases hsize : ∃ payloadSize ∈ payloadSizes (headerOfBytes frame).type,
      frame.length = headerSize + payloadSize
  · obtain ⟨payloadSize, hpayload, hsize⟩ := hsize
    have hbounds := payloadSizes_le hpayload
    rw [frameEnvelope_compact hpayload hsize] at henvelope
    obtain ⟨hheader, hdata⟩ := wireData_of_ofWire henvelope
    have hrest : (frame.drop headerSize).length = frame.length - headerSize :=
      List.length_drop
    constructor
    · unfold encodeCompact
      rw [hheader, hdata, headerBytes_headerOfBytes hlow, ← hrest, take_dataOfBytes (by omega),
        List.take_append_drop]
    · intro i hi
      rw [← wireData_of_pos message (by omega), hdata]
      unfold dataOfBytes
      rw [List.getD_eq_getElem?_getD, List.getElem?_eq_none (by omega)]
      rfl
  · push Not at hsize
    rw [frameEnvelope_other hcompact hsize] at henvelope
    cases henvelope

theorem normalizeInto_eq_iff (frame : List UInt8) (destination : UInt16)
    (output message : TestMessage) :
    normalizeInto frame destination output = (true, message) ↔
      centralFrameNormalize frame destination = some message := by
  unfold normalizeInto
  cases centralFrameNormalize frame destination <;> simp

/-- The codec is exact. An envelope with nothing behind its payload survives it, an
accepted compact frame is encoded as itself, a frame of another size is rejected, and
the output is written with a valid envelope or not at all. -/
theorem compact_exact (destination : UInt16) :
    (∀ message payloadSize output, centralFrameValid message destination = true →
      payloadSize ∈ payloadSizes message.header.type →
      (∀ i : Fin 64, payloadSize ≤ i.val → message.data i = 0) →
      normalizeInto (encodeCompact payloadSize message) destination output = (true, message)) ∧
    (∀ frame output message, frame.length ≠ headerSize + dataSize →
      normalizeInto frame destination output = (true, message) →
      encodeCompact (frame.length - headerSize) message = frame ∧
        (frame.length = headerSize + 4 → message.header.type = msgRailwayStatus →
          let status := RailwayStatusMsg.ofData message.data
          status.trackStates = 0 ∧ status.upState = 0 ∧ status.downState = 0)) ∧
    (∀ frame output, frame.length ≠ headerSize + dataSize →
      (∀ payloadSize ∈ payloadSizes (headerOfBytes frame).type,
        frame.length ≠ headerSize + payloadSize) →
      normalizeInto frame destination output = (false, output)) ∧
    ∀ frame output,
      let result := normalizeInto frame destination output
      (result.1 = false → result.2 = output) ∧
        (result.1 = true → centralFrameValid result.2 destination = true) := by
  refine ⟨?_, ?_, ?_, ?_⟩
  · intro message payloadSize output hvalid hpayload hzero
    apply (normalizeInto_eq_iff ..).mpr
    exact centralFrameNormalize_encodeCompact hvalid hpayload hzero
  · intro frame output message hcompact haccepted
    have hnormalize := (normalizeInto_eq_iff ..).mp haccepted
    obtain ⟨hencode, hzero⟩ := encodeCompact_of_normalize hcompact hnormalize
    refine ⟨hencode, fun hlegacy _ => ⟨hzero 4 ?_, hzero 5 ?_, hzero 6 ?_⟩⟩
    all_goals
      rw [hlegacy]
      decide
  · intro frame output hcompact hother
    have hnormalize : centralFrameNormalize frame destination = none := by
      unfold centralFrameNormalize
      rw [frameEnvelope_other hcompact hother]
      split <;> rfl
    unfold normalizeInto
    rw [hnormalize]
  · intro frame output
    unfold normalizeInto
    cases hnormalize : centralFrameNormalize frame destination with
    | none => exact ⟨fun _ => rfl, nofun⟩
    | some message => exact ⟨nofun, fun _ => (centralFrameNormalize_accepts hnormalize).2.2⟩

/-- A train approaches P2 on one track. -/
theorem compact_exact_railway :
    let message := frameOf msgRailwayStatus controllerTrain controllerCentral
      (RailwayStatusMsg.toBytes ⟨1, 1, 1, 0, 1, 1, 0, 0⟩)
    normalizeInto (encodeCompact 8 message) controllerCentral message = (true, message) :=
  (compact_exact controllerCentral).1 _ _ _ (by decide) (by decide) (by decide)

end TrafficLight.CompactFrames
