import TrafficLight.CentralFrames
import TrafficLight.CentralMonitor
import TrafficLight.LocalReports
import TrafficLight.RailwayLink
import TrafficLight.TrainReports

namespace TrafficLight.CentralReports

open TrafficLight.Runs
open TrafficLight.Protocol
open TrafficLight.Telemetry
open TrafficLight.CentralFrames
open TrafficLight.CentralMonitor
open TrafficLight.CrossingMachine
open TrafficLight.CrossingCalls
open TrafficLight.LocalData
open TrafficLight.LocalCore
open TrafficLight.LocalMeters
open TrafficLight.LocalReports
open TrafficLight.TrainReports
open TrafficLight.RailwayLink

/-- What Central keeps of the reports: the monitor and the last fault of every
sender. -/
structure Reports where
  monitor : Monitor
  faults : Peer → Nat → FaultMsg
  faultActive : Peer → Nat → Bool
  faultReceivedAt : Peer → Nat → Nat

def handleFault (s : Reports) (source : UInt16) (fault : FaultMsg) (now : Nat) :
    Option Reports :=
  match centralPeerIndex source with
  | none => none
  | some peer =>
      if fault.sourceId.toNat ≥ peer.count ∨ fault.faultType > faultNotWorking ∨
          fault.severity < sevLow ∨ fault.severity > sevCritical then none
      else
        let id := fault.sourceId.toNat
        some { s with
          faults := Function.update s.faults peer (Function.update (s.faults peer) id fault)
          faultActive := Function.update s.faultActive peer
            (Function.update (s.faultActive peer) id
              (decide (fault.faultType ≠ FaultType.none.toByte)))
          faultReceivedAt := Function.update s.faultReceivedAt peer
            (Function.update (s.faultReceivedAt peer) id now) }

/-- A refused message is `none`; it leaves the reports as they are. -/
def handleMessage (s : Reports) (message : TestMessage) (now : Nat) : Option Reports :=
  let monitored := fun m : Option Monitor => m.map fun monitor => { s with monitor }
  if message.header.type = msgHeartbeat then
    monitored (centralMonitorHeartbeat s.monitor message.header.src (.ofData message.data) now)
  else if message.header.type = msgTest then some s
  else if message.header.type = msgStatusUpdate then
    monitored (centralMonitorStatus s.monitor (.ofData message.data) now)
  else if message.header.type = msgRailwayStatus then
    monitored (centralMonitorRailway s.monitor (.ofData message.data) now)
  else if message.header.type = msgFaultAlert then
    handleFault s message.header.src (.ofData message.data) now
  else none

/-- A frame that arrives at Central, as `receive_frame` passes it on. -/
def receiveFrame (s : Reports) (frame : List UInt8) (now : Nat) : Option Reports :=
  (centralFrameNormalize frame controllerCentral).bind (handleMessage s · now)

section Frames

variable {timestamp : Fin 32 → UInt8}

/-- The envelope of a Local report. -/
def localEnvelope (type : UInt16) (payload : List UInt8) (timestamp : Fin 32 → UInt8) :
    TestMessage :=
  { header :=
      { type, src := controllerLocal, dst := controllerCentral, reserved := 0, timestamp }
    data := dataOfBytes payload }

theorem normalize_sendPayload {type : UInt16} {payload : List UInt8}
    (hvalid : centralFrameValid (localEnvelope type payload timestamp) controllerCentral = true) :
    centralFrameNormalize (sendPayload type payload timestamp) controllerCentral =
      some (localEnvelope type payload timestamp) := by
  unfold sendPayload
  apply frameNormalize_of_envelope
  · rw [length_messageBytes]
    omega
  · rw [length_messageBytes]
  · unfold frameEnvelope
    dsimp only
    rw [if_pos (length_messageBytes _), messageOfBytes_messageBytes]
    rfl
  · exact hvalid

/-- The envelope that Central makes of a compact frame of the Train. -/
def trainEnvelope (type : UInt16) (payload : List UInt8) (timestamp : Fin 32 → UInt8) :
    TestMessage :=
  { header :=
      { type, src := controllerTrain, dst := controllerCentral, reserved := 0, timestamp }
    data := dataOfBytes payload }

theorem normalize_compactFrame {type : UInt16} {id : UInt8} {rest : List UInt8}
    (htype : (type = msgRailwayStatus ∧ rest.length = 7) ∨
      (type = msgFaultAlert ∧ rest.length = 35))
    (hid : 1 ≤ id ∧ id.toNat ≤ numCrossings)
    (hvalid : centralFrameValid (trainEnvelope type ((id - 1) :: rest) timestamp)
      controllerCentral = true) :
    centralFrameNormalize (compactFrame type (id :: rest) timestamp) controllerCentral =
      some (trainEnvelope type ((id - 1) :: rest) timestamp) := by
  have hlength : (compactFrame type (id :: rest) timestamp).length =
      headerSize + (rest.length + 1) := by
    unfold compactFrame
    rw [List.length_append, length_headerBytes, List.length_cons]
  have hheader : headerSize = 40 := rfl
  have hdata : dataSize = 64 := rfl
  have hrest : rest.length = 7 ∨ rest.length = 35 := by
    rcases htype with ⟨-, h⟩ | ⟨-, h⟩
    · exact Or.inl h
    · exact Or.inr h
  have hsizes : compactSizes type (headerSize + (rest.length + 1)) =
      some (headerSize + (rest.length + 1), rest.length + 1) := by
    rcases htype with ⟨rfl, h⟩ | ⟨rfl, h⟩ <;> rw [h] <;> rfl
  have hkind : type = msgRailwayStatus ∨ type = msgFaultAlert := by
    rcases htype with ⟨h, -⟩ | ⟨h, -⟩
    · exact Or.inl h
    · exact Or.inr h
  have hfirst : Function.update (dataOfBytes (id :: rest)) 0 (dataOfBytes (id :: rest) 0 - 1) =
      dataOfBytes ((id - 1) :: rest) := by
    funext i
    by_cases hi : i = 0
    · rw [hi, Function.update_self]
      rfl
    · rw [Function.update_of_ne hi]
      obtain ⟨j, hj⟩ := Nat.exists_eq_succ_of_ne_zero (fun h => hi (Fin.ext h))
      simp only [dataOfBytes, hj, Nat.succ_eq_add_one, List.getD_cons_succ]
  apply frameNormalize_of_envelope
  · omega
  · omega
  · unfold frameEnvelope
    dsimp only
    rw [hlength, if_neg (by omega)]
    unfold compactFrame
    rw [headerOfBytes_append, drop_headerBytes]
    dsimp only
    rw [hsizes]
    dsimp only
    rw [if_neg (by omega), if_pos ⟨rfl, hkind⟩, List.take_of_length_le (by simp), if_neg, hfirst]
    · rfl
    · rintro (hlow | hhigh)
      · exact absurd hid.1 (UInt8.not_le.mpr hlow)
      · exact absurd hid.2 (not_le.mpr hhigh)
  · exact hvalid

end Frames

theorem exists_centralMonitorStatus (m : Monitor) {status : StatusMsg} (now : Nat)
    (h : statusAccepted status = true) :
    ∃ m', centralMonitorStatus m status now = some m' ∧
      m'.intersections status.intersectionId.toNat = ⟨true, true, now, status⟩ := by
  unfold centralMonitorStatus
  rw [if_pos h]
  exact ⟨_, rfl, Function.update_self ..⟩

theorem exists_centralMonitorRailway (m : Monitor) {status : RailwayStatusMsg} (now : Nat)
    (h : railwayAccepted status = true) :
    ∃ m', centralMonitorRailway m status now = some m' ∧
      m'.crossings status.crossingId.toNat = ⟨true, true, now, status⟩ := by
  unfold centralMonitorRailway
  rw [if_pos h]
  exact ⟨_, rfl, Function.update_self ..⟩

theorem exists_centralMonitorHeartbeat (m : Monitor) {heartbeat : HeartbeatMsg} (now : Nat)
    (h : heartbeatAccepted .localPeer heartbeat = true)
    (hcurrent : legacyHeartbeat heartbeat = false) :
    ∃ m', centralMonitorHeartbeat m controllerLocal heartbeat now = some m' ∧
      m'.health .localPeer heartbeat.senderId.toNat = ⟨true, heartbeat.healthy, now⟩ := by
  have hpeer : centralPeerIndex controllerLocal = some .localPeer := rfl
  unfold centralMonitorHeartbeat
  rw [hpeer]
  dsimp only
  rw [if_pos h, if_neg (by rw [hcurrent]; decide)]
  refine ⟨_, rfl, ?_⟩
  dsimp only
  rw [Function.update_self, Function.update_self]

theorem exists_handleFault (r : Reports) {source : UInt16} {peer : Peer} {fault : FaultMsg}
    (now : Nat) (hpeer : centralPeerIndex source = some peer)
    (hid : fault.sourceId.toNat < peer.count) (htype : fault.faultType ≤ faultNotWorking)
    (hlow : fault.severity ≥ sevLow) (hhigh : fault.severity ≤ sevCritical) :
    ∃ r', handleFault r source fault now = some r' ∧
      r'.faults peer fault.sourceId.toNat = fault ∧
      r'.faultActive peer fault.sourceId.toNat =
        decide (fault.faultType ≠ FaultType.none.toByte) ∧
      r'.faultReceivedAt peer fault.sourceId.toNat = now := by
  unfold handleFault
  rw [hpeer]
  dsimp only
  rw [if_neg]
  · refine ⟨_, rfl, ?_, ?_, ?_⟩ <;> dsimp only <;>
      rw [Function.update_self, Function.update_self]
  · rintro (h | h | h | h)
    · exact absurd hid (not_lt.mpr h)
    · exact absurd htype (UInt8.not_le.mpr h)
    · exact absurd hlow (UInt8.not_le.mpr h)
    · exact absurd hhigh (UInt8.not_le.mpr h)

section LocalReports

variable {timestamp : Fin 32 → UInt8} (htime : terminated timestamp = true)

theorem flag_le (b : Bool) : flag b ≤ 1 := by
  cases b <;> decide

theorem modeByte_le (mode : TrafficLightMode) : mode.toByte ≤ modeFailsafe := by
  cases mode <;> decide

theorem phaseByte_le (phase : Phase) : phase.toByte ≤ phaseRailwayHold := by
  cases phase <;> decide

theorem lightByte_le (light : LightState) : light.toByte ≤ lightGreen := by
  cases light <;> decide

theorem faultByte_le (type : FaultType) : type.toByte ≤ faultNotWorking := by
  cases type <;> decide

theorem severityByte_le (severity : FaultSeverity) : severity.toByte ≤ sevCritical := by
  cases severity <;> decide

theorem severityByte_ge {severity : FaultSeverity} (h : severity ≠ .unset) :
    severity.toByte ≥ sevLow := by
  cases severity with
  | unset => exact absurd rfl h
  | low | medium | critical => decide

theorem toNat_intersection (id : Fin 6) : (UInt8.ofNat id.val).toNat = id.val := by
  rw [UInt8.toNat_ofNat']
  omega

theorem minute_lt {s : LocalState} (h : InRange s) :
    (fillStatusLocked s).simMinuteOfDay < 24 * 60 := by
  have hminute := (untruncated_fillStatus h).minute
  obtain ⟨-, hhigh⟩ := minute_range s
  rw [UInt16.lt_iff_toNat_lt]
  change _ < 1440
  omega

theorem bumpSequence_ne_zero (value : UInt16) : bumpSequence value ≠ 0 := by
  unfold bumpSequence
  split
  · rename_i h
    rw [h]
    decide
  · assumption

theorem severity_le (s : LocalState) : (fillStatusLocked s).faultSeverity ≤ sevCritical := by
  change (if s.faultActive = true then s.faultSeverity.toByte else 0) ≤ sevCritical
  split
  · exact severityByte_le s.faultSeverity
  · decide

theorem statusValid_fillStatus {s : LocalState} (h : InRange s) :
    statusValid controllerLocal controllerCentral (fillStatusLocked s) = true := by
  apply decide_eq_true
  refine ⟨rfl, rfl, ?_, modeByte_le _, phaseByte_le _, lightByte_le _, lightByte_le _, flag_le _,
    flag_le _, flag_le _, UInt8.le_refl _, rfl, flag_le _, flag_le _, flag_le _, flag_le _,
    flag_le _, flag_le _, flag_le _, flag_le _, flag_le _, faultByte_le _, severity_le s,
    Or.inr (minute_lt h)⟩
  exact (toNat_intersection s.intersectionId).trans_lt s.intersectionId.isLt

theorem statusAccepted_of_statusValid {source destination : UInt16} {status : StatusMsg}
    (h : statusValid source destination status = true) : statusAccepted status = true := by
  obtain ⟨-, -, hid, hmode, hphase, hns, hew, hpedNs, hpedEw, hpreempt, hversion, hreserved,
    hreqNs, hreqEw, hsim, hpending, hactive, hmanual, hsensor, hcoordination, hfault, htype,
    hseverity, hminute⟩ := of_decide_eq_true h
  unfold statusAccepted
  rw [Bool.not_eq_true', decide_eq_false_iff_not]
  simp only [not_or, not_and, ge_iff_le, gt_iff_lt, not_le, UInt8.not_lt, UInt16.not_le]
  refine ⟨hid, hmode, hphase, hns, hew, hpedNs, hpedEw, hpreempt, hversion, not_not.mpr hreserved,
    hreqNs, hreqEw, hsim, hpending, hactive, hmanual, hsensor, hcoordination, hfault, htype,
    hseverity, fun hne => ?_⟩
  rcases hminute with hzero | hminute
  · exact absurd hzero hne
  · exact hminute

include htime

theorem localEnvelope_valid {type : UInt16} {payload : List UInt8}
    (htype : (type = msgStatusUpdate ∧ statusValid controllerLocal controllerCentral
        (.ofData (dataOfBytes payload)) = true) ∨
      (type = msgFaultAlert ∧ faultValid controllerLocal controllerCentral
        (.ofData (dataOfBytes payload)) = true) ∨
      (type = msgHeartbeat ∧ heartbeatValid controllerLocal
        (.ofData (dataOfBytes payload)) = true)) :
    centralFrameValid (localEnvelope type payload timestamp) controllerCentral = true := by
  unfold centralFrameValid localEnvelope
  dsimp only
  rw [htime, if_neg (by decide)]
  rcases htype with ⟨rfl, h⟩ | ⟨rfl, h⟩ | ⟨rfl, h⟩ <;> exact h

theorem receive_status (r : Reports) {s : LocalState} (h : InRange s) (now : Nat) :
    ∃ r', receiveFrame r (sendPayload msgStatusUpdate (fillStatusLocked s).toBytes timestamp)
        now = some r' ∧
      r'.monitor.intersections s.intersectionId.val = ⟨true, true, now, fillStatusLocked s⟩ := by
  have hvalid := statusValid_fillStatus h
  obtain ⟨m', hm', hentry⟩ := exists_centralMonitorStatus r.monitor now
    (statusAccepted_of_statusValid hvalid)
  have henvelope : centralFrameValid
      (localEnvelope msgStatusUpdate (fillStatusLocked s).toBytes timestamp)
      controllerCentral = true := by
    apply localEnvelope_valid htime
    rw [StatusMsg.ofData_toBytes]
    exact Or.inl ⟨rfl, hvalid⟩
  refine ⟨{ r with monitor := m' }, ?_, ?_⟩
  · unfold receiveFrame
    rw [normalize_sendPayload henvelope]
    change (centralMonitorStatus r.monitor
      (.ofData (dataOfBytes (fillStatusLocked s).toBytes)) now).map _ = _
    rw [StatusMsg.ofData_toBytes, hm']
    rfl
  · rwa [show (fillStatusLocked s).intersectionId.toNat = s.intersectionId.val from
      toNat_intersection s.intersectionId] at hentry

theorem receive_fault (r : Reports) {s : LocalState} (h : InRange s) (now : Nat) :
    ∃ r', receiveFrame r
        (sendPayload msgFaultAlert (prepareFaultMessageLocked s).toBytes timestamp) now =
          some r' ∧
      r'.faults .localPeer s.intersectionId.val = prepareFaultMessageLocked s ∧
      r'.faultActive .localPeer s.intersectionId.val =
        decide ((prepareFaultMessageLocked s).faultType ≠ FaultType.none.toByte) ∧
      r'.faultReceivedAt .localPeer s.intersectionId.val = now := by
  have hid : (prepareFaultMessageLocked s).sourceId.toNat = s.intersectionId.val :=
    toNat_intersection s.intersectionId
  have hlt : (prepareFaultMessageLocked s).sourceId.toNat < numIntersections :=
    hid.trans_lt s.intersectionId.isLt
  have htype : (prepareFaultMessageLocked s).faultType ≤ faultNotWorking := faultByte_le _
  have hlow : (prepareFaultMessageLocked s).severity ≥ sevLow := severityByte_ge h.severity
  have hhigh : (prepareFaultMessageLocked s).severity ≤ sevCritical := severityByte_le _
  obtain ⟨r', hr', hstored⟩ := exists_handleFault r now
    (show centralPeerIndex controllerLocal = some .localPeer from rfl) hlt htype hlow hhigh
  have henvelope : centralFrameValid
      (localEnvelope msgFaultAlert (prepareFaultMessageLocked s).toBytes timestamp)
      controllerCentral = true := by
    apply localEnvelope_valid htime
    rw [FaultMsg.ofData_toBytes]
    exact Or.inr (Or.inl ⟨rfl, decide_eq_true ⟨Or.inl rfl, rfl, hlt, htype, hlow, hhigh, rfl,
      terminated_descriptionOf _⟩⟩)
  refine ⟨r', ?_, hid ▸ hstored⟩
  unfold receiveFrame
  rw [normalize_sendPayload henvelope]
  change handleFault r controllerLocal
    (.ofData (dataOfBytes (prepareFaultMessageLocked s).toBytes)) now = _
  rw [FaultMsg.ofData_toBytes, hr']

theorem receive_heartbeat (r : Reports) (s : LocalState) (sequence : UInt16) (now : Nat) :
    ∃ r', receiveFrame r
        (sendPayload msgHeartbeat (heartbeatOf (fillStatusLocked s) sequence).toBytes timestamp)
        now = some r' ∧
      r'.monitor.health .localPeer s.intersectionId.val =
        ⟨true, (heartbeatOf (fillStatusLocked s) sequence).healthy, now⟩ := by
  have hid : (heartbeatOf (fillStatusLocked s) sequence).senderId.toNat = s.intersectionId.val :=
    toNat_intersection s.intersectionId
  have hlt : (heartbeatOf (fillStatusLocked s) sequence).senderId.toNat < numIntersections :=
    hid.trans_lt s.intersectionId.isLt
  have hhealthy : (heartbeatOf (fillStatusLocked s) sequence).healthy ≤ 1 := flag_le _
  have hcurrent : legacyHeartbeat (heartbeatOf (fillStatusLocked s) sequence) = false := by
    apply decide_eq_false
    rintro ⟨-, -, hzero⟩
    exact bumpSequence_ne_zero sequence hzero
  obtain ⟨m', hm', hentry⟩ := exists_centralMonitorHeartbeat r.monitor now
    (decide_eq_true ⟨hlt, hhealthy⟩) hcurrent
  have henvelope : centralFrameValid
      (localEnvelope msgHeartbeat (heartbeatOf (fillStatusLocked s) sequence).toBytes timestamp)
      controllerCentral = true := by
    apply localEnvelope_valid htime
    rw [HeartbeatMsg.ofData_toBytes]
    exact Or.inr (Or.inr ⟨rfl, decide_eq_true ⟨hlt, hhealthy⟩⟩)
  refine ⟨{ r with monitor := m' }, ?_, hid ▸ hentry⟩
  unfold receiveFrame
  rw [normalize_sendPayload henvelope]
  change (centralMonitorHeartbeat r.monitor controllerLocal
    (.ofData (dataOfBytes (heartbeatOf (fillStatusLocked s) sequence).toBytes)) now).map _ = _
  rw [HeartbeatMsg.ofData_toBytes, hm']
  rfl

end LocalReports

/-- The crossing is one of the three, by its number. -/
def Numbered (cx : Crossing) : Prop := 1 ≤ cx.id ∧ cx.id.toNat ≤ numCrossings

theorem toNat_sub_one {id : UInt8} (h : 1 ≤ id) : (id - 1).toNat = id.toNat - 1 :=
  UInt8.toNat_sub_of_le _ _ h

/-- What Central holds for a railway status: the crossing has its number from zero. -/
def storedRailway (cx : Crossing) : RailwayStatusMsg :=
  { railwayStatusOf cx with crossingId := cx.id - 1 }

/-- What Central holds for a fault alert. -/
def storedFault (cx : Crossing) (fault : CxFault) : FaultMsg :=
  { faultAlertOf cx fault with sourceId := cx.id - 1 }

section TrainReports

variable {timestamp : Fin 32 → UInt8} (htime : terminated timestamp = true)

theorem railwayStatusValid_stored {cx : Crossing} (h : Numbered cx) :
    railwayStatusValid controllerTrain controllerCentral (storedRailway cx) = true := by
  have hid : (cx.id - 1).toNat < numCrossings := by
    have hone : 1 ≤ cx.id.toNat := UInt8.le_iff_toNat_le.mp h.1
    have hthree := h.2
    rw [toNat_sub_one h.1]
    omega
  have hfault : (storedRailway cx).fault ≤ faultNotWorking := by
    change (if cx.fault ≠ .none then FaultType.gate.toByte else FaultType.none.toByte) ≤ _
    split <;> decide
  exact decide_eq_true ⟨rfl, rfl, hid, trackByte_le _, gateByte_le _, hfault, UInt8.le_refl _,
    trackByte_le _, trackByte_le _, rfl⟩

theorem railwayAccepted_of_railwayStatusValid {source destination : UInt16}
    {status : RailwayStatusMsg} (h : railwayStatusValid source destination status = true) :
    railwayAccepted status = true := by
  obtain ⟨-, -, hid, htrain, hgate, hfault, htracks, hup, hdown, hreserved⟩ :=
    of_decide_eq_true h
  unfold railwayAccepted
  rw [Bool.not_eq_true', decide_eq_false_iff_not]
  simp only [not_or, ge_iff_le, gt_iff_lt, not_le, UInt8.not_lt]
  exact ⟨hid, htrain, hgate, hfault, htracks, hup, hdown, not_not.mpr hreserved⟩

include htime

theorem receive_railwayStatus (r : Reports) {cx : Crossing} (h : Numbered cx) (now : Nat) :
    ∃ r', receiveFrame r (compactFrame msgRailwayStatus (railwayStatusOf cx).toBytes timestamp)
        now = some r' ∧
      r'.monitor.crossings (cx.id.toNat - 1) = ⟨true, true, now, storedRailway cx⟩ := by
  have hvalid := railwayStatusValid_stored h
  obtain ⟨m', hm', hentry⟩ := exists_centralMonitorRailway r.monitor now
    (railwayAccepted_of_railwayStatusValid hvalid)
  have henvelope : centralFrameValid
      (trainEnvelope msgRailwayStatus (storedRailway cx).toBytes timestamp)
      controllerCentral = true := by
    unfold centralFrameValid trainEnvelope
    dsimp only
    rw [htime, if_neg (by decide)]
    exact hvalid
  have hnormal : centralFrameNormalize
      (compactFrame msgRailwayStatus (railwayStatusOf cx).toBytes timestamp) controllerCentral =
        some (trainEnvelope msgRailwayStatus (storedRailway cx).toBytes timestamp) :=
    normalize_compactFrame (Or.inl ⟨rfl, rfl⟩) h henvelope
  refine ⟨{ r with monitor := m' }, ?_, toNat_sub_one h.1 ▸ hentry⟩
  unfold receiveFrame
  rw [hnormal]
  change (centralMonitorRailway r.monitor
    (.ofData (dataOfBytes (storedRailway cx).toBytes)) now).map _ = _
  rw [RailwayStatusMsg.ofData_toBytes, hm']
  rfl

theorem receive_faultAlert (r : Reports) {cx : Crossing} (h : Numbered cx) (fault : CxFault)
    (now : Nat) :
    ∃ r', receiveFrame r (compactFrame msgFaultAlert (faultAlertOf cx fault).toBytes timestamp)
        now = some r' ∧
      r'.faults .trainPeer (cx.id.toNat - 1) = storedFault cx fault ∧
      r'.faultActive .trainPeer (cx.id.toNat - 1) = true ∧
      r'.faultReceivedAt .trainPeer (cx.id.toNat - 1) = now := by
  have hid : (storedFault cx fault).sourceId.toNat < numCrossings := by
    have hone : 1 ≤ cx.id.toNat := UInt8.le_iff_toNat_le.mp h.1
    have hthree := h.2
    change (cx.id - 1).toNat < _
    rw [toNat_sub_one h.1]
    omega
  have hgate : (storedFault cx fault).faultType ≤ faultNotWorking := faultByte_le .gate
  have hlow : (storedFault cx fault).severity ≥ sevLow := severityByte_ge FaultSeverity.noConfusion
  have hhigh : (storedFault cx fault).severity ≤ sevCritical := severityByte_le .critical
  obtain ⟨r', hr', hstored⟩ := exists_handleFault r now
    (show centralPeerIndex controllerTrain = some .trainPeer from rfl) hid hgate hlow hhigh
  have henvelope : centralFrameValid
      (trainEnvelope msgFaultAlert (storedFault cx fault).toBytes timestamp)
      controllerCentral = true := by
    unfold centralFrameValid trainEnvelope
    dsimp only
    rw [htime, if_neg (by decide)]
    change faultValid controllerTrain controllerCentral
      (.ofData (dataOfBytes (storedFault cx fault).toBytes)) = true
    rw [FaultMsg.ofData_toBytes]
    exact decide_eq_true ⟨Or.inr rfl, rfl, hid, hgate, hlow, hhigh, rfl,
      terminated_descriptionOf _⟩
  have hlength : (storedFault cx fault).toBytes.tail.length = 35 := by
    simp [FaultMsg.toBytes]
  have hnormal : centralFrameNormalize
      (compactFrame msgFaultAlert (faultAlertOf cx fault).toBytes timestamp) controllerCentral =
        some (trainEnvelope msgFaultAlert (storedFault cx fault).toBytes timestamp) :=
    normalize_compactFrame (Or.inr ⟨rfl, hlength⟩) h henvelope
  refine ⟨r', ?_, toNat_sub_one h.1 ▸ hstored⟩
  unfold receiveFrame
  rw [hnormal]
  change handleFault r controllerTrain
    (.ofData (dataOfBytes (storedFault cx fault).toBytes)) now = _
  rw [FaultMsg.ofData_toBytes, hr']

end TrainReports

/-- One event at a crossing. -/
def crossingStep (cx : Crossing) (event : CrossingEvent) : Crossing :=
  (crossingHandleEvent cx event).cx

theorem numbered_reachable {cx : Crossing} (h : Reachable (· ∈ crossings) crossingStep cx) :
    Numbered cx := by
  refine h.invariant ?_ ?_
  · intro cx hcx
    simp only [crossings, List.mem_cons, List.not_mem_nil, or_false] at hcx
    rcases hcx with rfl | rfl | rfl <;> exact ⟨by decide, by decide⟩
  · intro cx event hcx
    have hsite := (onSite cx event).1
    have hid : (crossingStep cx event).id = cx.id := congrArg Prod.fst hsite
    unfold Numbered
    rw [hid]
    exact hcx

/-- The reports of a Local state, with `sequence` heartbeats sent before. -/
structure LocalUnderstood (r : Reports) (now : Nat) (timestamp : Fin 32 → UInt8)
    (s : LocalState) (sequence : UInt16) : Prop where
  status : ∃ r', receiveFrame r
      (sendPayload msgStatusUpdate (fillStatusLocked s).toBytes timestamp) now = some r' ∧
    r'.monitor.intersections s.intersectionId.val = ⟨true, true, now, fillStatusLocked s⟩
  fault : ∃ r', receiveFrame r
      (sendPayload msgFaultAlert (prepareFaultMessageLocked s).toBytes timestamp) now =
        some r' ∧
    r'.faults .localPeer s.intersectionId.val = prepareFaultMessageLocked s ∧
    r'.faultActive .localPeer s.intersectionId.val =
      decide ((prepareFaultMessageLocked s).faultType ≠ FaultType.none.toByte) ∧
    r'.faultReceivedAt .localPeer s.intersectionId.val = now
  heartbeat : ∃ r', receiveFrame r
      (sendPayload msgHeartbeat (heartbeatOf (fillStatusLocked s) sequence).toBytes timestamp)
      now = some r' ∧
    r'.monitor.health .localPeer s.intersectionId.val =
      ⟨true, (heartbeatOf (fillStatusLocked s) sequence).healthy, now⟩
  counters : Untruncated s (fillStatusLocked s)

/-- The railway status of a crossing, and the alert of each fault it enters. -/
structure CrossingUnderstood (r : Reports) (now : Nat) (timestamp : Fin 32 → UInt8)
    (cx : Crossing) : Prop where
  railway : ∃ r', receiveFrame r
      (compactFrame msgRailwayStatus (railwayStatusOf cx).toBytes timestamp) now = some r' ∧
    r'.monitor.crossings (cx.id.toNat - 1) = ⟨true, true, now, storedRailway cx⟩
  alert : ∀ event, ∀ call ∈ (crossingHandleEvent cx event).calls, ∀ fault,
    call.op = .faultAlert fault →
    ∃ r', receiveFrame r
        (compactFrame msgFaultAlert (faultAlertOf call.cx fault).toBytes timestamp) now =
          some r' ∧
      r'.faults .trainPeer (cx.id.toNat - 1) = storedFault call.cx fault ∧
      r'.faultActive .trainPeer (cx.id.toNat - 1) = true ∧
      r'.faultReceivedAt .trainPeer (cx.id.toNat - 1) = now

/-- Whatever Central holds already, it understands every report of a Local and
of the train controller, and stores it under its sender as it was sent. -/
theorem reports_understood (r : Reports) (now hour minute second : Nat) :
    (∀ s sequence, Reachable Booted localStep s →
      LocalUnderstood r now (timestampOf hour minute second) s sequence) ∧
    (∀ cx, Reachable (· ∈ crossings) crossingStep cx →
      CrossingUnderstood r now (timestampOf hour minute second) cx) := by
  have htime := terminated_timestampOf hour minute second
  constructor
  · intro s sequence hs
    have hrange := inRange_reachable hs
    exact ⟨receive_status htime r hrange now, receive_fault htime r hrange now,
      receive_heartbeat htime r s sequence now, untruncated_fillStatus hrange⟩
  · intro cx hcx
    have hnumbered := numbered_reachable hcx
    refine ⟨receive_railwayStatus htime r hnumbered now, ?_⟩
    intro event call hcall fault _
    have hid : call.cx.id = cx.id := congrArg Prod.fst ((onSite cx event).2 call hcall)
    have hcaller : Numbered call.cx := by
      unfold Numbered
      rw [hid]
      exact hnumbered
    rw [← hid]
    exact receive_faultAlert htime r hcaller fault now

/-- Central before any report. -/
def noReports : Reports :=
  { monitor := centralMonitorInit 0
    faults := fun _ _ => FaultMsg.ofData fun _ => 0
    faultActive := fun _ _ => false
    faultReceivedAt := fun _ _ => 0 }

theorem reports_understood_first :
    LocalUnderstood noReports 0 (timestampOf 6 0 0) (localStateInit 4 .zero) 65535 ∧
      CrossingUnderstood noReports 0 (timestampOf 6 0 0) (crossingInit 2 "P2" 3 4) := by
  have hunderstood := reports_understood noReports 0 6 0 0
  exact ⟨hunderstood.1 _ _ (.init ⟨4, .zero, rfl⟩), hunderstood.2 _ (.init (by simp [crossings]))⟩

end TrafficLight.CentralReports
