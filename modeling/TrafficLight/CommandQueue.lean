import Mathlib.Data.Fintype.Basic
import TrafficLight.CentralCommands
import TrafficLight.CentralFrames
import TrafficLight.CentralMonitor
import TrafficLight.RingQueue

/-!
Central's requests, from `central_controller.c`: a ring queue for each endpoint,
one history of records shared by all of them, and the operations on both. Every
operation is one section under the mutex of the shared state. The clock is read
once in a section unless two readings matter. The trace is not in the source; it
records, newest first, what happened to the requests.
-/

namespace TrafficLight.CommandQueue

open TrafficLight.Runs
open TrafficLight.Protocol
open TrafficLight.CentralCommands
open TrafficLight.CentralFrames
open TrafficLight.CentralMonitor
open TrafficLight.RingQueue

def commandQueueSize : Nat := 32
def commandMaxWaitSec : Nat := 5

/-- `queued_command_t` -/
structure QueuedCommand where
  message : TestMessage
  id : UInt16
  notBefore : Nat

/-- `request_state_t` -/
inductive RequestState
  | queued
  | sending
  | accepted
  | rejected
  | unconfirmed
  | canceled
  | expired
  deriving DecidableEq, Repr

instance neZeroPeers : NeZero 8 := ⟨by decide⟩

/-- `command_record_t` without its display texts. A record with the number zero
is empty. -/
structure CommandRecord where
  id : UInt16
  target : Fin 6
  peer : Fin 8
  automatic : Bool
  modeRequest : ModeCmdMsg
  state : RequestState
  queuedAt : Nat
  sentAt : Nat
  finishedAt : Nat
  deriving DecidableEq

/-- The record is in use and its request is still under way. -/
def CommandRecord.busy (record : CommandRecord) : Bool :=
  record.id ≠ 0 ∧ (record.state = .queued ∨ record.state = .sending)

/-- `central_operator_policy_t` -/
structure OperatorPolicy where
  persistentActive : Fin 6 → Bool
  persistentMode : Fin 6 → UInt8
  temporaryMode : Fin 6 → UInt8
  temporaryUntilNs : Fin 6 → Nat

/-- The endpoints in use and the endpoint of each intersection. -/
structure Routes where
  peerCount : Nat
  route : Fin 6 → Fin 8
  two_le : 2 ≤ peerCount
  le_eight : peerCount ≤ 8
  route_lt : ∀ i, (route i).val < peerCount

/-- What happens to requests. -/
inductive QueueEvent
  | queued (record : CommandRecord)
  | handed (id : UInt16) (peer : Fin 8)
  | finished (id : UInt16) (result : RequestState) (time : Nat)
  | resumed (target : Option (Fin 6))
  deriving DecidableEq

/-- The part of `central_state_t` and of the operator's variables that requests
go through. `inFlight` is the request that the thread of a peer has taken and not
yet completed; a scheduled mode of -1 is `none`. -/
structure Central where
  running : Bool
  monitor : Monitor
  endpointConnected : Fin 8 → Bool
  endpointProbe : Fin 8 → Nat
  queue : Fin 8 → Ring 32 QueuedCommand
  commands : Fin 64 → CommandRecord
  commandNext : Fin 64
  nextId : UInt16
  policyCommand : Fin 6 → UInt16
  policyAck : Fin 6 → UInt16
  scheduledMode : Fin 6 → Option UInt8
  operatorPolicy : OperatorPolicy
  inFlight : Fin 8 → Option QueuedCommand
  trace : List QueueEvent

def trainPeer : Fin 8 := 1

def zeroMode : ModeCmdMsg := ModeCmdMsg.ofData fun _ => 0

/-- Central before its first request. -/
def centralStart (maxAgeSeconds : Nat) : Central :=
  { running := true
    monitor := centralMonitorInit maxAgeSeconds
    endpointConnected := fun _ => false
    endpointProbe := fun _ => 0
    queue := fun _ => ⟨fun _ => ⟨frameOf 0 0 0 [], 0, 0⟩, 0, 0⟩
    commands := fun _ => ⟨0, 0, 0, false, zeroMode, .queued, 0, 0, 0⟩
    commandNext := 0
    nextId := 0
    policyCommand := fun _ => 0
    policyAck := fun _ => 0
    scheduledMode := fun _ => none
    operatorPolicy := ⟨fun _ => false, fun _ => 0, fun _ => 0, fun _ => 0⟩
    inFlight := fun _ => none
    trace := [] }

/-- `find_command_locked` -/
def findCommand (s : Central) (id : UInt16) : Option (Fin 64) :=
  (List.finRange 64).find? fun slot => id ≠ 0 ∧ (s.commands slot).id = id

/-- An id that a new request must not get. -/
def reserved (s : Central) (id : UInt16) : Bool :=
  (findCommand s id).isSome ∨ ∃ i, s.policyCommand i = id

def bumpId (id : UInt16) : UInt16 := if id + 1 = 0 then id + 1 + 1 else id + 1

/-- The loop of `next_id_locked`, which does not say how often it runs. -/
def nextIdFrom (s : Central) : Nat → UInt16 → Option UInt16
  | 0, _ => none
  | fuel + 1, id =>
      if reserved s (bumpId id) then nextIdFrom s fuel (bumpId id) else some (bumpId id)

/-- There are 64 records and six policy commands. -/
def nextIdLocked (s : Central) : Option UInt16 := nextIdFrom s 71 s.nextId

/-- The search of `enqueue_command` for a slot. -/
def freeSlotFrom (s : Central) : Nat → Fin 64 → Option (Fin 64)
  | 0, _ => none
  | fuel + 1, slot =>
      if (s.commands slot).busy then freeSlotFrom s fuel (slot + 1) else some slot

def freeSlot (s : Central) : Option (Fin 64) := freeSlotFrom s 64 s.commandNext

/-- `finish_command_locked` -/
def finishCommand (s : Central) (slot : Fin 64) (result : RequestState) (now : Nat) : Central :=
  { s with
    commands := Function.update s.commands slot
      { s.commands slot with state := result, finishedAt := now }
    trace := .finished (s.commands slot).id result now :: s.trace }

/-- A queued record of the peer is canceled. -/
def discardRecord (peer : Fin 8) (now : Nat) (s : Central) (slot : Fin 64) : Central :=
  if (s.commands slot).id ≠ 0 ∧ (s.commands slot).peer = peer ∧
      (s.commands slot).state = .queued then
    finishCommand s slot .canceled now
  else s

/-- `discard_queue_locked` -/
def discardQueue (s : Central) (peer : Fin 8) (now : Nat) : Central :=
  let s := (List.finRange 64).foldl (discardRecord peer now) s
  { s with queue := Function.update s.queue peer { s.queue peer with head := 0, count := 0 } }

section Routed

variable (routes : Routes)

/-- `local_ready_locked` -/
def localReady (s : Central) (target : Fin 6) (now : Nat) : Bool :=
  let peer := routes.route target
  s.endpointConnected peer && decide (now ≥ s.endpointProbe peer) &&
    decide (now - s.endpointProbe peer < heartbeatMissLimit * centralNsec) &&
    centralCanCommand s.monitor target now

def trainReady (s : Central) (now : Nat) : Bool :=
  s.endpointConnected trainPeer && centralPeerOnline s.monitor controllerTrain now

/-- What `take_command` leaves, the entry it removed, and whether it is to be sent. -/
structure Taken where
  central : Central
  work : Option QueuedCommand
  ready : Bool

def stamp (work : QueuedCommand) (timestamp : Fin 32 → UInt8) : QueuedCommand :=
  { work with
    message := { work.message with header := { work.message.header with timestamp } } }

/-- The record of a removed entry is checked again before the entry is sent. -/
def admitWork (s : Central) (peer : Fin 8) (work : QueuedCommand) (now : Nat)
    (timestamp : Fin 32 → UInt8) : Taken :=
  match findCommand s work.id with
  | none => ⟨s, some work, false⟩
  | some slot =>
      if (s.commands slot).state ≠ .queued then ⟨s, some work, false⟩
      else if now ≥ work.notBefore ∧ now - work.notBefore ≥ commandMaxWaitSec * centralNsec then
        ⟨finishCommand s slot .expired now, some work, false⟩
      else if (if peer = trainPeer then trainReady s now
          else localReady routes s (s.commands slot).target now) = false then
        ⟨finishCommand s slot .canceled now, some work, false⟩
      else
        let record := { s.commands slot with state := .sending, sentAt := now }
        ⟨{ s with
            commands := Function.update s.commands slot record
            trace := .handed work.id peer :: s.trace },
          some (stamp work timestamp), true⟩

/-- `take_command`, with its two readings of the clock. -/
def takeCommand (s : Central) (peer : Fin 8) (now later : Nat) (timestamp : Fin 32 → UInt8) :
    Taken :=
  if s.running = false then ⟨s, none, false⟩
  else
    match (s.queue peer).position fun work => work.notBefore ≤ now with
    | none => ⟨s, none, false⟩
    | some i =>
        let rest := Function.update s.queue peer ((s.queue peer).eraseAt i)
        admitWork routes { s with queue := rest } peer ((s.queue peer).get i) later timestamp

def resultState : SendResult → RequestState
  | .ok => .accepted
  | .rejected => .rejected
  | _ => .unconfirmed

/-- `send_command` once `central_send` has returned. -/
def sendDone (s : Central) (work : QueuedCommand) (result : SendResult) (now : Nat) : Central :=
  match findCommand s work.id with
  | none => s
  | some slot => finishCommand s slot (resultState result) now

/-- Why `enqueue_command` refuses a request. -/
inductive EnqueueRefusal
  | stopping
  | full
  | trainNotReady
  | localNotReady (target : Fin 6)
  deriving DecidableEq

def forTrain (prototype : TestMessage) : Bool := prototype.header.dst = controllerTrain

/-- The intersections that a request is for; no target is all of them. A Train
command is one request, filed under the first. -/
def expand (prototype : TestMessage) (target : Option (Fin 6)) : List (Fin 6) :=
  if forTrain prototype then [0]
  else
    match target with
    | some i => [i]
    | none => List.finRange 6

def peerFor (prototype : TestMessage) (i : Fin 6) : Fin 8 :=
  if forTrain prototype then trainPeer else routes.route i

/-- The slots that hold no request under way. -/
def available (s : Central) : Nat :=
  (List.finRange 64).countP fun slot => ! (s.commands slot).busy

/-- The new entries of a peer. -/
def needed (prototype : TestMessage) (targets : List (Fin 6)) (peer : Fin 8) : Nat :=
  targets.countP fun i => peerFor routes prototype i = peer

def noRoom (s : Central) (prototype : TestMessage) (targets : List (Fin 6)) : Bool :=
  available s < targets.length ∨
    ∃ peer : Fin 8, peer.val < routes.peerCount ∧
      (s.queue peer).count + needed routes prototype targets peer > commandQueueSize

/-- The tests of `enqueue_command` in their order. -/
def enqueueRefusal (s : Central) (prototype : TestMessage) (target : Option (Fin 6))
    (now : Nat) : Option EnqueueRefusal :=
  let targets := expand prototype target
  if s.running = false then some .stopping
  else if noRoom routes s prototype targets then some .full
  else if forTrain prototype then
    if trainReady s now then none else some .trainNotReady
  else (targets.find? fun i => ! localReady routes s i now).map .localNotReady

/-- The record of a new request. -/
def newRecord (prototype : TestMessage) (i : Fin 6) (automatic : Bool) (now : Nat)
    (id : UInt16) : CommandRecord :=
  { id
    target := i
    peer := peerFor routes prototype i
    automatic
    modeRequest :=
      if prototype.header.type = msgModeCommand then ModeCmdMsg.ofData prototype.data
      else zeroMode
    state := .queued
    queuedAt := now
    sentAt := 0
    finishedAt := 0 }

/-- The entry of a new request. A Train command carries neither id nor target. -/
def newEntry (prototype : TestMessage) (i : Fin 6) (delay now : Nat) (id : UInt16) :
    QueuedCommand :=
  { message :=
      if forTrain prototype then prototype
      else centralCommandSetTarget (centralCommandSetId prototype id) i.val
    id
    notBefore := now + delay * centralNsec }

/-- A request for one intersection in a given slot. -/
def fileRequest (s : Central) (prototype : TestMessage) (i : Fin 6) (delay : Nat)
    (automatic : Bool) (now : Nat) (id : UInt16) (slot : Fin 64) : Central :=
  let record := newRecord routes prototype i automatic now id
  let peer := peerFor routes prototype i
  { s with
    nextId := id
    commands := Function.update s.commands slot record
    commandNext := slot + 1
    policyCommand :=
      if prototype.header.type = msgModeCommand ∧ automatic = false then
        Function.update s.policyCommand i id
      else s.policyCommand
    queue := Function.update s.queue peer
      ((s.queue peer).append (newEntry prototype i delay now id))
    trace := .queued record :: s.trace }

/-- One turn of the last loop of `enqueue_command`; no result is a search that
does not end. -/
def enqueueOne (prototype : TestMessage) (delay : Nat) (automatic : Bool) (now : Nat)
    (s : Central) (i : Fin 6) : Option Central := do
  let id ← nextIdLocked s
  let slot ← freeSlot s
  some (fileRequest routes s prototype i delay automatic now id slot)

structure Enqueued where
  central : Central
  refusal : Option EnqueueRefusal

/-- `enqueue_command` -/
def enqueueCommand (s : Central) (prototype : TestMessage) (target : Option (Fin 6))
    (delay : Nat) (automatic : Bool) (now : Nat) : Option Enqueued :=
  match enqueueRefusal routes s prototype target now with
  | some refusal => some ⟨s, some refusal⟩
  | none =>
      ((expand prototype target).foldlM (enqueueOne routes prototype delay automatic now) s).map
        fun s => ⟨s, none⟩

/-- The entry belongs to a schedule request for the target. -/
def supersedes (s : Central) (target : Option (Fin 6)) (work : QueuedCommand) :
    Option (Fin 64) :=
  (findCommand s work.id).filter fun slot =>
    (s.commands slot).automatic ∧ (target = none ∨ target = some (s.commands slot).target)

/-- One turn of the inner loop of `cancel_automatic`, with the number of entries
kept so far. -/
def cancelStep (target : Option (Fin 6)) (peer : Fin 8) (now : Nat) (s : Central × Nat)
    (i : Nat) : Central × Nat :=
  let work := (s.1.queue peer).get i
  match supersedes s.1 target work with
  | some slot => (finishCommand s.1 slot .canceled now, s.2)
  | none =>
      ({ s.1 with queue := Function.update s.1.queue peer ((s.1.queue peer).set s.2 work) },
        s.2 + 1)

def cancelPeer (target : Option (Fin 6)) (now : Nat) (s : Central) (peer : Fin 8) : Central :=
  let (s, kept) := (List.range (s.queue peer).count).foldl (cancelStep target peer now) (s, 0)
  { s with queue := Function.update s.queue peer { s.queue peer with count := kept } }

/-- The peers in use. -/
def peers : List (Fin 8) := (List.finRange 8).filter fun peer => peer.val < routes.peerCount

/-- `cancel_automatic` -/
def cancelAutomatic (s : Central) (target : Option (Fin 6)) (now : Nat) : Central :=
  (peers routes).foldl (cancelPeer target now) s

/-- The links, the monitor and the operator's own variables change at any time. -/
inductive QueueAction
  | enqueue (prototype : TestMessage) (target : Option (Fin 6)) (delay : Nat)
      (automatic : Bool) (now : Nat)
  | take (peer : Fin 8) (now later : Nat) (timestamp : Fin 32 → UInt8)
  | sent (peer : Fin 8) (result : SendResult) (now : Nat)
  | cancel (target : Option (Fin 6)) (now : Nat)
  | lost (peer : Fin 8) (now : Nat)
  | stop (now : Nat)
  | observe (monitor : Monitor) (connected : Fin 8 → Bool) (probe : Fin 8 → Nat)
  | release (target : Option (Fin 6))
  | operator (policyAck : Fin 6 → UInt16) (scheduledMode : Fin 6 → Option UInt8)
      (operatorPolicy : OperatorPolicy)

/-- The targets that a command covers. -/
def covers (target : Option (Fin 6)) (i : Fin 6) : Bool := target = none ∨ target = some i

/-- A peer thread takes an entry only when it has none under way. -/
def takeStep (s : Central) (peer : Fin 8) (now later : Nat) (timestamp : Fin 32 → UInt8) :
    Central :=
  if (s.inFlight peer).isSome then s
  else
    let taken := takeCommand routes s peer now later timestamp
    if taken.ready then
      { taken.central with
        inFlight := Function.update taken.central.inFlight peer taken.work }
    else taken.central

def sentStep (s : Central) (peer : Fin 8) (result : SendResult) (now : Nat) : Central :=
  match s.inFlight peer with
  | none => s
  | some work =>
      let s := sendDone s work result now
      { s with inFlight := Function.update s.inFlight peer none }

def queueStep (s : Central) : QueueAction → Central
  | .enqueue prototype target delay automatic now =>
      match enqueueCommand routes s prototype target delay automatic now with
      | some enqueued => enqueued.central
      | none => s
  | .take peer now later timestamp => takeStep routes s peer now later timestamp
  | .sent peer result now => sentStep s peer result now
  | .cancel target now => cancelAutomatic routes s target now
  | .lost peer now =>
      discardQueue
        { s with
          endpointConnected := Function.update s.endpointConnected peer false
          endpointProbe := Function.update s.endpointProbe peer 0 }
        peer now
  | .stop now =>
      (peers routes).foldl (fun s peer => discardQueue s peer now) { s with running := false }
  | .observe monitor endpointConnected endpointProbe =>
      { s with monitor, endpointConnected, endpointProbe }
  | .release target =>
      { s with
        policyCommand := fun i => if covers target i then 0 else s.policyCommand i
        policyAck := fun i => if covers target i then 0 else s.policyAck i
        scheduledMode := fun i => if covers target i then none else s.scheduledMode i
        trace := .resumed target :: s.trace }
  | .operator policyAck scheduledMode operatorPolicy =>
      { s with policyAck, scheduledMode, operatorPolicy }

end Routed

end TrafficLight.CommandQueue
