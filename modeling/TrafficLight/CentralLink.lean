import TrafficLight.Runs
import TrafficLight.CentralFrames

/-!
One link of Central: callers hand a request to the worker thread of the link,
which is the only one to block in the kernel. Every step below is one section
under the mutex of the link, or the kernel call between two sections; the steps
interleave in any order. Callers are numbered by their calls of `run_job`, and
the record keeps what happened to each of them.
-/

namespace TrafficLight.CentralLink

open TrafficLight.Runs
open TrafficLight.Protocol
open TrafficLight.CentralFrames

/-- The job of a call, with the message it carries. -/
inductive Request
  | connect
  | send (message : TestMessage)

/-- `central_job_t`; no job is `none`. -/
inductive Job
  | connect
  | send
  deriving DecidableEq, Repr

def Request.job : Request → Job
  | .connect => .connect
  | .send _ => .send

/-- The request of a connect job is cleared. -/
def Request.message : Request → TestMessage
  | .connect => frameOf 0 0 0 []
  | .send message => message

/-- The number of a `central_send_result_t`. -/
def code : SendResult → Int
  | .ok => 0
  | .transport => -1
  | .rejected => -2
  | .protocol => -3

/-- What `run_job` returns when nothing was done. -/
def failure : Job → Int
  | .connect => 0
  | .send => code .transport

/-- The variables of the worker while it is away from the mutex, and the
caller it works for. -/
structure Picked where
  job : Job
  generation : UInt64
  coid : Option Nat
  request : TestMessage
  caller : Nat

/-- Where the worker is. -/
inductive Worker
  /-- at the top of its loop, or woken from its wait -/
  | head
  /-- closing the old connection -/
  | closing
  /-- with a job, before the kernel call -/
  | picked (p : Picked)
  /-- in the kernel call, unless its timeout could not be armed -/
  | calling (p : Picked) (armed : Bool)
  /-- closing a connection that is not wanted any more -/
  | discarding (p : Picked) (reply : ReplyMsg)
  | exited

/-- What a kernel call may bring: the connection that `name_open` found, the
status of `MsgSend` and the buffer it left. -/
structure KernelResult where
  discovered : Option Nat
  status : Int
  reply : ReplyMsg

/-- A reply the worker validated, and whether the link was still current. -/
structure Check where
  caller : Nat
  request : TestMessage
  kernel : KernelResult
  submitted : UInt64
  finished : UInt64

/-- A call of `run_job` that returned: its result, the reply it was given, and
the caller that result was written for; a refusal or a timeout takes none. -/
structure Return where
  caller : Nat
  result : Int
  reply : Option ReplyMsg
  writtenFor : Option Nat

/-- What happened so far: the calls of `run_job`, the requests passed to
`MsgSend`, the callers whose request was taken back before the worker had it
(by their deadline or by a close), the validated replies and the returns. -/
structure Record where
  calls : List Request
  sent : List (Nat × TestMessage)
  dropped : List Nat
  checks : List Check
  returns : List Return

/-- `central_link_state`, its threads and the record. `owner` is the caller of
the last accepted submission, `answered` the one the stored result is for. -/
structure Link where
  coid : Option Nat
  connected : Bool
  closeRequested : Bool
  stopping : Bool
  detached : Bool
  busy : Bool
  done : Bool
  abandoned : Bool
  job : Option Job
  generation : UInt64
  jobGeneration : UInt64
  request : TestMessage
  reply : ReplyMsg
  result : Int
  worker : Worker
  waiting : List Nat
  owner : Nat
  answered : Nat
  record : Record

def linkInit : Link :=
  { coid := none
    connected := false, closeRequested := false, stopping := false, detached := false
    busy := false, done := false, abandoned := false
    job := none
    generation := 0, jobGeneration := 0
    request := frameOf 0 0 0 []
    reply := ⟨0, fun _ => 0, 0⟩
    result := 0
    worker := .head
    waiting := []
    owner := 0, answered := 0
    record := ⟨[], [], [], [], []⟩ }

def Link.returning (s : Link) (ret : Return) : Link :=
  { s with record := { s.record with returns := s.record.returns ++ [ret] } }

/-- A job is taken only by a free link in the right connection state. -/
def Link.refuses (s : Link) (job : Job) : Bool :=
  s.stopping || s.busy || s.closeRequested ||
    match job with
    | .connect => s.connected
    | .send => !s.connected

/-- `run_job` up to its wait; a refused call returns at once. -/
def submit (s : Link) (r : Request) : Link :=
  let caller := s.record.calls.length
  let s := { s with record := { s.record with calls := s.record.calls ++ [r] } }
  if s.refuses r.job then s.returning ⟨caller, failure r.job, none, none⟩
  else
    { s with
      busy := true, done := false, abandoned := false
      job := some r.job
      jobGeneration := s.generation
      request := r.message
      waiting := s.waiting ++ [caller]
      owner := caller }

/-- The job of a caller. -/
def Link.jobOf (s : Link) (caller : Nat) : Job :=
  (s.record.calls.getD caller .connect).job

/-- A waiting caller finds its job done. -/
def collect (s : Link) (caller : Nat) : Link :=
  if caller ∈ s.waiting ∧ s.done = true then
    let taken := s.jobOf caller = .send ∧ (s.result = code .ok ∨ s.result = code .rejected)
    { s with
      busy := false, done := false
      waiting := s.waiting.erase caller }.returning
        ⟨caller, s.result, if taken then some s.reply else none, some s.answered⟩
  else s

/-- The deadline of a waiting caller passes. -/
def timeOut (s : Link) (caller : Nat) : Link :=
  if caller ∈ s.waiting ∧ s.done = false then
    let left :=
      if s.job ≠ none then
        -- a request that never reached the worker must not execute later
        { s with
          job := none, busy := false
          record := { s.record with dropped := s.record.dropped ++ [caller] } }
      else { s with abandoned := true }
    { left with waiting := s.waiting.erase caller }.returning
      ⟨caller, failure (s.jobOf caller), none, none⟩
  else s

/-- The loop of the worker from its exit test on. -/
def pickUp (s : Link) : Link :=
  if s.stopping then { s with worker := .exited }
  else
    match s.job with
    | none => { s with worker := .head }
    | some job =>
        { s with
          job := none
          worker := .picked ⟨job, s.jobGeneration, s.coid, s.request, s.owner⟩ }

/-- The top of the worker's loop. -/
def wake (s : Link) : Link :=
  match s.worker with
  | .head =>
      if s.closeRequested ∨ s.stopping then
        let idle := { s with coid := none, connected := false, closeRequested := false }
        if s.coid ≠ none then { idle with worker := .closing } else pickUp idle
      else pickUp s
  | _ => s

/-- The old connection is closed and the mutex taken again. -/
def closed (s : Link) : Link :=
  match s.worker with
  | .closing => pickUp s
  | _ => s

/-- The kernel call begins; a send job passes its request to `MsgSend`. -/
def invoke (s : Link) (armed : Bool) : Link :=
  match s.worker with
  | .picked p =>
      let s := { s with worker := .calling p armed }
      if armed ∧ p.job = .send then
        { s with record := { s.record with sent := s.record.sent ++ [(p.caller, p.request)] } }
      else s
  | _ => s

/-- The end of the finish section: the result is stored for the caller, unless
it has left. -/
def finishSection (s : Link) (p : Picked) (result : Int) (reply : ReplyMsg) : Link :=
  let s := { s with result, reply, answered := p.caller, worker := .head }
  if s.abandoned then { s with busy := false, abandoned := false } else { s with done := true }

/-- The link is still the one the job was submitted to. -/
def Link.current (s : Link) (generation : UInt64) : Bool :=
  !s.stopping && !s.closeRequested && generation == s.generation

/-- The kernel call of a connect job has returned. -/
def finishConnect (s : Link) (p : Picked) (discovered : Option Nat) : Link :=
  match discovered with
  | some coid =>
      if s.current p.generation ∧ s.abandoned = false then
        finishSection { s with coid := some coid, connected := true } p 1
          (prepareReply p.request)
      else { s with worker := .discarding p (prepareReply p.request) }
  | none => finishSection s p 0 (prepareReply p.request)

/-- The kernel call of a send job has returned. -/
def finishSend (s : Link) (p : Picked) (armed : Bool) (kernel : KernelResult) : Link :=
  if armed = false then
    finishSection s p (code .transport) (prepareReply p.request)
  else if kernel.status = -1 then finishSection s p (code .transport) kernel.reply
  else
    let result := validateReply p.request kernel.reply kernel.status
    let s := { s with record := { s.record with
      checks := s.record.checks ++ [⟨p.caller, p.request, kernel, p.generation, s.generation⟩] } }
    finishSection s p (code (if s.current p.generation then result else .transport))
      kernel.reply

/-- The kernel call returns and the worker takes the mutex again. -/
def finish (s : Link) (kernel : KernelResult) : Link :=
  match s.worker with
  | .calling p armed =>
      match p.job with
      | .connect => finishConnect s p (if armed then kernel.discovered else none)
      | .send => finishSend s p armed kernel
  | _ => s

/-- The unwanted connection is closed and the mutex taken again. -/
def discarded (s : Link) : Link :=
  match s.worker with
  | .discarding p reply => finishSection s p 0 reply
  | _ => s

/-- `central_link_close` -/
def close (s : Link) : Link :=
  let s := { s with connected := false, closeRequested := true, generation := s.generation + 1 }
  match s.job with
  | none => s
  | some job =>
      { s with
        result := failure job
        answered := s.owner
        job := none
        done := true
        record := { s.record with dropped := s.record.dropped ++ [s.owner] } }

/-- `central_link_destroy` up to its wait -/
def destroy (s : Link) : Link :=
  { s with stopping := true, connected := false, generation := s.generation + 1 }

/-- The wait of `central_link_destroy` ends; a worker that is still away keeps
the state for itself. -/
def detach (s : Link) : Link :=
  match s.worker with
  | .exited => s
  | _ => { s with detached := true }

inductive LinkAction
  | submit (r : Request)
  | collect (caller : Nat)
  | timeOut (caller : Nat)
  | wake
  | closed
  | invoke (armed : Bool)
  | finish (kernel : KernelResult)
  | discarded
  | close
  | destroy
  | detach

def linkStep (s : Link) : LinkAction → Link
  | .submit r => submit s r
  | .collect caller => collect s caller
  | .timeOut caller => timeOut s caller
  | .wake => wake s
  | .closed => closed s
  | .invoke armed => invoke s armed
  | .finish kernel => finish s kernel
  | .discarded => discarded s
  | .close => close s
  | .destroy => destroy s
  | .detach => detach s

end TrafficLight.CentralLink
