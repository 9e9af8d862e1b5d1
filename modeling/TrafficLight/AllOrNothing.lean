import TrafficLight.CommandCycles
import TrafficLight.SimLanguage

namespace TrafficLight.AllOrNothing

open TrafficLight.Runs
open TrafficLight.Protocol
open TrafficLight.CentralCommands
open TrafficLight.SimLanguage
open TrafficLight.CommandQueue
open TrafficLight.QueueOperations
open TrafficLight.CommandAdmission
open TrafficLight.QueueOrder
open TrafficLight.CommandCycles

variable {routes : Routes} {prototype : TestMessage}

/-- The requests that Central makes: a Train command, a mode or coordination
command, or a SIM1 text. -/
def IsRequest (prototype : TestMessage) : Prop :=
  forTrain prototype = true ∨ prototype.header.type = msgModeCommand ∨
    prototype.header.type = msgCoordinationCommand ∨
      ∃ sim, centralSimulationDecode prototype = some sim

/-- A message to a Local is its prototype with the id and the target filled in. -/
def Carries (prototype message : TestMessage) (i : Fin 6) (id : UInt16) : Prop :=
  message.header = prototype.header ∧
    if prototype.header.type = msgModeCommand then
      ModeCmdMsg.ofData message.data =
          { ModeCmdMsg.ofData prototype.data with
            intersectionId := UInt8.ofNat i
            commandId := id } ∧
        ∀ k : Fin 64, 8 ≤ k.val → message.data k = prototype.data k
    else if prototype.header.type = msgCoordinationCommand then
      CoordinationCommandMsg.ofData message.data =
          { CoordinationCommandMsg.ofData prototype.data with
            intersectionId := UInt8.ofNat i
            commandId := id } ∧
        ∀ k : Fin 64, 8 ≤ k.val → message.data k = prototype.data k
    else
      ∃ sim, centralSimulationDecode prototype = some sim ∧
        centralSimulationDecode message = some { sim with target := i.val, commandId := id }

theorem overwrite_of_le {d : Data} {bytes : List UInt8} {k : Fin 64} (h : bytes.length ≤ k.val) :
    overwrite d bytes k = d k := by
  rw [overwrite, List.getD_eq_default _ _ h]

theorem simHeader_of_decode {message : TestMessage} {sim : CentralSimCommand}
    (h : centralSimulationDecode message = some sim) : SimHeader message := by
  unfold centralSimulationDecode at h
  split at h
  · cases h
  · rename_i hheader
    simpa [SimHeader] using hheader

theorem decode_encode {message : TestMessage} {sim command : CentralSimCommand}
    (h : centralSimulationDecode message = some sim) (hvalid : SimValid command) :
    centralSimulationDecode (simulationEncode message command) = some command := by
  have hheader := simHeader_of_decode h
  have hencoded : SimHeader (simulationEncode message command) := hheader
  exact centralSimulationDecode_text hencoded hvalid rfl

theorem carries_newEntry (h : IsRequest prototype) (hlocal : forTrain prototype = false)
    (i : Fin 6) (delay now : Nat) (id : UInt16) :
    Carries prototype (newEntry prototype i delay now id).message i id := by
  have htarget : ¬ (i.val ≥ numIntersections ∧ i.val ≠ intersectionAll.toNat) := by
    rw [not_and_or]
    exact .inl (Nat.not_le.mpr i.isLt)
  have hmessage : (newEntry prototype i delay now id).message =
      centralCommandSetTarget (centralCommandSetId prototype id) i.val := by
    show (if forTrain prototype = true then _ else _) = _
    rw [hlocal]
    rfl
  rw [hmessage]
  unfold Carries
  by_cases hmode : prototype.header.type = msgModeCommand
  · have hset : centralCommandSetTarget (centralCommandSetId prototype id) i.val =
        { prototype with
          data := overwrite
            (overwrite prototype.data
              { ModeCmdMsg.ofData prototype.data with commandId := id }.toBytes)
            { ModeCmdMsg.ofData prototype.data with
              intersectionId := UInt8.ofNat i
              commandId := id }.toBytes } := by
      unfold centralCommandSetTarget centralCommandSetId
      rw [if_neg htarget, if_pos hmode, if_pos hmode]
      simp
    have hrest : ∀ (d : Data) (m : ModeCmdMsg) (k : Fin 64), 8 ≤ k.val →
        overwrite d m.toBytes k = d k :=
      fun d m k hk => overwrite_of_le hk
    rw [hset, if_pos hmode, ModeCmdMsg.ofData_overwrite]
    exact ⟨rfl, rfl, fun k hk => (hrest _ _ k hk).trans (hrest _ _ k hk)⟩
  · rw [if_neg hmode]
    by_cases hcoordination : prototype.header.type = msgCoordinationCommand
    · have hset : centralCommandSetTarget (centralCommandSetId prototype id) i.val =
          { prototype with
            data := overwrite
              (overwrite prototype.data
                { CoordinationCommandMsg.ofData prototype.data with commandId := id }.toBytes)
              { CoordinationCommandMsg.ofData prototype.data with
                intersectionId := UInt8.ofNat i
                commandId := id }.toBytes } := by
        unfold centralCommandSetTarget centralCommandSetId
        rw [if_neg htarget, if_neg hmode, if_pos hcoordination, if_neg hmode, if_pos hcoordination]
        simp
      have hrest : ∀ (d : Data) (m : CoordinationCommandMsg) (k : Fin 64), 8 ≤ k.val →
          overwrite d m.toBytes k = d k :=
        fun d m k hk => overwrite_of_le hk
      rw [hset, if_pos hcoordination, CoordinationCommandMsg.ofData_overwrite]
      exact ⟨rfl, rfl, fun k hk => (hrest _ _ k hk).trans (hrest _ _ k hk)⟩
    · rw [if_neg hcoordination]
      have hsim : ∃ sim, centralSimulationDecode prototype = some sim := by
        rcases h with htrain | h | h | h
        · rw [hlocal] at htrain
          cases htrain
        · exact absurd h hmode
        · exact absurd h hcoordination
        · exact h
      obtain ⟨sim, hsim⟩ := hsim
      have hvalid := simValid_of_centralSimulationDecode hsim
      have hwithId : SimValid { sim with commandId := id } :=
        ⟨hvalid.target, hvalid.minute, hvalid.unused⟩
      have hfilled : SimValid { sim with target := i.val, commandId := id } :=
        ⟨.inl i.isLt, hvalid.minute, hvalid.unused⟩
      have hdecodeId := decode_encode hsim hwithId
      have hset : centralCommandSetTarget (centralCommandSetId prototype id) i.val =
          simulationEncode (simulationEncode prototype { sim with commandId := id })
            { sim with target := i.val, commandId := id } := by
        have hid : centralCommandSetId prototype id =
            simulationEncode prototype { sim with commandId := id } := by
          unfold centralCommandSetId
          rw [if_neg hmode, if_neg hcoordination, hsim]
        rw [hid]
        unfold centralCommandSetTarget
        rw [if_neg htarget, if_neg (by exact hmode), if_neg (by exact hcoordination), hdecodeId]
      rw [hset]
      exact ⟨rfl, sim, hsim, decode_encode hdecodeId hfilled⟩

/-- The states that Central reaches. -/
def Reached (routes : Routes) (s : Central) : Prop :=
  Reachable (fun s => ∃ maxAgeSeconds, s = centralStart maxAgeSeconds) (queueStep routes) s

theorem bounded_of_reached {s : Central} (h : Reached routes s) : Bounded s := by
  apply Reachable.invariant _ (fun s a hs => (entries_queueStep hs a).1) h
  rintro s ⟨maxAgeSeconds, rfl⟩ peer
  exact Nat.zero_le _

/-- One request for each target: new records in slots that held nothing under
way, new entries behind those each peer had, and ids that are neither zero nor
shared nor held, except by what the request itself has replaced. -/
structure Admitted (routes : Routes) (prototype : TestMessage) (delay : Nat)
    (automatic : Bool) (now : Nat) (s s' : Central) (fresh : List Fresh) : Prop where
  slots : (fresh.map Fresh.slot).Nodup
  idle : ∀ f ∈ fresh, (s.commands f.slot).busy = false
  records : ∀ f ∈ fresh, s'.commands f.slot = freshRecord routes prototype automatic now f
  others : ∀ slot ∉ fresh.map Fresh.slot, s'.commands slot = s.commands slot
  ids : (fresh.map Fresh.id).Nodup ∧ ∀ f ∈ fresh, f.id ≠ 0
  held : ∀ before f after, fresh = before ++ f :: after →
    (∀ slot ∉ before.map Fresh.slot, (s.commands slot).id ≠ f.id) ∧
      ∀ i, (setsPolicy prototype automatic = true → i ∉ before.map Fresh.target) →
        s.policyCommand i ≠ f.id
  entries : ∀ peer, entries s' peer = entries s peer ++
    (sentTo routes prototype fresh peer).map (freshEntry prototype delay now)
  messages : ∀ f ∈ fresh, if forTrain prototype then
      (freshEntry prototype delay now f).message = prototype
    else Carries prototype (freshEntry prototype delay now f).message f.target f.id
  bounded : ∀ peer, (s'.queue peer).count ≤ commandQueueSize

/-- The call returns. If it refuses, nothing has changed; otherwise there is
exactly one new request for each target. -/
theorem enqueue_all_or_nothing {s : Central} (hreach : Reached routes s)
    (hrequest : IsRequest prototype) (target : Option (Fin 6)) (delay : Nat)
    (automatic : Bool) (now : Nat) :
    ∃ enqueued, enqueueCommand routes s prototype target delay automatic now = some enqueued ∧
      (enqueued.refusal ≠ none → enqueued.central = s) ∧
      (enqueued.refusal = none → ∃ fresh, fresh.map Fresh.target = expand prototype target ∧
        Admitted routes prototype delay automatic now s enqueued.central fresh) := by
  have hbounded := bounded_of_reached hreach
  rcases @enqueueCommand_cases routes s prototype target delay automatic now with
    ⟨refusal, _, hresult⟩ | ⟨s', fresh, hadmitted, hresult, htargets, hfiles⟩
  · exact ⟨_, hresult, fun _ => rfl, nofun⟩
  · refine ⟨_, hresult, fun hrefused => absurd rfl hrefused, fun _ => ⟨fresh, htargets, ?_⟩⟩
    have hqueue := enqueue_entries hbounded hadmitted htargets hfiles
    constructor
    · exact hfiles.slots.1
    · exact hfiles.slots.2
    · exact fun f hf => hfiles.commands_fresh hf
    · exact fun slot hslot => hfiles.commands_other hslot
    · exact ⟨hfiles.ids_nodup, fun f hf => hfiles.id_ne_zero hf⟩
    · intro before f after hsplit
      exact (hfiles.unreserved hsplit).2.2
    · exact fun peer => (hqueue peer).1
    · intro f _
      split
      · rename_i htrain
        show (if forTrain prototype = true then prototype else _) = prototype
        rw [if_pos htrain]
      · rename_i hlocal
        exact carries_newEntry hrequest (by simpa using hlocal) f.target delay now f.id
    · exact fun peer => (hqueue peer).2

/-- The operator's command for fixed mode. -/
def modeFixed : TestMessage :=
  frameOf msgModeCommand controllerCentral controllerLocal
    (ModeCmdMsg.toBytes ⟨0, 0, cmdSetMode, cmdPrioOperator, 0, 0⟩)

theorem enqueue_all_or_nothing_mode :
    let s := queueStep defaultRoutes (centralStart 5) allUp
    ∃ enqueued, enqueueCommand defaultRoutes s modeFixed none 0 false 0 = some enqueued ∧
      (enqueued.refusal ≠ none → enqueued.central = s) ∧
      (enqueued.refusal = none → ∃ fresh, fresh.map Fresh.target = expand modeFixed none ∧
        Admitted defaultRoutes modeFixed 0 false 0 s enqueued.central fresh) :=
  enqueue_all_or_nothing ⟨centralStart 5, [allUp], ⟨5, rfl⟩, rfl⟩ (.inr (.inl rfl)) none 0 false 0

/-- Fixed mode for the first intersection, and then Train commands until the
counter of ids is two short of its end. -/
def roundTrip : List QueueAction :=
  allUp :: (exchange modeFixed 0 .ok ++ trainExchanges 65533)

/-- The state before the counter of ids starts again holds the id one for the
first intersection. -/
theorem roundTrip_state :
    let s := run (queueStep defaultRoutes) (centralStart 5) roundTrip
    Calm s ∧ s.nextId.toNat = 65534 ∧ s.policyCommand = Function.update (fun _ => 0) 0 1 ∧
      ∀ slot, 1 < (s.commands slot).id.toNat ∧ (s.commands slot).id.toNat ≤ 65534 := by
  have hfirst : nextIdLocked (queueStep defaultRoutes (centralStart 5) allUp) = some 1 := by
    decide +kernel
  have hmode := @exchanged _ modeFixed 0 1 calm_start (by decide) hfirst .ok
  dsimp only
  rw [roundTrip, run_cons, run_append]
  generalize run (queueStep defaultRoutes) (queueStep defaultRoutes (centralStart 5) allUp)
    (exchange modeFixed 0 .ok) = s₁ at hmode ⊢
  have hnext : s₁.nextId.toNat = 1 := by
    rw [hmode.nextId]
    rfl
  have hbelow : ∀ slot, (s₁.commands slot).id.toNat ≤ s₁.nextId.toNat := by
    intro slot
    rw [hnext, hmode.commands]
    by_cases hslot : slot = (queueStep defaultRoutes (centralStart 5) allUp).commandNext
    · rw [hslot, Function.update_self]
      exact Nat.le_refl 1
    · rw [Function.update_of_ne hslot]
      exact Nat.zero_le 1
  have hpolicy : s₁.policyCommand = Function.update (fun _ => 0) 0 1 := by
    rw [hmode.policyCommand, if_pos (by decide)]
    rfl
  have hbound : ∀ i, (s₁.policyCommand i).toNat ≤ s₁.nextId.toNat := by
    intro i
    rw [hpolicy, hnext]
    revert i
    decide
  have hdriven := driven hmode.calm hbelow hbound (k := 65533) (by omega)
  refine ⟨hdriven.calm, ?_, ?_, ?_⟩
  · rw [hdriven.nextId, hnext]
  · rw [hdriven.policyCommand, hpolicy]
  · intro slot
    have hnewer := hdriven.newer (by decide) slot
    have holder := hdriven.below slot
    omega

theorem before_last_id :
    ∃ s, Reached defaultRoutes s ∧ Calm s ∧ s.nextId.toNat = 65534 ∧
      s.policyCommand = Function.update (fun _ => 0) 0 1 ∧
      ∀ slot, 1 < (s.commands slot).id.toNat ∧ (s.commands slot).id.toNat ≤ 65534 :=
  ⟨_, ⟨centralStart 5, roundTrip, ⟨5, rfl⟩, rfl⟩, roundTrip_state⟩

theorem setsPolicy_modeFixed : setsPolicy modeFixed false = true := by
  decide

/-- The first two requests of fixed mode for all intersections, from a state
whose counter is two short of its end. -/
theorem first_two {s : Central} (hcalm : Calm s) (hnext : s.nextId.toNat = 65534)
    (hpolicy : s.policyCommand = Function.update (fun _ => 0) 0 1)
    (hids : ∀ slot, 1 < (s.commands slot).id.toNat ∧ (s.commands slot).id.toNat ≤ 65534) :
    ∃ s₁ s₂, enqueueOne defaultRoutes modeFixed 0 false 0 s 0 = some s₁ ∧
      enqueueOne defaultRoutes modeFixed 0 false 0 s₁ 1 = some s₂ ∧
      available s₂ + 2 = available s ∧ ∃ slot, (s₂.commands slot).id = 1 ∧
        (s₂.commands slot).busy = true := by
  have hlast : bumpId s.nextId = 65535 := by
    apply UInt16.toNat_inj.mp
    rw [toNat_bumpId, hnext]
    rfl
  have hfree : reserved s (bumpId s.nextId) = false := by
    rw [hlast]
    apply unreserved_of_above
    · intro slot
      exact ne_of_toNat_lt (Nat.lt_of_le_of_lt (hids slot).2 (by decide))
    · rw [hpolicy]
      decide
  have hfirst := @enqueueOne_next s modeFixed 0 hfree (hcalm.finished s.commandNext)
  rw [hlast] at hfirst
  have hroom := @available_fileFresh defaultRoutes modeFixed 0 false 0 s
    ⟨0, 65535, s.commandNext⟩ (by decide : (65535 : UInt16) ≠ 0) (hcalm.finished s.commandNext)
  have hrecord := @fileFresh_commands_self defaultRoutes modeFixed 0 false 0 s
    ⟨0, 65535, s.commandNext⟩
  have hother := @fileFresh_commands_of_ne defaultRoutes modeFixed 0 false 0 s
    ⟨0, 65535, s.commandNext⟩
  have hpolicy₁ := @fileFresh_setsPolicy defaultRoutes modeFixed 0 false 0 s
    ⟨0, 65535, s.commandNext⟩ setsPolicy_modeFixed
  have hnext₁ : (fileFresh defaultRoutes modeFixed 0 false 0 s
      ⟨0, 65535, s.commandNext⟩).nextId = 65535 := rfl
  have hslot₁ : (fileFresh defaultRoutes modeFixed 0 false 0 s
      ⟨0, 65535, s.commandNext⟩).commandNext = s.commandNext + 1 := rfl
  generalize fileFresh defaultRoutes modeFixed 0 false 0 s ⟨0, 65535, s.commandNext⟩ = s₁ at *
  dsimp only at hrecord hother hpolicy₁
  rw [hpolicy, Function.update_idem] at hpolicy₁
  have hone : bumpId s₁.nextId = 1 := by
    rw [hnext₁]
    decide
  -- the first request has replaced the policy command that held the id one
  have hfree₁ : reserved s₁ (bumpId s₁.nextId) = false := by
    rw [hone]
    apply unreserved_of_above
    · intro slot
      by_cases hslot : slot = s.commandNext
      · rw [hslot, hrecord]
        show (65535 : UInt16) ≠ 1
        decide
      · rw [hother hslot]
        exact (@ne_of_toNat_lt 1 _ (hids slot).1).symm
    · rw [hpolicy₁]
      decide
  have hidle₁ : (s₁.commands s₁.commandNext).busy = false := by
    have hne : s₁.commandNext ≠ s.commandNext := by
      rw [hslot₁]
      intro heq
      exact absurd (add_eq_left.mp heq) (by decide)
    rw [hother hne]
    exact hcalm.finished _
  have hsecond := @enqueueOne_next s₁ modeFixed 1 hfree₁ hidle₁
  rw [hone] at hsecond
  have hroom₁ := @available_fileFresh defaultRoutes modeFixed 0 false 0 s₁
    ⟨1, 1, s₁.commandNext⟩ (by decide : (1 : UInt16) ≠ 0) hidle₁
  refine ⟨s₁, _, hfirst, hsecond, by omega, s₁.commandNext, ?_⟩
  rw [@fileFresh_commands_self defaultRoutes modeFixed 0 false 0 s₁ ⟨1, 1, s₁.commandNext⟩]
  exact ⟨rfl, busy_newRecord (by decide : (1 : UInt16) ≠ 0)⟩

/-- Fixed mode for all intersections replaces the policy command one of the first
and gives its number to the second. -/
theorem policy_id_reused :
    ∃ s s', Reached defaultRoutes s ∧
      enqueueCommand defaultRoutes s modeFixed none 0 false 0 = some ⟨s', none⟩ ∧
      ∃ slot, s'.commands slot ≠ s.commands slot ∧ s.policyCommand 0 ≠ 0 ∧
        (s'.commands slot).id = s.policyCommand 0 := by
  obtain ⟨s, hreached, hcalm, hnext, hpolicy, hids⟩ := before_last_id
  obtain ⟨s₁, s₂, hfirst, hsecond, hroom, slot, hid, hbusy⟩ := first_two hcalm hnext hpolicy hids
  rw [available_calm hcalm] at hroom
  obtain ⟨s', fresh, hrest, -, hfiles⟩ := @files_of_room defaultRoutes modeFixed 0 false 0 s₂
    [2, 3, 4, 5] (by simp only [List.length_cons, List.length_nil]; omega)
  refine ⟨s, s', hreached, ?_, slot, ?_⟩
  · have htargets : expand modeFixed none = [0, 1, 2, 3, 4, 5] := by decide
    unfold enqueueCommand
    rw [admitted_calm hcalm, htargets]
    dsimp only
    rw [List.foldlM_cons, hfirst, Option.bind_eq_bind, Option.bind_some, List.foldlM_cons, hsecond,
      Option.bind_eq_bind, Option.bind_some, hrest]
    rfl
  · have hkept : s'.commands slot = s₂.commands slot := by
      apply hfiles.commands_other
      intro hmem
      obtain ⟨f, hf, hslot⟩ := List.mem_map.mp hmem
      have hidle := hfiles.slots.2 f hf
      rw [hslot, hbusy] at hidle
      cases hidle
    have hone : s.policyCommand 0 = 1 := by
      rw [hpolicy, Function.update_self]
    refine ⟨?_, by rw [hone]; decide, by rw [hkept, hid, hone]⟩
    intro hsame
    have hbig := (hids slot).1
    rw [← hsame, hkept, hid] at hbig
    exact absurd hbig (by decide)

end TrafficLight.AllOrNothing
