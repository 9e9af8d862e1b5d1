import TrafficLight.DailySchedule
import TrafficLight.Histories

namespace TrafficLight.OperatorPrecedence

open TrafficLight.Protocol
open TrafficLight.CentralMonitor
open TrafficLight.CommandQueue
open TrafficLight.OperatorRequests
open TrafficLight.SchedulePolicy
open TrafficLight.DailySchedule
open TrafficLight.Histories

/-- The intersections that a number names, if `valid_target` holds of it. -/
def targetOf (target : Nat) : Option (Option (Fin 6)) :=
  if h : target < numIntersections then some (some ⟨target, h⟩)
  else if target = intersectionAll.toNat then some none
  else none

/-- `central_policy_note_operator` for any arguments. -/
def centralPolicyNoteOperator (policy : OperatorPolicy) (target : Nat) (action mode : UInt8)
    (durationSec now : Nat) : Bool × OperatorPolicy :=
  match targetOf target with
  | none => (false, policy)
  | some target =>
      ((overrideEnd action mode durationSec now).isSome,
        noteOperator policy target action mode durationSec now)

/-- `central_policy_resume_schedule` for any target. -/
def centralPolicyResumeSchedule (policy : OperatorPolicy) (target : Nat) :
    Bool × OperatorPolicy :=
  match targetOf target with
  | none => (false, policy)
  | some target => (true, resumeSchedule policy target)

/-- `central_policy_operator_active` for any target. -/
def centralPolicyOperatorActive (policy : OperatorPolicy) (target now : Nat) : Bool :=
  if h : target < numIntersections then operatorActive policy ⟨target, h⟩ now else false

/-- `central_policy_desired_mode`: the mode and its priority. -/
def centralPolicyDesiredMode (policy : OperatorPolicy) (schedule : Option (List ScheduleEntry))
    (target minute now : Nat) : Option (UInt8 × UInt8) :=
  if h : target < numIntersections ∧ minute < minutesPerDay then
    if policy.temporaryUntilNs ⟨target, h.1⟩ > now then
      some (policy.temporaryMode ⟨target, h.1⟩, cmdPrioOperator)
    else if policy.persistentActive ⟨target, h.1⟩ then
      some (policy.persistentMode ⟨target, h.1⟩, cmdPrioOperator)
    else
      (schedule.bind fun schedule => centralScheduleMode schedule ⟨target, h.1⟩ minute).map
        fun selected => (selected, cmdPrioSchedule)
  else none

inductive PolicyCall
  | note (target : Nat) (action mode : UInt8) (durationSec now : Nat)
  | resume (target : Nat)

def policyCall (policy : OperatorPolicy) : PolicyCall → Bool × OperatorPolicy
  | .note target action mode durationSec now =>
      centralPolicyNoteOperator policy target action mode durationSec now
  | .resume target => centralPolicyResumeSchedule policy target

/-- A zeroed policy -/
def noPolicy : OperatorPolicy := ⟨fun _ => false, fun _ => 0, fun _ => 0, fun _ => 0⟩

def policyAfter (history : List PolicyCall) : OperatorPolicy :=
  history.foldl (fun policy call => (policyCall policy call).2) noPolicy

inductive Effect
  | set (mode : UInt8)
  | temporary (mode : UInt8) (expires : Nat)
  | revert
  | resume
  deriving DecidableEq

/-- A target names an intersection. -/
def Names (target : Nat) (i : Fin 6) : Prop := target = i.val ∨ target = intersectionAll.toNat

instance (target : Nat) (i : Fin 6) : Decidable (Names target i) :=
  inferInstanceAs (Decidable (_ ∨ _))

def ScheduledMode (mode : UInt8) : Prop :=
  mode = TrafficLightMode.fixed.toByte ∨ mode = TrafficLightMode.sensor.toByte

instance (mode : UInt8) : Decidable (ScheduledMode mode) := inferInstanceAs (Decidable (_ ∨ _))

/-- The effect of a valid call on an intersection that it names. -/
def effectOn (i : Fin 6) : PolicyCall → Option Effect
  | .note target action mode durationSec now =>
      if ¬ Names target i then none
      else if action = cmdSetMode ∧ ScheduledMode mode ∧ durationSec = 0 then some (.set mode)
      else if action = cmdTemporary ∧ ScheduledMode mode ∧ 1 ≤ durationSec ∧
          durationSec ≤ 65535 ∧ now + durationSec * centralNsec < 2 ^ 64 then
        some (.temporary mode (now + durationSec * centralNsec))
      else if action = cmdRevert ∧ durationSec = 0 then some .revert
      else none
  | .resume target => if Names target i then some .resume else none

/-- A call with valid arguments. -/
def Effective (call : PolicyCall) : Prop := ∃ i, effectOn i call ≠ none

/-- The last temporary mode of an intersection runs beyond `now`, and no other
request or release came after it. -/
def TemporaryHolds (history : List PolicyCall) (i : Fin 6) (now : Nat) (mode : UInt8) : Prop :=
  Since (fun call => ∃ expires, effectOn i call = some (.temporary mode expires) ∧ now < expires)
    (fun call => effectOn i call = none) history

/-- Some persistent mode of an intersection has not been released. -/
def SetHolds (history : List PolicyCall) (i : Fin 6) : Prop :=
  Since (fun call => ∃ mode, effectOn i call = some (.set mode))
    (fun call => effectOn i call ≠ some .resume) history

/-- The last persistent mode of an intersection. -/
def LastSet (history : List PolicyCall) (i : Fin 6) (mode : UInt8) : Prop :=
  Since (fun call => effectOn i call = some (.set mode))
    (fun call => ∀ mode, effectOn i call ≠ some (.set mode)) history

/-- The operator holds an intersection as long as a temporary mode runs or a persistent
one has not been released. -/
def OperatorHolds (history : List PolicyCall) (i : Fin 6) (now : Nat) : Prop :=
  (∃ mode, TemporaryHolds history i now mode) ∨ SetHolds history i

/-- The mode and the priority that the calls prescribe: a temporary mode that runs comes
before the last persistent one, and both come before the schedule. -/
inductive Prescribed (history : List PolicyCall) (schedule : Option (List ScheduleEntry))
    (i : Fin 6) (minute now : Nat) : UInt8 → UInt8 → Prop
  | temporary {mode : UInt8} (h : TemporaryHolds history i now mode) :
      Prescribed history schedule i minute now mode cmdPrioOperator
  | persistent {mode : UInt8} (hnone : ¬ ∃ mode, TemporaryHolds history i now mode)
      (hset : SetHolds history i) (hlast : LastSet history i mode) :
      Prescribed history schedule i minute now mode cmdPrioOperator
  | scheduled {mode : UInt8} (hfree : ¬ OperatorHolds history i now)
      (hmode : (schedule.bind fun schedule => centralScheduleMode schedule i minute) = some mode) :
      Prescribed history schedule i minute now mode cmdPrioSchedule

/-- The scalars of one intersection. -/
structure Hold where
  persistentActive : Bool
  persistentMode : UInt8
  temporaryMode : UInt8
  temporaryUntilNs : Nat

def holdOf (policy : OperatorPolicy) (i : Fin 6) : Hold :=
  ⟨policy.persistentActive i, policy.persistentMode i, policy.temporaryMode i,
    policy.temporaryUntilNs i⟩

def Hold.after (hold : Hold) : Option Effect → Hold
  | none => hold
  | some (.set mode) => ⟨true, mode, hold.temporaryMode, 0⟩
  | some (.temporary mode expires) => ⟨hold.persistentActive, hold.persistentMode, mode, expires⟩
  | some .revert => { hold with temporaryUntilNs := 0 }
  | some .resume => { hold with persistentActive := false, temporaryUntilNs := 0 }

theorem names_of_targetOf {target : Nat} {named : Option (Fin 6)}
    (h : targetOf target = some named) (i : Fin 6) :
    Names target i ↔ covers named i = true := by
  unfold targetOf at h
  unfold Names covers
  rw [decide_eq_true_iff]
  split at h
  · rename_i hlt
    obtain rfl := Option.some.inj h
    have hall : target ≠ intersectionAll.toNat := by
      rintro rfl
      exact absurd hlt (by decide)
    simp [hall, Fin.ext_iff]
  · rename_i hge
    split at h
    · rename_i hall
      obtain rfl := Option.some.inj h
      exact ⟨fun _ => .inl rfl, fun _ => .inr hall⟩
    · cases h

theorem not_names_of_targetOf {target : Nat} (h : targetOf target = none) (i : Fin 6) :
    ¬ Names target i := by
  unfold targetOf at h
  split at h
  · cases h
  · rename_i hge
    split at h
    · cases h
    · rename_i hall
      rintro (rfl | h')
      · exact hge i.isLt
      · exact hall h'

theorem exists_names {target : Nat} {named : Option (Fin 6)}
    (h : targetOf target = some named) : ∃ i, Names target i := by
  cases named with
  | none => exact ⟨0, (names_of_targetOf h 0).mpr (by decide)⟩
  | some i => exact ⟨i, (names_of_targetOf h i).mpr (by simp [covers])⟩

theorem not_scheduledMode_iff {mode : UInt8} :
    ¬ ScheduledMode mode ↔
      mode ≠ TrafficLightMode.fixed.toByte ∧ mode ≠ TrafficLightMode.sensor.toByte :=
  not_or

theorem overrideEnd_set (mode : UInt8) (durationSec now : Nat) :
    overrideEnd cmdSetMode mode durationSec now =
      if ScheduledMode mode ∧ durationSec = 0 then some 0 else none := by
  unfold overrideEnd
  rw [if_pos (.inl rfl), if_pos rfl]
  by_cases hmode : ScheduledMode mode
  · rw [if_neg fun h => not_scheduledMode_iff.mpr h hmode, ite_not]
    simp only [hmode, true_and]
  · rw [if_pos (not_scheduledMode_iff.mp hmode), if_neg fun h => hmode h.1]

theorem overrideEnd_temporary (mode : UInt8) (durationSec now : Nat) :
    overrideEnd cmdTemporary mode durationSec now =
      if ScheduledMode mode ∧ 1 ≤ durationSec ∧ durationSec ≤ 65535 ∧
          now + durationSec * centralNsec < 2 ^ 64 then
        some (now + durationSec * centralNsec)
      else none := by
  unfold overrideEnd
  rw [if_pos (.inr rfl)]
  by_cases hmode : ScheduledMode mode
  · have hrange : (durationSec = 0 ∨ durationSec > 65535 ∨
        now > uint64Max - durationSec * centralNsec) ↔
        ¬ (1 ≤ durationSec ∧ durationSec ≤ 65535 ∧
          now + durationSec * centralNsec < 2 ^ 64) := by
      unfold uint64Max centralNsec
      omega
    rw [if_neg fun h => not_scheduledMode_iff.mpr h hmode, if_neg (by decide)]
    simp only [hrange, ite_not, hmode, true_and]
  · rw [if_pos (not_scheduledMode_iff.mp hmode), if_neg fun h => hmode h.1]

theorem overrideEnd_other {action : UInt8} (hset : action ≠ cmdSetMode)
    (htemporary : action ≠ cmdTemporary) (mode : UInt8) (durationSec now : Nat) :
    overrideEnd action mode durationSec now =
      if action = cmdRevert ∧ durationSec = 0 then some 0 else none := by
  unfold overrideEnd
  rw [if_neg (not_or.mpr ⟨hset, htemporary⟩)]
  simp only [ne_eq, ← not_and_or, ite_not]

theorem effectOn_note {i : Fin 6} {target : Nat} (hnames : Names target i)
    (action mode : UInt8) (durationSec now : Nat) :
    effectOn i (.note target action mode durationSec now) =
      (overrideEnd action mode durationSec now).map fun expires =>
        if action = cmdSetMode then .set mode
        else if action = cmdTemporary then .temporary mode expires
        else .revert := by
  unfold effectOn
  dsimp only
  rw [if_neg (not_not.mpr hnames)]
  by_cases hset : action = cmdSetMode
  · rw [hset, overrideEnd_set]
    simp only [true_and, show cmdSetMode ≠ cmdTemporary by decide,
      show cmdSetMode ≠ cmdRevert by decide, false_and, if_false, if_true]
    split <;> rfl
  · by_cases htemporary : action = cmdTemporary
    · rw [htemporary, overrideEnd_temporary]
      simp only [true_and, show cmdTemporary ≠ cmdSetMode by decide,
        show cmdTemporary ≠ cmdRevert by decide, false_and, if_false, if_true]
      split <;> rfl
    · rw [overrideEnd_other hset htemporary]
      simp only [hset, htemporary, false_and, if_false]
      split <;> rfl

theorem noteOperator_hold (policy : OperatorPolicy) {named : Option (Fin 6)} {action : UInt8}
    {durationSec now expires : Nat} (mode : UInt8)
    (hend : overrideEnd action mode durationSec now = some expires) {i : Fin 6}
    (hcovers : covers named i = true) :
    holdOf (noteOperator policy named action mode durationSec now) i =
      (holdOf policy i).after (some
        (if action = cmdSetMode then .set mode
        else if action = cmdTemporary then .temporary mode expires
        else .revert)) := by
  unfold noteOperator holdOf
  rw [hend]
  simp only [hcovers, true_and, if_true]
  by_cases hset : action = cmdSetMode
  · subst hset
    rw [overrideEnd_set] at hend
    have hexpires : expires = 0 := by
      split at hend
      · exact (Option.some.inj hend).symm
      · cases hend
    simp only [hexpires, if_true, show cmdSetMode ≠ cmdTemporary by decide, if_false]
    rfl
  · by_cases htemporary : action = cmdTemporary
    · simp only [htemporary, show cmdTemporary ≠ cmdSetMode by decide, if_true, if_false]
      rfl
    · rw [overrideEnd_other hset htemporary] at hend
      have hexpires : expires = 0 := by
        split at hend
        · exact (Option.some.inj hend).symm
        · cases hend
      simp only [hexpires, hset, htemporary, if_false]
      rfl

theorem noteOperator_hold_other (policy : OperatorPolicy) {named : Option (Fin 6)} {i : Fin 6}
    (hcovers : covers named i = false) (action mode : UInt8) (durationSec now : Nat) :
    holdOf (noteOperator policy named action mode durationSec now) i = holdOf policy i := by
  unfold noteOperator holdOf
  cases overrideEnd action mode durationSec now with
  | none => rfl
  | some expires => simp only [hcovers, Bool.false_eq_true, false_and, if_false]

theorem holdOf_note (policy : OperatorPolicy) (target : Nat) (action mode : UInt8)
    (durationSec now : Nat) (i : Fin 6) :
    holdOf (centralPolicyNoteOperator policy target action mode durationSec now).2 i =
      (holdOf policy i).after (effectOn i (.note target action mode durationSec now)) := by
  unfold centralPolicyNoteOperator
  cases htarget : targetOf target with
  | none =>
      rw [show effectOn i (.note target action mode durationSec now) = none from
        if_pos (not_names_of_targetOf htarget i)]
      rfl
  | some named =>
      have hiff := names_of_targetOf htarget i
      dsimp only
      by_cases hnames : Names target i
      · rw [effectOn_note hnames]
        cases hend : overrideEnd action mode durationSec now with
        | none =>
            unfold noteOperator
            rw [hend]
            rfl
        | some expires => exact noteOperator_hold policy mode hend (hiff.mp hnames)
      · rw [show effectOn i (.note target action mode durationSec now) = none from
          if_pos hnames]
        exact noteOperator_hold_other policy
          (Bool.eq_false_iff.mpr fun hcovers => hnames (hiff.mpr hcovers)) _ _ _ _

theorem holdOf_resume (policy : OperatorPolicy) (target : Nat) (i : Fin 6) :
    holdOf (centralPolicyResumeSchedule policy target).2 i =
      (holdOf policy i).after (effectOn i (.resume target)) := by
  unfold centralPolicyResumeSchedule
  cases htarget : targetOf target with
  | none =>
      rw [show effectOn i (.resume target) = none from
        if_neg (not_names_of_targetOf htarget i)]
      rfl
  | some named =>
      have hiff := names_of_targetOf htarget i
      dsimp only
      by_cases hnames : Names target i
      · rw [show effectOn i (.resume target) = some .resume from if_pos hnames]
        simp only [resumeSchedule, holdOf, hiff.mp hnames, if_true, Hold.after]
      · have hcovers : covers named i = false :=
          Bool.eq_false_iff.mpr fun hcovers => hnames (hiff.mpr hcovers)
        rw [show effectOn i (.resume target) = none from if_neg hnames]
        simp only [resumeSchedule, holdOf, hcovers, Bool.false_eq_true, if_false, Hold.after]

theorem holdOf_policyCall (policy : OperatorPolicy) (call : PolicyCall) (i : Fin 6) :
    holdOf (policyCall policy call).2 i = (holdOf policy i).after (effectOn i call) := by
  cases call with
  | note target action mode durationSec now => exact holdOf_note policy target _ _ _ _ i
  | resume target => exact holdOf_resume policy target i

theorem effective_note {target : Nat} {named : Option (Fin 6)}
    (htarget : targetOf target = some named) (action mode : UInt8) (durationSec now : Nat) :
    Effective (.note target action mode durationSec now) ↔
      (overrideEnd action mode durationSec now).isSome = true := by
  constructor
  · rintro ⟨i, heffect⟩
    by_cases hnames : Names target i
    · rw [effectOn_note hnames, ne_eq, Option.map_eq_none_iff] at heffect
      exact Option.isSome_iff_ne_none.mpr heffect
    · exact absurd (if_pos hnames) heffect
  · intro hend
    obtain ⟨i, hnames⟩ := exists_names htarget
    refine ⟨i, ?_⟩
    rw [effectOn_note hnames, ne_eq, Option.map_eq_none_iff]
    exact Option.isSome_iff_ne_none.mp hend

theorem policyCall_refused_iff (policy : OperatorPolicy) (call : PolicyCall) :
    ((policyCall policy call).1 = true ↔ Effective call) ∧
      (¬ Effective call → (policyCall policy call).2 = policy) := by
  cases call with
  | note target action mode durationSec now =>
      unfold policyCall centralPolicyNoteOperator
      dsimp only
      cases htarget : targetOf target with
      | none =>
          refine ⟨⟨nofun, ?_⟩, fun _ => rfl⟩
          rintro ⟨i, heffect⟩
          exact absurd (if_pos (not_names_of_targetOf htarget i)) heffect
      | some named =>
          have heffective := effective_note htarget action mode durationSec now
          refine ⟨heffective.symm, fun hrefused => ?_⟩
          have hend : overrideEnd action mode durationSec now = none :=
            Option.not_isSome_iff_eq_none.mp fun hend => hrefused (heffective.mpr hend)
          show noteOperator policy named action mode durationSec now = policy
          unfold noteOperator
          rw [hend]
  | resume target =>
      unfold policyCall centralPolicyResumeSchedule
      dsimp only
      cases htarget : targetOf target with
      | none =>
          refine ⟨⟨nofun, ?_⟩, fun _ => rfl⟩
          rintro ⟨i, heffect⟩
          exact absurd (if_neg (not_names_of_targetOf htarget i)) heffect
      | some named =>
          obtain ⟨i, hnames⟩ := exists_names htarget
          have heffective : Effective (.resume target) := by
            refine ⟨i, ?_⟩
            rw [show effectOn i (.resume target) = some .resume from if_pos hnames]
            exact Option.some_ne_none _
          exact ⟨⟨fun _ => heffective, fun _ => rfl⟩, fun hrefused => absurd heffective hrefused⟩

theorem policyAfter_append (history : List PolicyCall) (call : PolicyCall) :
    policyAfter (history ++ [call]) = (policyCall (policyAfter history) call).2 := by
  unfold policyAfter
  rw [List.foldl_append]
  rfl

theorem holdOf_policyAfter_append (history : List PolicyCall) (call : PolicyCall) (i : Fin 6) :
    holdOf (policyAfter (history ++ [call])) i =
      (holdOf (policyAfter history) i).after (effectOn i call) := by
  rw [policyAfter_append, holdOf_policyCall]

theorem temporaryHolds_iff (history : List PolicyCall) (i : Fin 6) (now : Nat) (mode : UInt8) :
    TemporaryHolds history i now mode ↔
      now < (holdOf (policyAfter history) i).temporaryUntilNs ∧
        (holdOf (policyAfter history) i).temporaryMode = mode := by
  induction history using List.reverseRecOn with
  | nil => exact ⟨fun h => absurd h not_since_nil, fun h => absurd h.1 (Nat.not_lt_zero _)⟩
  | append_singleton history call ih =>
      unfold TemporaryHolds at ih ⊢
      rw [since_append_singleton, ih, holdOf_policyAfter_append]
      cases effectOn i call with
      | none => simp [Hold.after]
      | some effect => cases effect <;> simp [Hold.after, and_comm]

theorem setHolds_iff (history : List PolicyCall) (i : Fin 6) :
    SetHolds history i ↔ (holdOf (policyAfter history) i).persistentActive = true := by
  induction history using List.reverseRecOn with
  | nil => exact ⟨fun h => absurd h not_since_nil, fun h => absurd h Bool.false_ne_true⟩
  | append_singleton history call ih =>
      unfold SetHolds at ih ⊢
      rw [since_append_singleton, ih, holdOf_policyAfter_append]
      cases effectOn i call with
      | none => simp [Hold.after]
      | some effect => cases effect <;> simp [Hold.after]

theorem persistentMode_of_lastSet {history : List PolicyCall} {i : Fin 6} {mode : UInt8}
    (h : LastSet history i mode) :
    (holdOf (policyAfter history) i).persistentMode = mode := by
  induction history using List.reverseRecOn with
  | nil => exact absurd h not_since_nil
  | append_singleton history call ih =>
      unfold LastSet at ih h
      rw [since_append_singleton] at h
      rw [holdOf_policyAfter_append]
      rcases h with hset | ⟨hother, hlast⟩
      · rw [hset]
        rfl
      · rw [← ih hlast]
        cases heffect : effectOn i call with
        | none => rfl
        | some effect =>
            cases effect with
            | set mode => exact absurd heffect (hother mode)
            | temporary mode expires => rfl
            | revert => rfl
            | resume => rfl

theorem lastSet_iff {history : List PolicyCall} {i : Fin 6} (h : SetHolds history i)
    (mode : UInt8) :
    LastSet history i mode ↔ (holdOf (policyAfter history) i).persistentMode = mode := by
  refine ⟨persistentMode_of_lastSet, ?_⟩
  rintro rfl
  obtain ⟨call, hmem, hset⟩ := h.exists_mem
  obtain ⟨before, last, after, rfl, ⟨mode, hmode⟩, hafter⟩ := since_last
    (P := fun call => ∃ mode, effectOn i call = some (.set mode)) hmem hset
  have hlast : LastSet (before ++ last :: after) i mode :=
    ⟨before, last, after, rfl, hmode, fun later hlater mode hmode =>
      hafter later hlater ⟨mode, hmode⟩⟩
  rwa [persistentMode_of_lastSet hlast]

theorem exists_temporaryHolds_iff (history : List PolicyCall) (i : Fin 6) (now : Nat) :
    (∃ mode, TemporaryHolds history i now mode) ↔
      now < (holdOf (policyAfter history) i).temporaryUntilNs := by
  simp only [temporaryHolds_iff, exists_and_left, exists_eq', and_true]

theorem operatorActive_iff (history : List PolicyCall) (i : Fin 6) (now : Nat) :
    centralPolicyOperatorActive (policyAfter history) i now = true ↔
      OperatorHolds history i now := by
  have hactive : centralPolicyOperatorActive (policyAfter history) i now =
      operatorActive (policyAfter history) i now := dif_pos i.isLt
  rw [OperatorHolds, exists_temporaryHolds_iff, setHolds_iff, hactive, operatorActive,
    Bool.or_eq_true, decide_eq_true_iff, Or.comm]
  rfl

theorem desiredMode_eq (policy : OperatorPolicy) (schedule : Option (List ScheduleEntry))
    (i : Fin 6) {minute : Nat} (hminute : minute < minutesPerDay) (now : Nat) :
    centralPolicyDesiredMode policy schedule i minute now =
      if now < (holdOf policy i).temporaryUntilNs then
        some ((holdOf policy i).temporaryMode, cmdPrioOperator)
      else if (holdOf policy i).persistentActive = true then
        some ((holdOf policy i).persistentMode, cmdPrioOperator)
      else (schedule.bind fun schedule => centralScheduleMode schedule i minute).map
        fun selected => (selected, cmdPrioSchedule) :=
  dif_pos ⟨i.isLt, hminute⟩

theorem desiredMode_iff (history : List PolicyCall) (schedule : Option (List ScheduleEntry))
    (i : Fin 6) {minute : Nat} (hminute : minute < minutesPerDay) (now : Nat)
    (mode priority : UInt8) :
    centralPolicyDesiredMode (policyAfter history) schedule i minute now =
        some (mode, priority) ↔ Prescribed history schedule i minute now mode priority := by
  have htemporary := exists_temporaryHolds_iff history i now
  have hset := setHolds_iff history i
  rw [desiredMode_eq _ _ _ hminute]
  constructor
  · intro h
    split at h
    · rename_i hruns
      cases h
      exact .temporary ((temporaryHolds_iff _ _ _ _).mpr ⟨hruns, rfl⟩)
    · rename_i hnone
      split at h
      · rename_i hactive
        cases h
        exact .persistent (fun h => hnone (htemporary.mp h)) (hset.mpr hactive)
          ((lastSet_iff (hset.mpr hactive) _).mpr rfl)
      · rename_i hreleased
        obtain ⟨selected, hselected, hmode⟩ := Option.map_eq_some_iff.mp h
        cases hmode
        refine .scheduled (fun h => ?_) hselected
        rcases h with h | h
        · exact hnone (htemporary.mp h)
        · exact hreleased (hset.mp h)
  · intro h
    cases h with
    | temporary h =>
        obtain ⟨hruns, rfl⟩ := (temporaryHolds_iff _ _ _ _).mp h
        rw [if_pos hruns]
    | persistent hnone hstands hlast =>
        rw [if_neg fun h => hnone (htemporary.mpr h), if_pos (hset.mp hstands),
          (lastSet_iff hstands _).mp hlast]
    | scheduled hfree hmode =>
        rw [if_neg fun h => hfree (.inl (htemporary.mpr h)),
          if_neg fun h => hfree (.inr (hset.mpr h)), hmode]
        rfl

theorem prescribed_operator_iff {history : List PolicyCall}
    {schedule : Option (List ScheduleEntry)} {i : Fin 6} {minute now : Nat} :
    (∃ mode, Prescribed history schedule i minute now mode cmdPrioOperator) ↔
      OperatorHolds history i now := by
  constructor
  · rintro ⟨mode, h⟩
    cases h with
    | temporary h => exact .inl ⟨mode, h⟩
    | persistent hnone hstands hlast => exact .inr hstands
  · intro h
    by_cases hruns : ∃ mode, TemporaryHolds history i now mode
    · obtain ⟨mode, hruns⟩ := hruns
      exact ⟨mode, .temporary hruns⟩
    · have hstands : SetHolds history i := h.resolve_left hruns
      exact ⟨_, .persistent hruns hstands ((lastSet_iff hstands _).mpr rfl)⟩

/-- Whether the operator holds an intersection, and which mode and priority are wanted,
is what the calls so far prescribe; calls with other arguments are refused. -/
theorem documented_precedence :
    (∀ (history : List PolicyCall) (i : Fin 6) (now : Nat),
      (centralPolicyOperatorActive (policyAfter history) i now = true ↔
        OperatorHolds history i now) ∧
      ∀ (schedule : Option (List ScheduleEntry)) (minute : Nat), minute < minutesPerDay →
        ((∃ mode, centralPolicyDesiredMode (policyAfter history) schedule i minute now =
            some (mode, cmdPrioOperator)) ↔ OperatorHolds history i now) ∧
        ∀ mode priority,
          centralPolicyDesiredMode (policyAfter history) schedule i minute now =
              some (mode, priority) ↔ Prescribed history schedule i minute now mode priority) ∧
    (∀ policy call, ((policyCall policy call).1 = true ↔ Effective call) ∧
      (¬ Effective call → (policyCall policy call).2 = policy)) ∧
    (∀ policy schedule target minute now,
      ¬ (target < numIntersections ∧ minute < minutesPerDay) →
        centralPolicyDesiredMode policy schedule target minute now = none) ∧
    ∀ policy target now, ¬ target < numIntersections →
      centralPolicyOperatorActive policy target now = false := by
  refine ⟨fun history i now => ⟨operatorActive_iff history i now, ?_⟩, policyCall_refused_iff,
    fun policy schedule target minute now h => dif_neg h, fun policy target now h => dif_neg h⟩
  intro schedule minute hminute
  refine ⟨?_, desiredMode_iff history schedule i hminute now⟩
  simp only [desiredMode_iff history schedule i hminute now, prescribed_operator_iff]

/-- Sensor mode for all until released, and fixed mode for the first intersection for ten
seconds. -/
def exampleHistory : List PolicyCall :=
  [.note 255 cmdSetMode TrafficLightMode.sensor.toByte 0 0,
    .note 0 cmdTemporary TrafficLightMode.fixed.toByte 10 0]

theorem documented_precedence_example :
    (∃ mode, centralPolicyDesiredMode (policyAfter exampleHistory) none 0 0 5 =
      some (mode, cmdPrioOperator)) ∧
    (policyCall (policyAfter exampleHistory) (.resume 6)).2 = policyAfter exampleHistory ∧
    centralPolicyDesiredMode (policyAfter exampleHistory) none 6 0 5 = none ∧
    centralPolicyOperatorActive (policyAfter exampleHistory) 6 5 = false := by
  have hholds : OperatorHolds exampleHistory 0 5 :=
    (documented_precedence.1 exampleHistory 0 5).1.mp (by decide)
  have hrefused : ¬ Effective (.resume 6) := by
    rintro ⟨i, heffect⟩
    exact heffect (if_neg (by revert i; decide))
  exact ⟨((documented_precedence.1 exampleHistory 0 5).2 none 0 (by decide)).1.mpr hholds,
    (documented_precedence.2.1 _ (.resume 6)).2 hrefused,
    documented_precedence.2.2.1 _ none 6 0 5 (by decide),
    documented_precedence.2.2.2 _ 6 5 (by decide)⟩

end TrafficLight.OperatorPrecedence
