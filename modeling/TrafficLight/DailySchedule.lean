import Mathlib.Data.List.MinMax
import TrafficLight.SchedulePolicy

namespace TrafficLight.DailySchedule

open TrafficLight.Protocol
open TrafficLight.SchedulePolicy

/-- The test of `central_schedule_add` for two rows at one minute. -/
def overlaps (existing entry : ScheduleEntry) : Bool :=
  existing.minuteOfDay = entry.minuteOfDay ∧
    (existing.target = entry.target ∨ existing.target = intersectionAll.toNat ∨
      entry.target = intersectionAll.toNat)

/-- `central_schedule_add`, with no result where it returns 0. -/
def centralScheduleAdd (schedule : List ScheduleEntry) (entry : ScheduleEntry) :
    Option (List ScheduleEntry) :=
  if validEntry entry = false ∨ schedule.length ≥ centralScheduleMaxEntries then none
  else if schedule.any fun existing => overlaps existing entry then none
  else some (schedule ++ [entry])

/-- What any calls of `central_schedule_add` leave in an empty schedule. -/
def scheduleOf (calls : List ScheduleEntry) : List ScheduleEntry :=
  calls.foldl (fun schedule entry => (centralScheduleAdd schedule entry).getD schedule) []

/-- The return value of `central_schedule_mode` for any numbers, and what it leaves
in `*mode`. -/
def scheduleModeCall (schedule : List ScheduleEntry) (target minute : Nat) (mode : UInt8) :
    Bool × UInt8 :=
  if h : target < numIntersections then
    match centralScheduleMode schedule ⟨target, h⟩ minute with
    | some selected => (true, selected)
    | none => (false, mode)
  else (false, mode)

/-- A row is for a target, or for all of them. -/
def Applies (target : Nat) (entry : ScheduleEntry) : Prop :=
  target < numIntersections ∧
    (entry.target = target ∨ entry.target = intersectionAll.toNat)

instance (target : Nat) (entry : ScheduleEntry) : Decidable (Applies target entry) :=
  inferInstanceAs (Decidable (_ ∧ _))

def Applicable (schedule : List ScheduleEntry) (target : Nat) (entry : ScheduleEntry) : Prop :=
  entry ∈ schedule ∧ Applies target entry

def LatestOf (rows : ScheduleEntry → Prop) (entry : ScheduleEntry) : Prop :=
  rows entry ∧ ∀ other, rows other → other.minuteOfDay ≤ entry.minuteOfDay

/-- The latest row not after the minute, or the latest of the day where all rows
are after it. -/
def InForce (schedule : List ScheduleEntry) (target minute : Nat) (entry : ScheduleEntry) : Prop :=
  LatestOf (fun row => Applicable schedule target row ∧ row.minuteOfDay ≤ minute) entry ∨
    (∀ row, Applicable schedule target row → minute < row.minuteOfDay) ∧
      LatestOf (Applicable schedule target) entry

/-- Every row of the list is accepted in its turn. -/
def Accepted (entries : List ScheduleEntry) : Prop :=
  entries.foldlM centralScheduleAdd [] = some entries

/-- No two rows at one minute are for the same target. -/
structure Consistent (schedule : List ScheduleEntry) : Prop where
  valid : ∀ entry ∈ schedule, validEntry entry = true
  size : schedule.length ≤ centralScheduleMaxEntries
  apart : schedule.Pairwise fun existing entry => overlaps existing entry = false

theorem overlaps_comm (existing entry : ScheduleEntry) :
    overlaps existing entry = overlaps entry existing := by
  unfold overlaps
  apply decide_eq_decide.mpr
  constructor
  · rintro ⟨hminute, htarget | hall | hall⟩
    · exact ⟨hminute.symm, .inl htarget.symm⟩
    · exact ⟨hminute.symm, .inr (.inr hall)⟩
    · exact ⟨hminute.symm, .inr (.inl hall)⟩
  · rintro ⟨hminute, htarget | hall | hall⟩
    · exact ⟨hminute.symm, .inl htarget.symm⟩
    · exact ⟨hminute.symm, .inr (.inr hall)⟩
    · exact ⟨hminute.symm, .inr (.inl hall)⟩

theorem consistent_nil : Consistent [] :=
  ⟨fun _ hmem => absurd hmem List.not_mem_nil, Nat.zero_le _, .nil⟩

theorem Consistent.sublist {schedule rows : List ScheduleEntry} (h : Consistent schedule)
    (hrows : rows.Sublist schedule) : Consistent rows :=
  ⟨fun entry hmem => h.valid entry (hrows.subset hmem), hrows.length_le.trans h.size,
    h.apart.sublist hrows⟩

theorem Consistent.perm {schedule rows : List ScheduleEntry} (h : Consistent schedule)
    (hrows : rows.Perm schedule) : Consistent rows where
  valid entry hmem := h.valid entry (hrows.subset hmem)
  size := hrows.length_eq ▸ h.size
  apart := (List.Perm.pairwise_iff (fun hapart => overlaps_comm _ _ ▸ hapart) hrows).mpr h.apart

theorem centralScheduleAdd_eq_some_iff {schedule schedule' : List ScheduleEntry}
    {entry : ScheduleEntry} (h : Consistent schedule) :
    centralScheduleAdd schedule entry = some schedule' ↔
      schedule' = schedule ++ [entry] ∧ Consistent (schedule ++ [entry]) := by
  have hconsistent : Consistent (schedule ++ [entry]) ↔
      ¬ (validEntry entry = false ∨ schedule.length ≥ centralScheduleMaxEntries) ∧
        ¬ (schedule.any fun existing => overlaps existing entry) = true := by
    rw [not_or, Bool.not_eq_false, Nat.not_le, List.any_eq_true]
    constructor
    · intro h'
      have hsize := h'.size
      rw [List.length_append, List.length_singleton] at hsize
      refine ⟨⟨h'.valid entry (by simp), hsize⟩, ?_⟩
      rintro ⟨existing, hmem, hoverlaps⟩
      have hapart := (List.pairwise_append.mp h'.apart).2.2 existing hmem entry (by simp)
      exact absurd hoverlaps (by simp [hapart])
    · rintro ⟨⟨hvalid, hsize⟩, hapart⟩
      refine ⟨?_, by simpa using Nat.succ_le_of_lt hsize, ?_⟩
      · intro existing hmem
        rcases List.mem_append.mp hmem with hmem | hmem
        · exact h.valid existing hmem
        · rwa [List.mem_singleton.mp hmem]
      · refine List.pairwise_append.mpr ⟨h.apart, List.pairwise_singleton _ _, ?_⟩
        intro existing hmem other hother
        rw [List.mem_singleton.mp hother]
        exact Bool.eq_false_iff.mpr fun hoverlaps => hapart ⟨existing, hmem, hoverlaps⟩
  rw [hconsistent]
  unfold centralScheduleAdd
  split
  · rename_i hrefused
    exact ⟨nofun, fun h' => absurd hrefused h'.2.1⟩
  · rename_i hroom
    split
    · rename_i hconflict
      exact ⟨nofun, fun h' => absurd hconflict h'.2.2⟩
    · rename_i hapart
      constructor
      · rintro ⟨⟩
        exact ⟨rfl, hroom, hapart⟩
      · rintro ⟨rfl, _⟩
        rfl

theorem foldlM_centralScheduleAdd_iff {schedule' entries schedule : List ScheduleEntry}
    (h : Consistent schedule) :
    entries.foldlM centralScheduleAdd schedule = some schedule' ↔
      schedule' = schedule ++ entries ∧ Consistent (schedule ++ entries) := by
  induction entries generalizing schedule with
  | nil =>
      rw [List.append_nil]
      constructor
      · rintro ⟨⟩
        exact ⟨rfl, h⟩
      · rintro ⟨rfl, _⟩
        rfl
  | cons entry entries ih =>
      have happend : schedule ++ entry :: entries = schedule ++ [entry] ++ entries := by simp
      rw [List.foldlM_cons, happend]
      cases hadd : centralScheduleAdd schedule entry with
      | none =>
          refine ⟨nofun, fun h' => ?_⟩
          have hrow := h'.2.sublist (List.sublist_append_left (schedule ++ [entry]) entries)
          rw [(centralScheduleAdd_eq_some_iff h).mpr ⟨rfl, hrow⟩] at hadd
          cases hadd
      | some next =>
          obtain ⟨rfl, hrow⟩ := (centralScheduleAdd_eq_some_iff h).mp hadd
          exact ih hrow

theorem accepted_iff (entries : List ScheduleEntry) : Accepted entries ↔ Consistent entries := by
  rw [Accepted, foldlM_centralScheduleAdd_iff consistent_nil]
  exact ⟨fun h => h.2, fun h => ⟨rfl, h⟩⟩

theorem consistent_scheduleOf (calls : List ScheduleEntry) : Consistent (scheduleOf calls) := by
  unfold scheduleOf
  apply List.foldlRecOn calls _ consistent_nil
  intro schedule h entry _
  cases hadd : centralScheduleAdd schedule entry with
  | none => exact h
  | some schedule' =>
      obtain ⟨rfl, h'⟩ := (centralScheduleAdd_eq_some_iff h).mp hadd
      exact h'

/-- Minutes since a row came up, on this day or the day before. -/
def elapsed (minute : Nat) (entry : ScheduleEntry) : Nat :=
  (minute + minutesPerDay - entry.minuteOfDay) % minutesPerDay

variable {schedule : List ScheduleEntry} {minute : Nat}

theorem minuteOfDay_lt {entry : ScheduleEntry} (h : validEntry entry = true) :
    entry.minuteOfDay < minutesPerDay :=
  (of_decide_eq_true h).1

theorem elapsed_lt (entry : ScheduleEntry) : elapsed minute entry < minutesPerDay :=
  Nat.mod_lt _ (by decide)

theorem elapsed_eq {entry : ScheduleEntry} (hminute : minute < minutesPerDay)
    (hentry : entry.minuteOfDay < minutesPerDay) :
    elapsed minute entry =
      if entry.minuteOfDay ≤ minute then minute - entry.minuteOfDay
      else minute + minutesPerDay - entry.minuteOfDay := by
  unfold elapsed
  split
  · rw [Nat.sub_add_comm ‹_›, Nat.add_mod_right, Nat.mod_eq_of_lt (by omega)]
  · exact Nat.mod_eq_of_lt (by omega)

theorem foldl_nearerEntry (i : Fin 6) (schedule : List ScheduleEntry) :
    schedule.foldl (nearerEntry i minute) (minutesPerDay, 0) =
      (((schedule.filter (Applies i ·)).argmin (elapsed minute)).map fun entry =>
        (elapsed minute entry, entry.mode)).getD (minutesPerDay, 0) := by
  induction schedule using List.reverseRecOn with
  | nil => rfl
  | append_singleton schedule entry ih =>
      rw [List.foldl_append, List.foldl_cons, List.foldl_nil, ih, List.filter_append,
        List.filter_singleton]
      unfold nearerEntry
      by_cases happlies : Applies i entry
      · have hskip : ¬ (entry.target ≠ intersectionAll.toNat ∧ entry.target ≠ i.val) := by
          rintro ⟨hall, htarget⟩
          exact happlies.2.elim htarget hall
        rw [if_neg hskip, decide_eq_true happlies, cond_true, List.argmin_concat]
        cases (schedule.filter (Applies i ·)).argmin (elapsed minute) with
        | none => exact if_pos (elapsed_lt entry)
        | some best =>
            dsimp only [Option.map_some, Option.getD_some]
            rw [apply_ite (Option.map _), apply_ite (Option.getD · _)]
            rfl
      · have hskip : entry.target ≠ intersectionAll.toNat ∧ entry.target ≠ i.val :=
          ⟨fun hall => happlies ⟨i.isLt, .inr hall⟩,
            fun htarget => happlies ⟨i.isLt, .inl htarget⟩⟩
        rw [if_pos hskip, decide_eq_false happlies, cond_false, List.append_nil]

theorem centralScheduleMode_eq (h : Consistent schedule) (i : Fin 6)
    (hminute : minute < minutesPerDay) :
    centralScheduleMode schedule i minute =
      ((schedule.filter (Applies i ·)).argmin (elapsed minute)).map ScheduleEntry.mode := by
  have hopen : ¬ (minute ≥ minutesPerDay ∨ schedule.length > centralScheduleMaxEntries) :=
    not_or.mpr ⟨Nat.not_le.mpr hminute, Nat.not_lt.mpr h.size⟩
  unfold centralScheduleMode
  rw [if_neg hopen, if_pos (List.all_eq_true.mpr h.valid), foldl_nearerEntry]
  cases (schedule.filter (Applies i ·)).argmin (elapsed minute) with
  | none => exact if_pos rfl
  | some best => exact if_neg (Nat.ne_of_lt (elapsed_lt best))

theorem InForce.applicable {target : Nat} {entry : ScheduleEntry}
    (h : InForce schedule target minute entry) : Applicable schedule target entry := by
  rcases h with ⟨⟨h, _⟩, _⟩ | ⟨_, h, _⟩
  · exact h
  · exact h

theorem mem_filter_applies {target : Nat} {entry : ScheduleEntry} :
    entry ∈ schedule.filter (Applies target ·) ↔ Applicable schedule target entry := by
  rw [List.mem_filter, decide_eq_true_iff, Applicable]

theorem inForce_of_argmin (h : Consistent schedule) {target : Nat}
    (hminute : minute < minutesPerDay) {entry : ScheduleEntry}
    (hentry : (schedule.filter (Applies target ·)).argmin (elapsed minute) = some entry) :
    InForce schedule target minute entry := by
  have happlicable := mem_filter_applies.mp (List.argmin_mem hentry)
  have hentry' := minuteOfDay_lt (h.valid entry happlicable.1)
  have hnearest : ∀ row, Applicable schedule target row → row.minuteOfDay < minutesPerDay ∧
      elapsed minute entry ≤ elapsed minute row := fun row hrow =>
    ⟨minuteOfDay_lt (h.valid row hrow.1),
      List.le_of_mem_argmin (mem_filter_applies.mpr hrow) hentry⟩
  by_cases hle : entry.minuteOfDay ≤ minute
  · refine .inl ⟨⟨happlicable, hle⟩, ?_⟩
    rintro row ⟨hrow, hle'⟩
    obtain ⟨hlt, hnearest⟩ := hnearest row hrow
    rw [elapsed_eq hminute hentry', if_pos hle, elapsed_eq hminute hlt, if_pos hle'] at hnearest
    omega
  · have hafter : ∀ row, Applicable schedule target row →
        minute < row.minuteOfDay ∧ row.minuteOfDay ≤ entry.minuteOfDay := by
      intro row hrow
      obtain ⟨hlt, hnearest⟩ := hnearest row hrow
      rw [elapsed_eq hminute hentry', if_neg hle, elapsed_eq hminute hlt] at hnearest
      split at hnearest <;> omega
    exact .inr ⟨fun row hrow => (hafter row hrow).1, happlicable,
      fun row hrow => (hafter row hrow).2⟩

theorem InForce.unique (h : Consistent schedule) {target : Nat} {entry entry' : ScheduleEntry}
    (hentry : InForce schedule target minute entry)
    (hentry' : InForce schedule target minute entry') : entry = entry' := by
  have happlicable := hentry.applicable
  have happlicable' := hentry'.applicable
  have hminutes : entry.minuteOfDay = entry'.minuteOfDay := by
    rcases hentry with ⟨hrow, hlatest⟩ | ⟨hafter, _, hlatest⟩
    · rcases hentry' with ⟨hrow', hlatest'⟩ | ⟨hafter', _⟩
      · exact Nat.le_antisymm (hlatest' entry hrow) (hlatest entry' hrow')
      · exact absurd hrow.2 (Nat.not_le.mpr (hafter' entry happlicable))
    · rcases hentry' with ⟨hrow', _⟩ | ⟨_, _, hlatest'⟩
      · exact absurd hrow'.2 (Nat.not_le.mpr (hafter entry' happlicable'))
      · exact Nat.le_antisymm (hlatest' entry happlicable) (hlatest entry' happlicable')
  by_contra hne
  have : Std.Symm fun existing entry => overlaps existing entry = false :=
    ⟨fun _ _ hapart => overlaps_comm _ _ ▸ hapart⟩
  have hapart := h.apart.forall happlicable.1 happlicable'.1 hne
  refine of_decide_eq_false hapart ⟨hminutes, ?_⟩
  rcases happlicable.2.2, happlicable'.2.2 with ⟨htarget | hall, htarget' | hall'⟩
  · exact .inl (htarget.trans htarget'.symm)
  · exact .inr (.inr hall')
  · exact .inr (.inl hall)
  · exact .inr (.inl hall)

theorem inForce_perm {rows : List ScheduleEntry} {target : Nat} {entry : ScheduleEntry}
    (hrows : rows.Perm schedule) :
    InForce rows target minute entry ↔ InForce schedule target minute entry := by
  have happlicable : Applicable rows target = Applicable schedule target := by
    funext row
    rw [Applicable, Applicable, hrows.mem_iff]
  rw [InForce, InForce, happlicable]

theorem scheduleModeCall_true_iff (h : Consistent schedule) {target : Nat} {mode selected : UInt8}
    (hminute : minute < minutesPerDay) :
    scheduleModeCall schedule target minute mode = (true, selected) ↔
      ∃ entry, InForce schedule target minute entry ∧ entry.mode = selected := by
  unfold scheduleModeCall
  split
  · rename_i htarget
    rw [centralScheduleMode_eq h ⟨target, htarget⟩ hminute]
    cases hbest : (schedule.filter (Applies target ·)).argmin (elapsed minute) with
    | none =>
        rw [List.argmin_eq_none] at hbest
        refine ⟨nofun, ?_⟩
        rintro ⟨entry, hentry, _⟩
        have hmem := mem_filter_applies.mpr hentry.applicable
        rw [hbest] at hmem
        exact absurd hmem List.not_mem_nil
    | some best =>
        have hforce := inForce_of_argmin h hminute hbest
        constructor
        · rintro ⟨⟩
          exact ⟨best, hforce, rfl⟩
        · rintro ⟨entry, hentry, rfl⟩
          rw [hforce.unique h hentry]
          rfl
  · rename_i htarget
    refine ⟨nofun, ?_⟩
    rintro ⟨entry, hentry, _⟩
    exact absurd hentry.applicable.2.1 htarget

theorem scheduleModeCall_false_iff (h : Consistent schedule) {target : Nat} {mode left : UInt8}
    (hminute : minute < minutesPerDay) :
    scheduleModeCall schedule target minute mode = (false, left) ↔
      left = mode ∧ ∀ entry ∈ schedule, ¬ Applies target entry := by
  unfold scheduleModeCall
  split
  · rename_i htarget
    rw [centralScheduleMode_eq h ⟨target, htarget⟩ hminute]
    cases hbest : (schedule.filter (Applies target ·)).argmin (elapsed minute) with
    | none =>
        rw [List.argmin_eq_none] at hbest
        constructor
        · rintro ⟨⟩
          refine ⟨rfl, fun entry hmem happlies => ?_⟩
          have hrow := mem_filter_applies.mpr ⟨hmem, happlies⟩
          rw [hbest] at hrow
          exact absurd hrow List.not_mem_nil
        · rintro ⟨rfl, _⟩
          rfl
    | some best =>
        refine ⟨nofun, ?_⟩
        rintro ⟨_, hnone⟩
        obtain ⟨hmem, happlies⟩ := mem_filter_applies.mp (List.argmin_mem hbest)
        exact absurd happlies (hnone best hmem)
  · rename_i htarget
    constructor
    · rintro ⟨⟩
      exact ⟨rfl, fun _ _ happlies => absurd happlies.1 htarget⟩
    · rintro ⟨rfl, _⟩
      rfl

theorem scheduleModeCall_perm (h : Consistent schedule) {rows : List ScheduleEntry}
    (hrows : rows.Perm schedule) (target minute : Nat) (mode : UInt8) :
    scheduleModeCall rows target minute mode = scheduleModeCall schedule target minute mode := by
  by_cases hminute : minute < minutesPerDay
  · rcases hanswer : scheduleModeCall schedule target minute mode with ⟨found, result⟩
    cases found with
    | true =>
        obtain ⟨entry, hentry, hmode⟩ := (scheduleModeCall_true_iff h hminute).mp hanswer
        exact (scheduleModeCall_true_iff (h.perm hrows) hminute).mpr
          ⟨entry, (inForce_perm hrows).mpr hentry, hmode⟩
    | false =>
        obtain ⟨hleft, hnone⟩ := (scheduleModeCall_false_iff h hminute).mp hanswer
        exact (scheduleModeCall_false_iff (h.perm hrows) hminute).mpr
          ⟨hleft, fun entry hmem => hnone entry (hrows.subset hmem)⟩
  · have hclosed : ∀ (rows : List ScheduleEntry) (i : Fin 6),
        centralScheduleMode rows i minute = none := fun rows i =>
      if_pos (.inl (Nat.not_lt.mp hminute))
    unfold scheduleModeCall
    simp only [hclosed]

/-- At every minute the mode is that of the latest row for the target, or there is no
row for it; and the order in which accepted rows were added makes no difference. -/
theorem latest_row_in_any_order :
    (∀ (calls : List ScheduleEntry) (target minute : Nat) (mode result : UInt8),
      minute < minutesPerDay →
        (scheduleModeCall (scheduleOf calls) target minute mode = (true, result) ↔
          ∃ entry, InForce (scheduleOf calls) target minute entry ∧ entry.mode = result) ∧
        (scheduleModeCall (scheduleOf calls) target minute mode = (false, result) ↔
          result = mode ∧ ∀ entry ∈ scheduleOf calls, ¬ Applies target entry)) ∧
    ∀ entries rows : List ScheduleEntry, Accepted entries → rows.Perm entries →
      Accepted rows ∧ ∀ (target minute : Nat) (mode : UInt8),
        scheduleModeCall rows target minute mode =
          scheduleModeCall entries target minute mode := by
  constructor
  · intro calls target minute mode result hminute
    have h := consistent_scheduleOf calls
    exact ⟨scheduleModeCall_true_iff h hminute, scheduleModeCall_false_iff h hminute⟩
  · intro entries rows haccepted hrows
    have h := (accepted_iff entries).mp haccepted
    exact ⟨(accepted_iff rows).mpr (h.perm hrows), scheduleModeCall_perm h hrows⟩

/-- The rows `07:00 fixed all` and `22:00 sensor I1`. -/
def exampleRows : List ScheduleEntry :=
  [⟨420, 255, TrafficLightMode.fixed.toByte⟩, ⟨1320, 0, TrafficLightMode.sensor.toByte⟩]

theorem latest_row_in_any_order_example :
    (∃ entry, InForce (scheduleOf exampleRows) 0 0 entry ∧
      entry.mode = TrafficLightMode.sensor.toByte) ∧
    Accepted exampleRows.reverse := by
  have hmode : scheduleModeCall (scheduleOf exampleRows) 0 0 7 =
      (true, TrafficLightMode.sensor.toByte) := by decide
  exact ⟨((latest_row_in_any_order.1 exampleRows 0 0 7 _ (by decide)).1).mp hmode,
    (latest_row_in_any_order.2 exampleRows _ rfl (List.reverse_perm _)).1⟩

end TrafficLight.DailySchedule
