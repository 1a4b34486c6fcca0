import Mathlib.Tactic.FinCases
import ElvishMail.Httpserver.DeletionSweep

/-!
# Inactivity windows

A user says after how many days, weeks or months without activity the account is deleted.
The number is any positive `int`. The end of the window is computed in machine integers, so
a window that ends beyond the times that a `Time` can hold ends long before it began, and
the account is due at once. Every other window ends where it should.
-/

namespace ElvishMail.Httpserver

open Go Smtp Mailmeta Mailstore Mailops Semantics Deletion

def windowEnd (number : Int) (unit : GoString) (value : Nat) : Int :=
  if unit = ascii "months" then addDate number 0 value 0
  else addDate number 0 0 (if unit = ascii "weeks" then (7 * value : Nat) else value)

/-- The end of a window is a time that a `Time` can hold. -/
def WindowFits (number : Int) (unit : GoString) (value : Nat) : Prop :=
  daySeconds (windowEnd number unit value) < 2 ^ 63

instance (number : Int) (unit : GoString) (value : Nat) : Decidable (WindowFits number unit value) :=
  inferInstanceAs (Decidable (_ < _))

/-- All windows of this length or less, in this unit, end after the day of the last activity,
and none of them before a shorter one. -/
def WindowsSound (lib : Library) (lastActivity : Time) (unit : GoString) (value : Int) : Prop :=
  ∀ shorter longer, 0 < shorter → shorter ≤ longer → longer ≤ value → ∃ first later,
    inactivityDeleteDeadline lib lastActivity shorter unit = some first ∧
      inactivityDeleteDeadline lib lastActivity longer unit = some later ∧
      activityDay lastActivity < activityDay first ∧ first ≤ later

section Windows

variable {lib : Library} {number : Int} {unit : GoString} {value : Nat}

theorem windowEnd_zero (number : Int) (unit : GoString) : windowEnd number unit 0 = number := by
  have same := addDate_days number 0
  unfold windowEnd
  split
  · exact same.trans (Int.add_zero number)
  · split <;> exact same.trans (Int.add_zero number)

theorem windowEnd_succ (number : Int) (unit : GoString) (value : Nat) :
    windowEnd number unit value < windowEnd number unit (value + 1) ∧
      windowEnd number unit (value + 1) ≤ windowEnd number unit value + 31 := by
  unfold windowEnd
  split
  · have later := dayNumber_succ (civilDate number).year ((civilDate number).month + value)
      (civilDate number).day
    have soon := dayNumber_succ_le (civilDate number).year ((civilDate number).month + value)
      (civilDate number).day
    unfold addDate
    dsimp only
    rw [Int.add_zero, Int.add_zero, Int.natCast_succ, ← Int.add_assoc]
    omega
  · rw [addDate_days, addDate_days]
    split <;> omega

theorem windowEnd_mono (number : Int) (unit : GoString) {shorter longer : Nat}
    (less : shorter ≤ longer) : windowEnd number unit shorter ≤ windowEnd number unit longer := by
  induction less with
  | refl => exact Int.le_refl _
  | step _ ih =>
    exact ih.trans (Int.le_of_lt (windowEnd_succ number unit _).1)

theorem windowEnd_later (number : Int) (unit : GoString) (positive : 0 < value) :
    number < windowEnd number unit value := by
  have first := (windowEnd_succ number unit 0).1
  rw [windowEnd_zero] at first
  exact Int.lt_of_lt_of_le first (windowEnd_mono number unit positive)

theorem unit_cases {text name : GoString} (accepted : normalizeInactivityDeleteUnit lib text = .ok name)
    (set : name ≠ []) : name = ascii "days" ∨ name = ascii "weeks" ∨ name = ascii "months" := by
  unfold normalizeInactivityDeleteUnit at accepted
  dsimp only at accepted
  split at accepted
  next known =>
    cases accepted
    simpa [set] using known
  next => cases accepted

theorem deadline_eq {lastActivity : Time}
    (named : unit = ascii "days" ∨ unit = ascii "weeks" ∨ unit = ascii "months")
    (day : IsDay (activityDay lastActivity)) (positive : 0 < value)
    (below : daySeconds (windowEnd (activityDay lastActivity) unit value) < 2 ^ 64) :
    inactivityDeleteDeadline lib lastActivity value unit =
      some ((int64 (daySeconds (windowEnd (activityDay lastActivity) unit value)) - unixToInternal) *
        second) := by
  have read : toLower lib (trimSpace unit) = unit := by
    rcases named with rfl | rfl | rfl <;> rfl
  have weeks : ascii "weeks" ≠ ascii "days" := by decide
  have months : ascii "months" ≠ ascii "days" ∧ ascii "months" ≠ ascii "weeks" := by decide
  unfold inactivityDeleteDeadline
  dsimp only
  rw [if_neg (by omega), read]
  unfold windowEnd at below ⊢
  rcases named with rfl | rfl | rfl
  · rw [if_neg months.1.symm, if_neg weeks.symm] at below
    rw [if_pos rfl, if_neg months.1.symm, if_neg weeks.symm, deadlineAfter]
    exact congrArg (fun seconds => some ((seconds - unixToInternal) * second))
      (@addDateSeconds_eq _ 0 _ day below)
  · rw [if_neg months.2.symm, if_pos rfl] at below
    have small : int64 ((value : Int) * 7) = (7 * value : Nat) := by
      have close := below
      rw [addDate_days] at close
      unfold IsDay absoluteToInternal at day
      unfold daySeconds at close day
      rw [int64_eq (by unfold IsInt64; omega)]
      omega
    rw [if_neg weeks, if_pos rfl, if_neg months.2.symm, if_pos rfl, small, deadlineAfter]
    exact congrArg (fun seconds => some ((seconds - unixToInternal) * second))
      (@addDateSeconds_eq _ 0 _ day below)
  · rw [if_pos rfl] at below
    rw [if_neg months.1, if_neg months.2, if_pos rfl, if_pos rfl, deadlineAfter]
    exact congrArg (fun seconds => some ((seconds - unixToInternal) * second))
      (@addDateSeconds_eq _ _ 0 day below)

theorem deadline_exact {lastActivity : Time}
    (named : unit = ascii "days" ∨ unit = ascii "weeks" ∨ unit = ascii "months")
    (day : IsDay (activityDay lastActivity)) (positive : 0 < value)
    (fits : WindowFits (activityDay lastActivity) unit value) :
    inactivityDeleteDeadline lib lastActivity value unit =
      some (windowEnd (activityDay lastActivity) unit value * Mailops.day) := by
  have later := windowEnd_later (activityDay lastActivity) unit positive
  unfold WindowFits at fits
  rw [deadline_eq named day positive (by omega)]
  unfold IsDay absoluteToInternal at day
  rw [int64_eq (by unfold IsInt64; unfold daySeconds at day fits ⊢; omega)]
  unfold daySeconds Mailops.day
  congr 1
  rw [Int.add_sub_cancel, Int.mul_assoc]

theorem activityDay_day (number : Int) : activityDay (number * Mailops.day) = number :=
  Int.mul_ediv_cancel _ (by decide)

theorem deadline_early {lastActivity : Time}
    (named : unit = ascii "days" ∨ unit = ascii "weeks" ∨ unit = ascii "months")
    (day : IsDay (activityDay lastActivity))
    (before : WindowFits (activityDay lastActivity) unit value)
    (beyond : ¬WindowFits (activityDay lastActivity) unit (value + 1)) :
    ∃ deadline, inactivityDeleteDeadline lib lastActivity (value + 1 : Nat) unit = some deadline ∧
      activityDay deadline < activityDay lastActivity := by
  have next := windowEnd_succ (activityDay lastActivity) unit value
  unfold WindowFits at before beyond
  unfold daySeconds unixToInternal at before beyond
  have below : daySeconds (windowEnd (activityDay lastActivity) unit (value + 1)) < 2 ^ 64 := by
    unfold daySeconds unixToInternal
    omega
  refine ⟨_, deadline_eq named day (Nat.succ_pos value) below, ?_⟩
  rw [int64_over (by unfold daySeconds unixToInternal; omega) (by omega)]
  unfold IsDay daySeconds absoluteToInternal unixToInternal at day
  unfold activityDay daySeconds unixToInternal Mailops.day second at *
  omega

theorem windows_sound_iff {lastActivity : Time}
    (named : unit = ascii "days" ∨ unit = ascii "weeks" ∨ unit = ascii "months")
    (day : IsDay (activityDay lastActivity)) :
    WindowsSound lib lastActivity unit value ↔ WindowFits (activityDay lastActivity) unit value := by
  constructor
  · intro sound
    by_contra beyond
    -- the shortest window that does not fit
    have some : ∃ length, ¬WindowFits (activityDay lastActivity) unit length := ⟨value, beyond⟩
    classical
    obtain ⟨length, same⟩ : ∃ length, Nat.find some = length + 1 := by
      refine Nat.exists_eq_succ_of_ne_zero fun none => ?_
      have unfit := Nat.find_spec some
      rw [none, WindowFits, windowEnd_zero] at unfit
      exact unfit day.2
    have unfit := Nat.find_spec some
    have shortest : WindowFits (activityDay lastActivity) unit length := by
      by_contra other
      have least := Nat.find_min' some other
      omega
    have within : length + 1 ≤ value := same ▸ Nat.find_min' some beyond
    rw [same] at unfit
    obtain ⟨deadline, set, early⟩ := @deadline_early lib _ _ _ named day shortest unfit
    obtain ⟨first, later, setFirst, -, after, -⟩ := sound ((length + 1 : Nat) : Int)
      ((length + 1 : Nat) : Int) (by omega) (Int.le_refl _) (by omega)
    rw [set] at setFirst
    cases setFirst
    omega
  · intro fits shorter longer some less bounded
    lift shorter to Nat using by omega
    lift longer to Nat using by omega
    have sooner := windowEnd_mono (activityDay lastActivity) unit (Int.ofNat_le.mp less)
    have last := windowEnd_mono (activityDay lastActivity) unit (Int.ofNat_le.mp bounded)
    unfold WindowFits daySeconds at fits
    refine ⟨_, _, deadline_exact named day (by omega) (by unfold WindowFits daySeconds; omega),
      deadline_exact named day (by omega) (by unfold WindowFits daySeconds; omega), ?_, ?_⟩
    · rw [activityDay_day]
      exact windowEnd_later _ _ (by omega)
    · exact Int.mul_le_mul_of_nonneg_right sooner (by decide)

end Windows

theorem update_answered {lib : Library} {outcome : Outcome GoError} {userID : Nat} {change : Update}
    {population after : Population}
    (answered : Deletion.Query.answer lib outcome (.update userID change) population = (none, after)) :
    after.lifecycle = Function.update population.lifecycle userID
      (change.onRow (population.lifecycle userID)) := by
  unfold Deletion.Query.answer at answered
  dsimp only [Outcome.exec] at answered
  split at answered
  · obtain ⟨reported, rfl⟩ := Prod.mk.inj answered
    exact if_pos (Outcome.applied_of_error?_none (Option.map_eq_none_iff.mp reported))
  · have refused := congrArg Prod.fst answered
    simp at refused

theorem select_answered {lib : Library} {outcome : Outcome GoError} {userID : Nat}
    {population after : Population} {row : Lifecycle}
    (answered : Deletion.Query.answer lib outcome (.selectUser userID) population = (.ok row, after)) :
    row = population.lifecycle userID := by
  unfold Deletion.Query.answer at answered
  dsimp only at answered
  split at answered
  · cases answered
  · split at answered <;> cases answered
    rfl

theorem policy_stored {backends : Backends} {userID : Nat} {body : PolicyBody}
    {env : Nat → Outcome GoError} {population after : Population} {fresh : Lifecycle}
    (ran : (apiAccountDeletePolicyPut backends userID body).run (Deletion.Query.answer backends.lib) env
      population = (.ok fresh, after)) (enabled : body.enabled = some true) :
    ∃ value name, body.value = some value ∧ 0 < value ∧
      normalizeInactivityDeleteUnit backends.lib (trimSpace body.unit) = .ok name ∧
      fresh = { population.lifecycle userID with
        inactivityDeleteValue := if name = [] then 0 else value
        inactivityDeleteUnit := name } := by
  unfold apiAccountDeletePolicyPut setUserInactivityDeletion at ran
  dsimp only at ran
  by_cases small : body.value.getD 0 ≤ 0
  · rw [if_pos ⟨enabled, small⟩] at ran
    cases ran
  rw [if_neg (fun both => small both.2), if_pos enabled, if_pos enabled, if_neg (by omega)] at ran
  obtain ⟨value, given⟩ : ∃ value, body.value = some value := by
    cases given : body.value with
    | none => simp [given] at small
    | some value => exact ⟨value, rfl⟩
  rw [given, Option.getD_some] at ran small
  cases named : normalizeInactivityDeleteUnit backends.lib (trimSpace body.unit) with
  | error err =>
    rw [named] at ran
    cases ran
  | ok name =>
    refine ⟨value, name, given, by omega, rfl, ?_⟩
    rw [named] at ran
    dsimp only at ran
    have saved : (if value = 0 ∨ name = [] then
          Program.ask (.update userID (.setInactivity 0 [])) Program.done
        else .ask (.update userID (.setInactivity value name)) .done :
          Deletion.Queries (Option StoreError)) =
        .ask (.update userID (.setInactivity (if name = [] then 0 else value) name)) .done := by
      by_cases blank : name = []
      · rw [if_pos (.inr blank), if_pos blank, blank]
      · rw [if_neg (by simp [blank]; omega), if_neg blank]
    rw [saved, Program.ask_bind, Program.run_ask] at ran
    obtain ⟨reply, middle, updated⟩ : ∃ reply middle, Deletion.Query.answer backends.lib (env 0)
        (.update userID (.setInactivity (if name = [] then 0 else value) name)) population =
          (reply, middle) := ⟨_, _, rfl⟩
    rw [updated] at ran
    cases reply with
    | some err => cases ran
    | none =>
      change Program.run _ (.ask (Deletion.Query.selectUser userID) _) _ _ = _ at ran
      rw [Program.run_ask] at ran
      obtain ⟨reply, last, selected⟩ : ∃ reply last, Deletion.Query.answer backends.lib (env 1)
          (Deletion.Query.selectUser userID) middle = (reply, last) := ⟨_, _, rfl⟩
      rw [selected] at ran
      cases reply with
      | error err => cases ran
      | ok row =>
        cases ran
        rw [select_answered selected, update_answered updated, Function.update_self]
        rfl

/-- The windows of a policy that is accepted and stored are sound exactly when the window of
the policy itself fits. -/
theorem policy_windows_iff {backends : Backends} {userID : Nat} {body : PolicyBody}
    {env : Nat → Outcome GoError} {population after : Population} {fresh : Lifecycle}
    (ran : (apiAccountDeletePolicyPut backends userID body).run (Deletion.Query.answer backends.lib) env
      population = (.ok fresh, after)) (enabled : body.enabled = some true)
    (set : fresh.inactivityDeleteUnit ≠ []) (day : IsDay (activityDay fresh.lastActivityAt)) :
    WindowsSound backends.lib fresh.lastActivityAt fresh.inactivityDeleteUnit fresh.inactivityDeleteValue ↔
      WindowFits (activityDay fresh.lastActivityAt) fresh.inactivityDeleteUnit
        fresh.inactivityDeleteValue.toNat := by
  obtain ⟨value, name, -, positive, named, rfl⟩ := policy_stored ran enabled
  dsimp only at set day ⊢
  rw [if_neg set]
  lift value to Nat using Int.le_of_lt positive
  exact windows_sound_iff (unit_cases named set) day

theorem WindowsSound.not_due {lib : Library} {now : Time} {row : Lifecycle}
    (sound : WindowsSound lib row.lastActivityAt row.inactivityDeleteUnit row.inactivityDeleteValue)
    (used : activityDay now ≤ activityDay row.lastActivityAt) : row.dueInactive lib now = false := by
  by_contra due
  obtain ⟨deadline, set, passed⟩ := (Option.any_eq_true ..).mp (Bool.eq_true_of_not_eq_false due)
  have positive : 0 < row.inactivityDeleteValue := by
    by_contra unset
    rw [inactivityDeleteDeadline, if_pos (by omega)] at set
    cases set
  obtain ⟨first, later, -, same, after, order⟩ := sound _ _ positive (Int.le_refl _) (Int.le_refl _)
  obtain ⟨first', later', same', -, after', -⟩ := sound _ _ positive (Int.le_refl _) (Int.le_refl _)
  rw [set] at same'
  cases same'
  have early : normalizeActivityDay now < deadline := calc
    activityDay now * Mailops.day < (activityDay now + 1) * Mailops.day :=
      Int.mul_lt_mul_of_pos_right (Int.lt_succ _) (by decide)
    _ ≤ activityDay deadline * Mailops.day :=
      Int.mul_le_mul_of_nonneg_right (by omega) (by decide)
    _ ≤ deadline := Int.ediv_mul_le _ (by decide)
  exact absurd (of_decide_eq_true passed) (Int.not_le.mpr early)

/-- The window of a policy, if there is one, ends at a time that a `Time` can hold. -/
def Lifecycle.Fits (lib : Library) (row : Lifecycle) : Prop :=
  0 < row.inactivityDeleteValue →
    toLower lib (trimSpace row.inactivityDeleteUnit) ∈ [ascii "days", ascii "weeks", ascii "months"] →
    IsDay (activityDay row.lastActivityAt) ∧
      WindowFits (activityDay row.lastActivityAt) (toLower lib (trimSpace row.inactivityDeleteUnit))
        row.inactivityDeleteValue.toNat

def Population.Fits (lib : Library) (population : Population) : Prop :=
  ∀ userID ∈ population.premises.users, (population.lifecycle userID).Fits lib

theorem deadline_named {lib : Library} {lastActivity deadline : Time} {value : Int} {unit : GoString}
    (set : inactivityDeleteDeadline lib lastActivity value unit = some deadline) :
    0 < value ∧ toLower lib (trimSpace unit) ∈ [ascii "days", ascii "weeks", ascii "months"] ∧
      inactivityDeleteDeadline lib lastActivity value (toLower lib (trimSpace unit)) = some deadline := by
  have read {name : GoString} (named : name ∈ [ascii "days", ascii "weeks", ascii "months"]) :
      toLower lib (trimSpace name) = name := by
    fin_cases named <;> rfl
  have named : toLower lib (trimSpace unit) ∈ [ascii "days", ascii "weeks", ascii "months"] := by
    unfold inactivityDeleteDeadline at set
    dsimp only at set
    split_ifs at set with unset days weeks months
    · exact List.mem_cons.mpr (.inl days)
    · exact List.mem_cons_of_mem _ (List.mem_cons.mpr (.inl weeks))
    · exact List.mem_cons_of_mem _ (List.mem_cons_of_mem _ (List.mem_singleton.mpr months))
  refine ⟨?_, named, ?_⟩
  · by_contra unset
    rw [inactivityDeleteDeadline, if_pos (by omega)] at set
    cases set
  · unfold inactivityDeleteDeadline at set ⊢
    rwa [read named]

theorem Lifecycle.Fits.not_due {lib : Library} {now : Time} {row : Lifecycle} (fits : row.Fits lib)
    (used : activityDay now ≤ activityDay row.lastActivityAt) : row.dueInactive lib now = false := by
  by_contra due
  obtain ⟨deadline, set, passed⟩ := (Option.any_eq_true ..).mp (Bool.eq_true_of_not_eq_false due)
  obtain ⟨positive, named, same⟩ := deadline_named set
  obtain ⟨day, fits⟩ := fits positive named
  obtain ⟨value, known⟩ : ∃ value : Nat, row.inactivityDeleteValue = value :=
    ⟨_, (Int.toNat_of_nonneg (Int.le_of_lt positive)).symm⟩
  rw [known, Int.toNat_natCast] at fits
  have sound := (@windows_sound_iff lib _ _ _ (by simpa using named) day).mpr fits
  -- the same policy with its unit as it is read
  have spared := @WindowsSound.not_due lib now
    { row with inactivityDeleteUnit := toLower lib (trimSpace row.inactivityDeleteUnit) }
    (known ▸ sound) used
  rw [Lifecycle.dueInactive, same, Option.any_some, passed] at spared
  cases spared

/-- An installation with a relational database only, and one user. -/
def windowBackends : Backends := ⟨false, false, false, false, false, .plain⟩

def windowPopulation : Population where
  premises := ⟨{}, [], [], [], [1], List.nodup_nil⟩
  lifecycle := fun _ => ⟨20000 * Mailops.day, none, [], 0, []⟩

def daysPolicy (value : Int) : PolicyBody := ⟨some true, some value, ascii " Days"⟩

def policyRow (value : Int) : Lifecycle := ⟨20000 * Mailops.day, none, [], value, ascii "days"⟩

def policyRun (value : Int) : Except Refusal Lifecycle × Population :=
  (apiAccountDeletePolicyPut windowBackends 1 (daysPolicy value)).run
    (Deletion.Query.answer windowBackends.lib) (fun _ => .done) windowPopulation

theorem policy_windows_year :
    WindowsSound windowBackends.lib (20000 * Mailops.day) (ascii "days") 365 := by
  have shown : (policyRun 365).1 = .ok (policyRow 365) := by decide
  have ran : policyRun 365 = (.ok (policyRow 365), (policyRun 365).2) := Prod.ext shown rfl
  exact (policy_windows_iff ran rfl (by decide) (by decide)).mpr (by decide)

/-- A window of 106751990428139 days is accepted, and the account is due at once. -/
theorem policy_due_at_once :
    (policyRun 106751990428139).1 = .ok (policyRow 106751990428139) ∧
      (policyRow 106751990428139).dueInactive windowBackends.lib (20000 * Mailops.day) = true ∧
      ¬WindowsSound windowBackends.lib (20000 * Mailops.day) (ascii "days") 106751990428139 := by
  refine ⟨by decide, by decide, fun sound => ?_⟩
  have fits := (@windows_sound_iff windowBackends.lib _ 106751990428139 _ (.inl rfl)
    (by decide)).mp sound
  revert fits
  decide

end ElvishMail.Httpserver
