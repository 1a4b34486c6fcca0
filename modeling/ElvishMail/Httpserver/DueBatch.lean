import ElvishMail.Httpserver.DeletionSweep

/-!
# Batches of due accounts

A sweep takes the accounts with an inactivity policy, those that were not used for longest
first, up to a limit, and deletes the due ones among them. An account with a long window
stays where it is in that order though it is not due, and takes the place of due ones
behind it. As long as that does not happen, every sweep deletes as many due accounts as it may.
-/

namespace ElvishMail.Httpserver.Population

open Go Mailmeta

variable (lib : Library) (now : Time) (limit : Int) (population : Population)

def due : List Nat := (population.rows.filter (·.2.dueInactive lib now)).map Prod.fst

/-- The rows with a policy, in the order in which a sweep reads them. -/
def candidates : List (Nat × Lifecycle) :=
  (population.rows.filter fun row =>
    0 < row.2.inactivityDeleteValue ∧ row.2.inactivityDeleteUnit ≠ []).insertionSort
      fun first second => first.2.lastActivityAt ≤ second.2.lastActivityAt

/-- A batch holds due accounts only, and as many of them as it may. -/
structure BatchFull : Prop where
  length : (population.listUsersDueForInactivityDeletion lib now limit).length =
    min limit.toNat (population.due lib now).length
  due : ∀ userID ∈ population.listUsersDueForInactivityDeletion lib now limit,
    userID ∈ population.due lib now

/-- No account that is not due is read in the place of one that is. -/
def Uncrowded : Prop :=
  (∀ row ∈ population.candidates.take limit.toNat, row.2.dueInactive lib now = true) ∨
    ∀ row ∈ population.candidates.drop limit.toNat, row.2.dueInactive lib now = false

instance : Decidable (population.Uncrowded lib now limit) := inferInstanceAs (Decidable (_ ∨ _))

def without (gone : List Nat) : Population :=
  { population with
    premises := { population.premises with users := population.premises.users.filter (· ∉ gone) } }

/-- After so many sweeps at one time, each of which deletes its batch. -/
def afterSweeps : Nat → Population
  | 0 => population
  | rounds + 1 =>
    (afterSweeps rounds).without
      ((afterSweeps rounds).listUsersDueForInactivityDeletion lib now limit)

variable {lib now limit population}

theorem policy_of_due {row : Lifecycle} (due : row.dueInactive lib now = true) :
    0 < row.inactivityDeleteValue ∧ row.inactivityDeleteUnit ≠ [] := by
  obtain ⟨deadline, set, -⟩ := (Option.any_eq_true ..).mp due
  constructor
  · by_contra unset
    rw [inactivityDeleteDeadline, if_pos (by omega)] at set
    cases set
  · intro blank
    rw [blank, inactivityDeleteDeadline] at set
    dsimp only at set
    split at set
    · cases set
    · have none : toLower lib (trimSpace []) = [] := rfl
      rw [none, if_neg (by decide), if_neg (by decide), if_neg (by decide)] at set
      cases set

theorem due_perm (lib : Library) (now : Time) (population : Population) :
    (population.due lib now).Perm
      ((population.candidates.filter (·.2.dueInactive lib now)).map Prod.fst) := by
  have sorted := ((List.perm_insertionSort (fun first second : Nat × Lifecycle =>
    first.2.lastActivityAt ≤ second.2.lastActivityAt) (population.rows.filter fun row =>
      0 < row.2.inactivityDeleteValue ∧ row.2.inactivityDeleteUnit ≠ [])).filter
        (·.2.dueInactive lib now)).map Prod.fst
  refine List.Perm.trans ?_ sorted.symm
  rw [due, List.filter_filter]
  refine List.Perm.of_eq (congrArg (List.map Prod.fst) (List.filter_congr fun row _ => ?_))
  by_cases isDue : row.2.dueInactive lib now = true
  · simp [isDue, policy_of_due isDue]
  · simp [isDue]

theorem batch_eq (positive : 0 < limit) (bounded : limit ≤ 500) :
    population.listUsersDueForInactivityDeletion lib now limit =
      ((population.candidates.take limit.toNat).filter (·.2.dueInactive lib now)).map Prod.fst := by
  have same : sweepLimit limit = limit := by
    unfold sweepLimit
    rw [if_neg (by omega)]
  unfold listUsersDueForInactivityDeletion candidates
  rw [same]

theorem due_length (positive : 0 < limit) (bounded : limit ≤ 500) :
    (population.due lib now).length =
      (population.listUsersDueForInactivityDeletion lib now limit).length +
        ((population.candidates.drop limit.toNat).filter (·.2.dueInactive lib now)).length := by
  rw [(due_perm lib now population).length_eq, batch_eq positive bounded, List.length_map,
    List.length_map, ← List.length_append, ← List.filter_append, List.take_append_drop]

theorem batchFull_iff (positive : 0 < limit) (bounded : limit ≤ 500) :
    population.BatchFull lib now limit ↔ population.Uncrowded lib now limit := by
  have length := @due_length lib now limit population positive bounded
  have most : (population.listUsersDueForInactivityDeletion lib now limit).length ≤
      (population.candidates.take limit.toNat).length := by
    rw [batch_eq positive bounded, List.length_map]
    exact List.length_filter_le ..
  have taken : (population.candidates.take limit.toNat).length =
      min limit.toNat population.candidates.length := List.length_take
  constructor
  · rintro ⟨full, -⟩
    by_cases behind : ((population.candidates.drop limit.toNat).filter
        (·.2.dueInactive lib now)).length = 0
    · right
      intro row member
      exact Bool.eq_false_of_not_eq_true (List.filter_eq_nil_iff.mp (List.length_eq_zero_iff.mp behind)
        row member)
    · left
      have all : ((population.candidates.take limit.toNat).filter
          (·.2.dueInactive lib now)).length = (population.candidates.take limit.toNat).length := by
        rw [batch_eq positive bounded, List.length_map] at full length most
        omega
      exact List.length_filter_eq_length_iff.mp all
  · intro uncrowded
    refine ⟨?_, ?_⟩
    · rcases uncrowded with all | none
      · have full : ((population.candidates.take limit.toNat).filter
            (·.2.dueInactive lib now)).length = (population.candidates.take limit.toNat).length :=
          List.length_filter_eq_length_iff.mpr all
        have short : population.candidates.length ≤ limit.toNat →
            ((population.candidates.drop limit.toNat).filter (·.2.dueInactive lib now)).length = 0 := by
          intro few
          rw [List.drop_of_length_le few]
          rfl
        rw [batch_eq positive bounded, List.length_map] at length ⊢
        omega
      · have empty : (population.candidates.drop limit.toNat).filter (·.2.dueInactive lib now) = [] :=
          List.filter_eq_nil_iff.mpr fun row member => by simp [none row member]
        rw [empty, List.length_nil] at length
        omega
    · intro userID listed
      rw [batch_eq positive bounded] at listed
      obtain ⟨row, member, rfl⟩ := List.mem_map.mp listed
      obtain ⟨early, isDue⟩ := List.mem_filter.mp member
      exact (due_perm lib now population).mem_iff.mpr
        (List.mem_map_of_mem (List.mem_filter.mpr ⟨List.mem_of_mem_take early, isDue⟩))

theorem due_eq : population.due lib now =
    population.premises.users.filter fun userID => (population.lifecycle userID).dueInactive lib now := by
  rw [due, rows, List.filter_map, List.map_map]
  exact List.map_id _

theorem due_without (gone : List Nat) :
    (population.without gone).due lib now = (population.due lib now).filter (· ∉ gone) := by
  rw [due_eq, due_eq, List.filter_filter, without, List.filter_filter]
  exact List.filter_congr fun userID _ => Bool.and_comm ..

theorem batch_within (positive : 0 < limit) (bounded : limit ≤ 500) :
    (population.listUsersDueForInactivityDeletion lib now limit).length ≤
      ((population.due lib now).filter
        (· ∈ population.listUsersDueForInactivityDeletion lib now limit)).length := by
  have within : (population.listUsersDueForInactivityDeletion lib now limit).Sublist
      ((population.candidates.filter (·.2.dueInactive lib now)).map Prod.fst) := by
    rw [batch_eq positive bounded]
    exact ((List.take_sublist ..).filter _).map _
  rw [((due_perm lib now population).filter _).length_eq]
  have kept := (within.filter fun userID =>
    userID ∈ population.listUsersDueForInactivityDeletion lib now limit).length_le
  rwa [List.filter_eq_self.mpr fun userID listed => by simpa using listed] at kept

theorem due_sweep (positive : 0 < limit) (bounded : limit ≤ 500)
    (full : population.BatchFull lib now limit) :
    ((population.without (population.listUsersDueForInactivityDeletion lib now limit)).due
      lib now).length ≤ (population.due lib now).length - limit.toNat := by
  obtain ⟨length, -⟩ := full
  have within := @batch_within lib now limit population positive bounded
  have parts := @List.length_eq_length_filter_add _ (population.due lib now)
    (· ∈ population.listUsersDueForInactivityDeletion lib now limit)
  rw [due_without]
  simp only [decide_not] at parts ⊢
  omega

/-- The batches of repeated sweeps are full exactly as long as nobody crowds out a due account,
and as long as they are, the sweeps get through all due accounts. -/
theorem batches_full_iff (lib : Library) (now : Time) (population : Population) (positive : 0 < limit)
    (bounded : limit ≤ 500) :
    (population.BatchFull lib now limit ↔ population.Uncrowded lib now limit) ∧
      ∀ rounds, (∀ round < rounds, (population.afterSweeps lib now limit round).Uncrowded lib now limit) →
        ((population.afterSweeps lib now limit rounds).due lib now).length ≤
          (population.due lib now).length - rounds * limit.toNat := by
  refine ⟨batchFull_iff positive bounded, fun rounds uncrowded => ?_⟩
  induction rounds with
  | zero =>
    rw [Nat.zero_mul, Nat.sub_zero]
    exact Nat.le_refl _
  | succ rounds ih =>
    have before := ih fun round early => uncrowded round (by omega)
    have full := (batchFull_iff positive bounded).mpr (uncrowded rounds (Nat.lt_succ_self rounds))
    have swept := due_sweep positive bounded full
    rw [afterSweeps, Nat.succ_mul]
    omega

/-- The first user may be away for a thousand months, the second for a day. -/
def crowdedPopulation : Population where
  premises := ⟨{}, [], [], [], [1, 2], List.nodup_nil⟩
  lifecycle := fun userID =>
    if userID = 1 then ⟨0, none, [], 1000, ascii "months"⟩
    else ⟨Mailops.day, none, [], 1, ascii "days"⟩

theorem batches_full_wide :
    (crowdedPopulation.BatchFull .plain (100 * Mailops.day) 2 ↔
        crowdedPopulation.Uncrowded .plain (100 * Mailops.day) 2) ∧
      crowdedPopulation.Uncrowded .plain (100 * Mailops.day) 2 ∧
      crowdedPopulation.due .plain (100 * Mailops.day) = [2] := by
  exact ⟨(batches_full_iff .plain (100 * Mailops.day) crowdedPopulation (by decide) (by decide)).1,
    by decide⟩

/-- With batches of one, the second user is due and no sweep ever reaches the account. -/
theorem batch_crowded :
    crowdedPopulation.due .plain (100 * Mailops.day) = [2] ∧
      (∀ rounds, (crowdedPopulation.afterSweeps .plain (100 * Mailops.day) 1 rounds) =
        crowdedPopulation) ∧
      ¬crowdedPopulation.BatchFull .plain (100 * Mailops.day) 1 := by
  have run : crowdedPopulation.due .plain (100 * Mailops.day) = [2] ∧
      crowdedPopulation.listUsersDueForInactivityDeletion .plain (100 * Mailops.day) 1 = [] := by
    decide
  obtain ⟨due, batch⟩ := run
  refine ⟨due, fun rounds => ?_, fun full => ?_⟩
  · induction rounds with
    | zero => rfl
    | succ rounds ih =>
      rw [afterSweeps, ih, batch]
      rfl
  · have length := full.length
    rw [due, batch] at length
    cases length

end ElvishMail.Httpserver.Population
