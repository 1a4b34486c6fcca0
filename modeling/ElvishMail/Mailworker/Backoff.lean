import Mathlib.Tactic.Ring
import ElvishMail.Mailworker.Workers
import ElvishMail.Semantics.Trace

/-!
# How often a row is tried

The limit of attempts in `internal/mailworker/worker.go` and the function `backoff` of
`internal/mailmeta/outbox.go` are used nowhere. What reschedules a row is the expression in
the `UPDATE` of `MarkOutboxFailed`, which has no limit and no cap of an hour; both agree on
the first six failures.
-/

namespace ElvishMail.Mailworker

open Go Smtp Mailmeta Semantics

def maxAttempts : Nat := 8

/-- `backoff` computes exponential delay (min 60s * 2^attempt, capped at 1h). -/
def backoff (attempts : Nat) : Time :=
  let base := (List.range (min attempts 8)).foldl (fun base _ => base * 2) (60 * second)
  if base > 3600 * second then 3600 * second else base

theorem backoff_eq (attempts : Nat) :
    backoff attempts = min ((60 * 2 ^ min attempts 8 : Nat) * second) (3600 * second) := by
  have doubled : ∀ count, (List.range count).foldl (fun base _ => base * 2) (60 * second) =
      (60 * 2 ^ count : Nat) * second := by
    intro count
    induction count with
    | zero => rfl
    | succ count ih =>
      rw [List.range_succ, List.foldl_append, ih, List.foldl_cons, List.foldl_nil]
      push_cast
      ring
  unfold backoff
  dsimp only
  rw [doubled]
  split_ifs with past
  · exact (min_eq_right past.le).symm
  · exact (min_eq_left (not_lt.mp past)).symm

theorem retryDelay_eq_backoff_iff {attempts count : Nat} :
    retryDelay attempts = backoff count ↔ attempts = count ∧ count < 6 := by
  have below : ∀ attempts ≤ 8, ∀ count ≤ 8,
      (60 * 2 ^ attempts : Nat) * second = min ((60 * 2 ^ count : Nat) * second) (3600 * second) ↔
        attempts = count ∧ count < 6 := by
    decide
  rw [retryDelay, backoff_eq, below _ (Nat.min_le_right ..) _ (Nat.min_le_right ..)]
  constructor <;> intro <;> omega

/-- A failure that was recorded on a row, with what the row said before, and the delay
until the next attempt. -/
structure Failure where
  id : Nat
  transient : Bool
  attempts : Nat
  delay : Time
deriving DecidableEq

def failure (table : Table) (now : Time) (statement : Statement) : Option Failure :=
  match statement with
  | .markOutboxFailed id _ _ transient =>
    (table.rows.find? (·.id == id)).map fun row =>
      ⟨id, transient, row.attempts, (statement.onRow now row).nextAttemptAt - now⟩
  | _ => none

def failures (system : System) : Action → List Failure
  | .execute worker now true =>
    match system.phase worker with
    | .busy (statement :: _) _ => (failure system.outbox now statement).toList
    | _ => []
  | _ => []

def failuresOf (id : Nat) (log : List Failure) : List Failure := log.filter (·.id = id)

/-- Each transient failure is followed by the documented delay: an observer counts them. -/
def documented : Monitor Failure where
  State := Nat
  initial := 0
  advance count failure := if failure.transient then count + 1 else count
  Admits count failure := failure.transient = true → failure.delay = backoff count

/-- Once a row has had `maxAttempts` transient failures it has failed, and each delay was
the documented one. -/
def Bounded (id : Nat) (system : System) (log : List Failure) : Prop :=
  (maxAttempts ≤ documented.observe (failuresOf id log) → system.outbox.statusOf id = some .failed) ∧
    documented.Accepts (failuresOf id log)

/-- Every transient failure is among the first six failures, and none before it was
permanent. -/
def Early (failures : List Failure) : Prop :=
  ∀ (before : List Failure) (failure : Failure) (after : List Failure),
    failures = before ++ failure :: after → failure.transient = true →
    before.length < 6 ∧ ∀ earlier ∈ before, earlier.transient = true

/-- Each failure is followed by the delay of the `UPDATE`: an observer counts all of them. -/
def numbered : Monitor Failure where
  State := Nat
  initial := 0
  advance count _ := count + 1
  Admits count failure := failure.transient = true → failure.delay = retryDelay count

theorem numbered_observe (failures : List Failure) : numbered.observe failures = failures.length := by
  induction failures using List.reverseRecOn with
  | nil => rfl
  | append_singleton before failure ih =>
    rw [Monitor.observe_snoc, ih, List.length_append]
    rfl

theorem documented_observe (failures : List Failure) :
    documented.observe failures = failures.countP (·.transient) := by
  induction failures using List.reverseRecOn with
  | nil => rfl
  | append_singleton before failure ih =>
    rw [Monitor.observe_snoc, ih, List.countP_append, List.countP_singleton]
    cases transient : failure.transient <;> simp [documented, transient]

theorem exists_last {failures : List Failure} (some : 0 < failures.countP (·.transient)) :
    ∃ (before : List Failure) (failure : Failure) (after : List Failure),
      failures = before ++ failure :: after ∧ failure.transient = true ∧
      failures.countP (·.transient) = before.countP (·.transient) + 1 := by
  induction failures using List.reverseRecOn with
  | nil => cases some
  | append_singleton before failure ih =>
    rw [List.countP_append, List.countP_singleton] at some ⊢
    cases transient : failure.transient with
    | true => exact ⟨before, failure, [], rfl, transient, by simp⟩
    | false =>
      rw [transient, if_neg Bool.false_ne_true, Nat.add_zero] at some
      obtain ⟨earlier, last, between, rfl, isTransient, count⟩ := ih some
      exact ⟨earlier, last, between ++ [failure], by simp, isTransient, by simpa using count⟩

theorem documented_iff_early {failures : List Failure} (delays : numbered.Accepts failures) :
    documented.Accepts failures ↔ Early failures := by
  refine forall_congr' fun before => forall_congr' fun failure => forall_congr' fun after =>
    forall_congr' fun split => imp_congr_right fun transient => ?_
  have delay : failure.delay = retryDelay before.length := by
    have admitted := delays before failure after split transient
    rwa [numbered_observe] at admitted
  rw [documented_observe, delay, retryDelay_eq_backoff_iff, eq_comm, List.countP_eq_length]
  constructor
  · rintro ⟨all, early⟩
    rw [List.countP_eq_length.mpr all] at early
    exact ⟨early, all⟩
  · rintro ⟨early, all⟩
    rw [List.countP_eq_length.mpr all]
    exact ⟨all, early⟩

theorem early_of_transient {failures : List Failure} (few : failures.length ≤ 6)
    (all : ∀ failure ∈ failures, failure.transient = true) : Early failures := by
  rintro before failure after rfl -
  rw [List.length_append, List.length_cons] at few
  exact ⟨by omega, fun earlier member => all earlier (List.mem_append_left _ member)⟩

theorem Early.count_le {failures : List Failure} (early : Early failures) :
    failures.countP (·.transient) ≤ 6 := by
  rcases Nat.eq_zero_or_pos (failures.countP (·.transient)) with none | some
  · exact none ▸ Nat.zero_le 6
  · obtain ⟨before, failure, after, split, transient, count⟩ := exists_last some
    have few := (early before failure after split transient).1
    have counted : before.countP (·.transient) ≤ before.length := List.countP_le_length
    omega

structure Counted (id : Nat) (system : System) (log : List Failure) : Prop where
  attempts : ∀ row ∈ system.outbox.rows, row.id = id → row.attempts = (failuresOf id log).length
  delays : numbered.Accepts (failuresOf id log)

section Steps

variable {cfg : Config} {system next : System} {log : List Failure} {id : Nat} {action : Action}

theorem recover_attempts (now cutoff : Time) (row : OutboxRow) :
    (row.recover now cutoff).attempts = row.attempts := by
  unfold OutboxRow.recover
  split <;> rfl

theorem lease_attempts (now : Time) (ids : List Nat) (row : OutboxRow) :
    (row.lease now ids).attempts = row.attempts := by
  unfold OutboxRow.lease
  split <;> rfl

theorem failure_row {table : Table} {row : OutboxRow} (member : row ∈ table.rows) (now : Time)
    (statement : Statement) :
    (statement.onRow now row).attempts =
        row.attempts + (failuresOf row.id (failure table now statement).toList).length ∧
      ∀ found ∈ failuresOf row.id (failure table now statement).toList,
        found.transient = true → found.delay = retryDelay row.attempts := by
  cases statement with
  | markOutboxFailed id smtpCode errMsg transient =>
    by_cases named : row.id = id
    · subst named
      have found : table.rows.find? (·.id == row.id) = some row := by
        cases result : table.rows.find? (·.id == row.id) with
        | none => exact absurd (List.find?_eq_none.mp result row member) (by simp)
        | some other =>
          have same : other.id = row.id := by simpa using List.find?_some result
          rw [Table.eq_of_id (List.mem_of_find?_eq_some result) member same]
      simp only [failure, found, failuresOf, Statement.onRow, if_pos]
      cases transient with
      | true => simp
      | false => simp
    · have others : failuresOf row.id
          (failure table now (.markOutboxFailed id smtpCode errMsg transient)).toList = [] := by
        rw [failure]
        cases table.rows.find? (·.id == id) with
        | none => rfl
        | some other => simp [failuresOf, Ne.symm named]
      rw [others, Statement.onRow, if_neg named]
      exact ⟨rfl, fun _ member => by cases member⟩
  | insertBounce bounce => exact ⟨rfl, fun _ member => by cases member⟩
  | markOutboxSent id smtpCode =>
    refine ⟨?_, fun _ member => by cases member⟩
    rw [Statement.onRow]
    split <;> rfl
  | recordSentCopy id messageID =>
    refine ⟨?_, fun _ member => by cases member⟩
    rw [Statement.onRow]
    split <;> rfl

theorem failuresOf_append (id : Nat) (first second : List Failure) :
    failuresOf id (first ++ second) = failuresOf id first ++ failuresOf id second :=
  List.filter_append ..

theorem Counted.silent (counted : Counted id system log) {change : OutboxRow → OutboxRow}
    (keeps : ∀ row, (change row).id = row.id) (same : ∀ row, (change row).attempts = row.attempts)
    (worker : Nat) (phase : Phase) : Counted id ((system.update change keeps).enter worker phase) log := by
  refine ⟨fun row member named => ?_, counted.delays⟩
  obtain ⟨before, there, rfl⟩ := List.mem_map.mp member
  rw [same]
  exact counted.attempts before there ((keeps before).symm.trans named)

theorem failure_present {table : Table} {now : Time} {statement : Statement} {found : Failure}
    (recorded : failure table now statement = some found) : ∃ row ∈ table.rows, row.id = found.id := by
  cases statement with
  | markOutboxFailed id smtpCode errMsg transient =>
    obtain ⟨row, there, rfl⟩ := Option.map_eq_some_iff.mp recorded
    exact ⟨row, List.mem_of_find?_eq_some there, by simpa using List.find?_some there⟩
  | _ => cases recorded

theorem Counted.run (counted : Counted id system log) (now : Time) (statement : Statement)
    (worker : Nat) (phase : Phase) :
    Counted id ((system.run now statement).enter worker phase)
      (log ++ (failure system.outbox now statement).toList) := by
  by_cases present : ∃ row ∈ system.outbox.rows, row.id = id
  · obtain ⟨row, member, rfl⟩ := present
    obtain ⟨attempts, delays⟩ := failure_row member now statement
    have count := counted.attempts row member rfl
    constructor
    · intro after there named
      obtain ⟨before, earlier, rfl⟩ := List.mem_map.mp there
      have same : before = row :=
        Table.eq_of_id earlier member ((statement.onRow_id now before).symm.trans named)
      rw [same, attempts, count, failuresOf_append, List.length_append]
    · rw [failuresOf_append]
      cases recorded : failure system.outbox now statement with
      | none => simpa [failuresOf] using counted.delays
      | some found =>
        rw [recorded] at delays
        by_cases own : found.id = row.id
        · have single : failuresOf row.id [found] = [found] := by simp [failuresOf, own]
          rw [Option.toList_some, single] at delays ⊢
          refine (numbered.accepts_snoc _ found).mpr ⟨counted.delays, fun transient => ?_⟩
          rw [numbered_observe, ← count]
          exact delays found (List.mem_singleton_self found) transient
        · have nothing : failuresOf row.id [found] = [] := by simp [failuresOf, own]
          rw [Option.toList_some, nothing, List.append_nil]
          exact counted.delays
  · have others : failuresOf id (failure system.outbox now statement).toList = [] := by
      cases recorded : failure system.outbox now statement with
      | none => rfl
      | some found =>
        obtain ⟨row, member, named⟩ := failure_present recorded
        have elsewhere : found.id ≠ id := fun same => present ⟨row, member, named.trans same⟩
        simp [failuresOf, elsewhere]
    constructor
    · intro after there named
      obtain ⟨before, earlier, rfl⟩ := List.mem_map.mp there
      exact absurd ⟨before, earlier, (statement.onRow_id now before).symm.trans named⟩ present
    · rw [failuresOf_append, others, List.append_nil]
      exact counted.delays

theorem Counted.step (counted : Counted id system log) (taken : system.step cfg action = some next) :
    Counted id next (log ++ failures system action) := by
  by_cases executes : ∃ worker now, action = .execute worker now true
  · obtain ⟨worker, now, rfl⟩ := executes
    simp only [System.step] at taken
    split at taken
    next statement rest queue busy =>
      cases taken
      rw [failures, busy]
      exact counted.run now statement worker _
    · cases taken
  have silent : failures system action = [] := by
    unfold failures
    split
    next worker now => exact absurd ⟨worker, now, rfl⟩ executes
    · rfl
  rw [silent, List.append_nil]
  rcases step_cases taken with ⟨worker, clock, now, -, rfl⟩ |
    ⟨worker, now, limit, scan, -, -, rfl⟩ | ⟨worker, statement, rest, queue, now, same, -, -⟩ |
    ⟨worker, phase, -, rfl⟩
  · exact counted.silent _ (recover_attempts now _) worker _
  · exact counted.silent _ (lease_attempts now _) worker _
  · exact absurd ⟨worker, now, same⟩ executes
  · exact ⟨counted.attempts, counted.delays⟩

end Steps

/-- A row that was never tried has a bounded number of attempts with the documented delays
exactly if its transient failures are among its first six failures and none of these was
permanent before. -/
theorem bounded_iff_early (cfg : Config) (start system : System) (log : List Failure) (row : OutboxRow)
    (member : row ∈ start.outbox.rows) (fresh : row.attempts = 0)
    (runs : ((workers cfg).recorded failures).Runs (fun _ _ => True) (start, []) (system, log)) :
    Bounded row.id system log ↔ Early (failuresOf row.id log) := by
  have counted : Counted row.id system log := by
    refine runs.invariant (fun reached => Counted row.id reached.1 reached.2) ?_ ?_
    · refine ⟨fun other there named => ?_, numbered.accepts_nil⟩
      rw [Table.eq_of_id there member named, fresh]
      rfl
    · rintro ⟨state, before⟩ action ⟨after, later⟩ counted - taken
      obtain ⟨step, rfl⟩ := Machine.recorded_step taken
      exact Counted.step counted step
  constructor
  · rintro ⟨-, accepts⟩
    exact (documented_iff_early counted.delays).mp accepts
  · intro early
    refine ⟨fun many => ?_, (documented_iff_early counted.delays).mpr early⟩
    rw [documented_observe] at many
    have few := early.count_le
    unfold maxAttempts at many
    omega

def Material.unreadable : Material := { Material.sample with blob := fun _ => .error (ascii "timeout") }

/-- A worker leases the row, fails to read its payload, and records that. -/
def failedAttempt (now : Time) (row : OutboxRow) : List Action :=
  [.recover 0 now now true, .lease 0 now 10 [row] true,
    .deliver 0 .unreadable (.single fun _ => accepting) .asBuilt, .execute 0 now true, .finish 0]

/-- The system with its log after a number of such attempts, six hours apart. -/
def sampleFailures : Nat → System × List Failure
  | 0 => (sampleSystem, [])
  | count + 1 =>
    let state := sampleFailures count
    ((workers .sample).recorded failures).after
      (failedAttempt (count * (6 * 3600 * second)) ((state.1.outbox.rows.head?).getD (sampleRow ""))) state

theorem sampleFailures_runs (count : Nat) :
    ((workers .sample).recorded failures).Runs (fun _ _ => True) (sampleSystem, [])
      (sampleFailures count) := by
  induction count with
  | zero => exact .refl
  | succ count ih =>
    exact ih.trans
      (Machine.after_runs _ (Machine.permits_of_forall (fun _ _ => trivial) _ _))

/-- Six failures in a row are early. -/
theorem bounded_sixth :
    (failuresOf 1 (sampleFailures 6).2).length = 6 ∧ Bounded 1 (sampleFailures 6).1 (sampleFailures 6).2 := by
  obtain ⟨six, transient⟩ : (failuresOf 1 (sampleFailures 6).2).length = 6 ∧
      (failuresOf 1 (sampleFailures 6).2).all (·.transient) = true := by decide
  have early : Early (failuresOf 1 (sampleFailures 6).2) :=
    early_of_transient six.le (List.all_eq_true.mp transient)
  have runs := sampleFailures_runs 6
  generalize sampleFailures 6 = state at six early runs ⊢
  exact ⟨six, (bounded_iff_early .sample sampleSystem _ _ (sampleRow "a@x.org")
    (List.mem_singleton_self _) rfl runs).mpr early⟩

/-- After eight transient failures a row is still pending. -/
theorem unbounded_attempts :
    (sampleFailures 8).1.outbox.statusOf 1 = some .pending ∧
      ¬∀ (cfg : Config) (start system : System) (log : List Failure),
        ∀ row ∈ start.outbox.rows, row.attempts = 0 →
          ((workers cfg).recorded failures).Runs (fun _ _ => True) (start, []) (system, log) →
            Bounded row.id system log := by
  have pending : (sampleFailures 8).1.outbox.statusOf 1 = some .pending := by decide
  obtain ⟨count, transient⟩ : (failuresOf 1 (sampleFailures 8).2).length = 8 ∧
      (failuresOf 1 (sampleFailures 8).2).all (·.transient) = true := by decide
  have eight : maxAttempts ≤ documented.observe (failuresOf 1 (sampleFailures 8).2) := by
    rw [documented_observe, List.countP_eq_length.mpr (List.all_eq_true.mp transient), count]
    decide
  have runs := sampleFailures_runs 8
  generalize sampleFailures 8 = state at pending eight runs ⊢
  refine ⟨pending, fun always => ?_⟩
  have bounded := always .sample sampleSystem _ _ (sampleRow "a@x.org") (List.mem_singleton_self _) rfl runs
  exact absurd (pending.symm.trans (bounded.1 eight)) (by decide)

end ElvishMail.Mailworker
