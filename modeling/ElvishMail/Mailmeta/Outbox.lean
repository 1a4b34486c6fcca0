import Mathlib.Data.List.Sort
import Mathlib.Data.List.Perm.Basic
import ElvishMail.Go.Strings

/-!
# The outbox tables

`internal/mailmeta/outbox.go`: the rows of `mail_outbox` and `mail_bounces` and
the statements the mail worker issues on them. A statement is a function on
single rows, mapped over the table; its `WHERE` clause is a condition on the
row. Times are in microseconds, and the zero `uuid` stands for `NULL`.
-/

namespace ElvishMail.Mailmeta

open Go

abbrev Time := Int

def second : Time := 1000000

/-- `OutboxStatus` values. -/
inductive OutboxStatus where
  | pending
  | sending
  | sent
  | failed
deriving DecidableEq

/-- `OutboxKind` values; the column is free text, so any other may be read. -/
inductive OutboxKind where
  | unset
  | pgp
  | plaintextRelay
  | other (name : GoString)
deriving DecidableEq

structure OutboxRow where
  id : Nat
  userID : Nat
  status : OutboxStatus
  kind : OutboxKind
  source : GoString
  adminRunID : Nat
  payloadBlobRef : GoString
  payloadSizeBytes : Int
  attempts : Nat
  nextAttemptAt : Time
  lastSMTPCode : Int
  lastError : GoString
  recipientSummary : GoString
  sentCopyBodyBlobRef : GoString
  sentCopyBodySizeBytes : Int
  sentCopyHeaderCiphertext : GoString
  sentCopyFromAddr : GoString
  sentCopyMessageID : Nat
  createdAt : Time
  updatedAt : Time
deriving DecidableEq

structure Bounce where
  outboxID : Nat
  recipient : GoString
  code : Int
  enhancedCode : GoString := []
  reason : GoString
deriving DecidableEq

/-- A sender-readable ciphertext copy, staged until delivery succeeds. -/
structure OutboxSentCopy where
  bodyBlobRef : GoString
  bodySizeBytes : Int
  headerCiphertext : GoString
  fromAddr : GoString
deriving DecidableEq

/-- The row `InsertOutboxMeta` creates. -/
def insertOutboxMeta (now : Time) (id userID : Nat) (kind : OutboxKind) (payloadBlobRef : GoString)
    (sizeBytes : Int) (recipientSummary source : GoString) (adminRunID : Nat)
    (sentCopy : Option OutboxSentCopy) : OutboxRow where
  id
  userID
  status := .pending
  kind := if kind = .unset then .pgp else kind
  source
  adminRunID
  payloadBlobRef
  payloadSizeBytes := sizeBytes
  attempts := 0
  nextAttemptAt := now
  lastSMTPCode := 0
  lastError := []
  recipientSummary
  sentCopyBodyBlobRef := (sentCopy.map OutboxSentCopy.bodyBlobRef).getD []
  sentCopyBodySizeBytes := (sentCopy.map OutboxSentCopy.bodySizeBytes).getD 0
  sentCopyHeaderCiphertext := (sentCopy.map OutboxSentCopy.headerCiphertext).getD []
  sentCopyFromAddr := (sentCopy.map fun copy => trimSpace copy.fromAddr).getD []
  sentCopyMessageID := 0
  createdAt := now
  updatedAt := now

namespace OutboxRow

/-- The `WHERE` clause of a lease. -/
def due (now : Time) (row : OutboxRow) : Bool :=
  row.status == .pending && decide (row.nextAttemptAt ≤ now)

/-- The `UPDATE` of a lease, for one of the leased ids. -/
def lease (now : Time) (ids : List Nat) (row : OutboxRow) : OutboxRow :=
  if row.id ∈ ids ∧ row.status = .pending then { row with status := .sending, updatedAt := now }
  else row

/-- The `WHERE` clause of a recovery with this cutoff. -/
def stuck (cutoff : Time) (row : OutboxRow) : Bool :=
  row.status == .sending && decide (row.updatedAt < cutoff)

/-- `RecoverStuckSending` on one row. -/
def recover (now cutoff : Time) (row : OutboxRow) : OutboxRow :=
  if row.stuck cutoff then { row with status := .pending, updatedAt := now } else row

end OutboxRow

def leaseLimit (limit : Int) : Nat := if limit ≤ 0 ∨ limit > 50 then 10 else limit.toNat

/-- The rows a lease returns, as they were before it. `scan` is the order in which
the table is read, which decides between rows due at the same time. -/
def leasePendingOutbox (now : Time) (limit : Int) (scan : List OutboxRow) : List OutboxRow :=
  ((scan.filter (·.due now)).insertionSort fun a b => a.nextAttemptAt ≤ b.nextAttemptAt).take
    (leaseLimit limit)

/-- `RecoverStuckSending` compares with the worker's own clock, not the
database's. -/
def recoveryCutoff (clock olderThan : Time) : Time :=
  clock - if olderThan ≤ 0 then 15 * 60 * second else olderThan

inductive Statement where
  | insertBounce (bounce : Bounce)
  | markOutboxSent (id : Nat) (smtpCode : Int)
  | markOutboxFailed (id : Nat) (smtpCode : Int) (errMsg : GoString) (transient : Bool)
  | recordSentCopy (id messageID : Nat)
deriving DecidableEq

def retryDelay (attempts : Nat) : Time := (60 * 2 ^ min attempts 8 : Nat) * second

namespace Statement

/-- What a statement does to one row of `mail_outbox`. Neither `MarkOutboxSent`
nor `MarkOutboxFailed` looks at the status. -/
def onRow (now : Time) (row : OutboxRow) : Statement → OutboxRow
  | .insertBounce _ => row
  | .markOutboxSent id smtpCode =>
    if row.id = id then
      { row with status := .sent, updatedAt := now, lastSMTPCode := smtpCode, lastError := [] }
    else row
  | .markOutboxFailed id smtpCode errMsg transient =>
    if row.id = id then
      if transient then
        { row with
          status := .pending
          updatedAt := now
          lastSMTPCode := smtpCode
          lastError := errMsg
          attempts := row.attempts + 1
          nextAttemptAt := now + retryDelay row.attempts }
      else
        { row with
          status := .failed
          updatedAt := now
          lastSMTPCode := smtpCode
          lastError := errMsg
          attempts := row.attempts + 1 }
    else row
  | .recordSentCopy id messageID =>
    if row.id = id then
      { row with
        sentCopyMessageID := messageID
        sentCopyBodyBlobRef := []
        sentCopyBodySizeBytes := 0
        sentCopyHeaderCiphertext := []
        sentCopyFromAddr := []
        updatedAt := now }
    else row

def bounce? : Statement → Option Bounce
  | .insertBounce bounce => some bounce
  | _ => none

def marks : Statement → Option (Nat × OutboxStatus)
  | .markOutboxSent id _ => some (id, .sent)
  | .markOutboxFailed id _ _ transient => some (id, if transient then .pending else .failed)
  | _ => none

@[simp] theorem onRow_id (now : Time) (row : OutboxRow) (statement : Statement) :
    (statement.onRow now row).id = row.id := by
  cases statement <;> simp only [onRow] <;> split <;> (try split) <;> rfl

theorem onRow_status (now : Time) (row : OutboxRow) (statement : Statement) :
    (statement.onRow now row).status =
      match statement.marks with
      | some (id, status) => if row.id = id then status else row.status
      | none => row.status := by
  cases statement with
  | insertBounce bounce => rfl
  | markOutboxSent id smtpCode =>
    simp only [onRow, marks]
    split <;> rfl
  | markOutboxFailed id smtpCode errMsg transient =>
    simp only [onRow, marks]
    split
    · cases transient <;> rfl
    · rfl
  | recordSentCopy id messageID =>
    simp only [onRow, marks]
    split <;> rfl

end Statement

def settled (clock : Statement → Time) (statements : List Statement) (row : OutboxRow) : OutboxRow :=
  statements.foldl (fun row statement => statement.onRow (clock statement) row) row

theorem settled_append (clock : Statement → Time) (first second : List Statement) (row : OutboxRow) :
    settled clock (first ++ second) row = settled clock second (settled clock first row) :=
  List.foldl_append

/-- The table `mail_outbox`: rows with distinct primary keys. -/
structure Table where
  rows : List OutboxRow
  distinct : (rows.map OutboxRow.id).Nodup

namespace Table

/-- Apply an `UPDATE` to every row. -/
def update (table : Table) (change : OutboxRow → OutboxRow)
    (keeps : ∀ row, (change row).id = row.id) : Table where
  rows := table.rows.map change
  distinct := by
    have sameIDs : (table.rows.map change).map OutboxRow.id = table.rows.map OutboxRow.id := by
      rw [List.map_map]
      exact List.map_congr_left fun row _ => keeps row
    rw [sameIDs]
    exact table.distinct

def statusOf (table : Table) (id : Nat) : Option OutboxStatus :=
  (table.rows.find? (·.id == id)).map OutboxRow.status

theorem eq_of_id {table : Table} {row other : OutboxRow} (member : row ∈ table.rows)
    (otherMember : other ∈ table.rows) (same : row.id = other.id) : row = other :=
  List.inj_on_of_nodup_map table.distinct member otherMember same

theorem statusOf_eq_some {table : Table} {id : Nat} {status : OutboxStatus} :
    table.statusOf id = some status ↔ ∃ row ∈ table.rows, row.id = id ∧ row.status = status := by
  unfold statusOf
  rw [Option.map_eq_some_iff]
  constructor
  · rintro ⟨row, found, isStatus⟩
    have named := List.find?_some found
    exact ⟨row, List.mem_of_find?_eq_some found, by simpa using named, isStatus⟩
  · rintro ⟨row, member, named, isStatus⟩
    have present : (table.rows.find? (·.id == id)).isSome := by
      rw [List.find?_isSome]
      exact ⟨row, member, by simpa using named⟩
    obtain ⟨other, found⟩ := Option.isSome_iff_exists.mp present
    have otherNamed : other.id = id := by simpa using List.find?_some found
    have same := eq_of_id (List.mem_of_find?_eq_some found) member (otherNamed.trans named.symm)
    exact ⟨other, found, by rw [same, isStatus]⟩

theorem statusOf_update {table : Table} {change : OutboxRow → OutboxRow}
    (keeps : ∀ row, (change row).id = row.id) {id : Nat} {status : OutboxStatus}
    (before : table.statusOf id = some status)
    (kept : ∀ row ∈ table.rows, row.id = id → row.status = status → (change row).status = status) :
    (table.update change keeps).statusOf id = some status := by
  obtain ⟨row, member, named, isStatus⟩ := statusOf_eq_some.mp before
  refine statusOf_eq_some.mpr ⟨change row, List.mem_map_of_mem member, ?_, ?_⟩
  · rw [keeps, named]
  · exact kept row member named isStatus

end Table

@[simp] theorem OutboxRow.recover_id (now cutoff : Time) (row : OutboxRow) :
    (row.recover now cutoff).id = row.id := by
  unfold OutboxRow.recover
  split <;> rfl

@[simp] theorem OutboxRow.lease_id (now : Time) (ids : List Nat) (row : OutboxRow) :
    (row.lease now ids).id = row.id := by
  unfold OutboxRow.lease
  split <;> rfl

section Lease

variable {now : Time} {limit : Int} {scan : List OutboxRow} {row : OutboxRow}

theorem mem_leasePendingOutbox (leased : row ∈ leasePendingOutbox now limit scan) :
    row ∈ scan ∧ row.status = .pending ∧ row.nextAttemptAt ≤ now := by
  have sorted := List.mem_of_mem_take leased
  rw [List.mem_insertionSort, List.mem_filter] at sorted
  obtain ⟨member, due⟩ := sorted
  rw [OutboxRow.due, Bool.and_eq_true, beq_iff_eq, decide_eq_true_eq] at due
  exact ⟨member, due⟩

theorem nodup_leasePendingOutbox (distinct : (scan.map OutboxRow.id).Nodup) :
    ((leasePendingOutbox now limit scan).map OutboxRow.id).Nodup := by
  have filtered : ((scan.filter (·.due now)).map OutboxRow.id).Nodup :=
    distinct.sublist (List.filter_sublist.map _)
  have sorted : (((scan.filter (·.due now)).insertionSort
      fun a b => a.nextAttemptAt ≤ b.nextAttemptAt).map OutboxRow.id).Nodup :=
    ((List.perm_insertionSort _ _).map _).nodup_iff.mpr filtered
  exact sorted.sublist ((List.take_sublist _ _).map _)

end Lease

end ElvishMail.Mailmeta
