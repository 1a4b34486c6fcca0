import ElvishMail.Mailmeta.Registry
import ElvishMail.Mailstore.Tables

/-!
# Listing a mailbox

`ListMailbox` and `CountMailbox` of `internal/scyllastore/store.go`. A partition of
`messages_by_mailbox` holds the rows of one user and folder, newest first, and rows
received at the same time by descending id. A `timestamp` has milliseconds.
-/

namespace ElvishMail.Mailstore

open Go Smtp Mailmeta Semantics

namespace MailboxRow

def scanned (row : MailboxRow) : MailboxRow := { row with receivedAt := timestamp row.receivedAt }

/-- `CLUSTERING ORDER BY (received_at DESC, message_id DESC)`, where ids are compared by
their rank. -/
def Newer (rank : Nat → Nat) (row other : MailboxRow) : Prop :=
  other.receivedAt < row.receivedAt ∨
    row.receivedAt = other.receivedAt ∧ rank other.messageID ≤ rank row.messageID

variable {rank : Nat → Nat}

instance : DecidableRel (Newer rank) := fun row other =>
  inferInstanceAs (Decidable (other.receivedAt < row.receivedAt ∨
    row.receivedAt = other.receivedAt ∧ rank other.messageID ≤ rank row.messageID))

instance : Std.Total (Newer rank) where
  total row other := by
    rcases lt_trichotomy row.receivedAt other.receivedAt with older | same | newer
    · exact .inr (.inl older)
    · rcases le_total (rank row.messageID) (rank other.messageID) with below | above
      · exact .inr (.inr ⟨same.symm, below⟩)
      · exact .inl (.inr ⟨same, above⟩)
    · exact .inl (.inl newer)

instance : IsTrans MailboxRow (Newer rank) where
  trans row middle other := by
    rintro (newer | ⟨same, above⟩) (later | ⟨equal, below⟩)
    · exact .inl (later.trans newer)
    · exact .inl (equal ▸ newer)
    · exact .inl (same ▸ later)
    · exact .inr ⟨same.trans equal, below.trans above⟩

end MailboxRow

variable (rank : Nat → Nat) (tables : Tables) (userID : Nat) (folder : GoString)

/-- A partition of `messages_by_mailbox`. -/
def mailboxPartition : List MailboxRow :=
  ((tables.mailbox.filter fun row => row.userID = userID ∧ row.folder = folder).map
    MailboxRow.scanned).insertionSort (MailboxRow.Newer rank)

/-- The bound that `ListMailbox` works with. -/
def listLimit (limit : Int) : Nat := if limit ≤ 0 ∨ limit > 200 then 50 else limit.toNat

/-- `ListMailbox` returns up to `limit` rows, newest first. A zero time is no cutoff. -/
def listMailbox (before : Time) (limit : Int) : List MailboxRow :=
  let rows := mailboxPartition rank tables userID folder
  if before = zeroTime then rows.take (listLimit limit)
  else (rows.filter fun row => row.receivedAt < timestamp before).take (listLimit limit)

def countMailbox : Nat := (mailboxPartition rank tables userID folder).length

variable {rank tables userID folder}

theorem mem_mailboxPartition {row : MailboxRow} :
    row ∈ mailboxPartition rank tables userID folder ↔
      ∃ stored ∈ tables.mailbox, stored.userID = userID ∧ stored.folder = folder ∧
        stored.scanned = row := by
  rw [mailboxPartition, List.mem_insertionSort, List.mem_map]
  simp only [List.mem_filter, decide_eq_true_eq, and_assoc]

theorem mailboxPartition_newer :
    (mailboxPartition rank tables userID folder).Pairwise (MailboxRow.Newer rank) :=
  List.pairwise_insertionSort _ _

theorem mailboxPartition_descending :
    (mailboxPartition rank tables userID folder).Pairwise fun first later =>
      later.receivedAt ≤ first.receivedAt := by
  refine mailboxPartition_newer.imp ?_
  rintro first later (below | ⟨same, -⟩)
  · exact below.le
  · exact same.ge

theorem receivedAt_mailboxPartition {row : MailboxRow}
    (member : row ∈ mailboxPartition rank tables userID folder) :
    timestamp row.receivedAt = row.receivedAt := by
  obtain ⟨stored, -, -, -, rfl⟩ := mem_mailboxPartition.mp member
  exact timestamp_timestamp _

theorem listMailbox_of_empty (empty : mailboxPartition rank tables userID folder = [])
    (before : Time) (limit : Int) : listMailbox rank tables userID folder before limit = [] := by
  simp [listMailbox, empty]

theorem listLimit_of_le {limit : Nat} (positive : 0 < limit) (bounded : limit ≤ 200) :
    listLimit limit = limit := by
  unfold listLimit
  split <;> omega

end ElvishMail.Mailstore
