import ElvishMail.Mailpipe.Pipe

/-!
# What an ingest leaves behind

Every ingest adds at most one listing row, under the id it draws. Whether it does
is decided by how its writes end: `Files` is success, and `Strands` is the case
in which the caller is told of an error although the row stays.
-/

namespace ElvishMail.Mailpipe

open Go Smtp Mailmeta Mailstore Semantics

/-- What the results below observe: the listing, the outbox and the last id. -/
def view (stores : Stores) : List MailboxRow × Table × Nat :=
  (stores.tables.mailbox, stores.outbox, stores.lastID)

def touchesListing : Write → Bool
  | .insertMailboxRow .. | .deleteMailboxRow .. => true
  | _ => false

section Frame

variable {outcome : Op → Outcome GoError} {stores : Stores} {write : Write}

theorem view_apply (write : Write) (stores : Stores) :
    view (stores.apply write) =
      ((write.onTables stores.tables).mailbox, stores.outbox, max stores.lastID write.lists) := rfl

theorem view_exec (elsewhere : touchesListing write = false) :
    view (stores.exec outcome write).2 = view stores := by
  apply Outcome.exec_holds (fun after => view after = view stores) _ rfl
  cases write with
  | insertMailboxRow row => cases elsewhere
  | deleteMailboxRow userID folder receivedAt messageID => cases elsewhere
  | _ =>
    exact congrArg (fun lastID => (stores.tables.mailbox, stores.outbox, lastID))
      (Nat.max_zero stores.lastID)

variable {rows : List MailboxRow} {row : MailboxRow} {outbox : Table} {lastID : Nat}

theorem view_exec_insert (outcome : Op → Outcome GoError) (row : MailboxRow)
    (before : view stores = (rows, outbox, lastID)) (id : row.messageID = lastID)
    (fresh : ∀ other ∈ rows, other.messageID < lastID) :
    view (stores.exec outcome (.insertMailboxRow row)).2 =
      (if (outcome .insertMailboxRow).applied then rows ++ [row] else rows, outbox, lastID) := by
  obtain ⟨rfl, rfl, rfl⟩ : stores.tables.mailbox = rows ∧ stores.outbox = outbox ∧
      stores.lastID = lastID := by simpa [view] using before
  have absent : ∀ other ∈ stores.tables.mailbox, other.key ≠ row.key := by
    intro other member same
    have sameID : other.messageID = row.messageID := congrArg (fun key => key.2.2.2) same
    have earlier := fresh other member
    omega
  by_cases applied : (outcome .insertMailboxRow).applied = true
  · simp [Stores.exec, Write.op, Outcome.exec, applied, view_apply, Write.onTables, Write.lists,
      Rows.upsert_of_absent absent, id]
  · simp [Stores.exec, Write.op, Outcome.exec, applied, view]

theorem view_exec_delete (outcome : Op → Outcome GoError)
    (before : view stores = (rows ++ [row], outbox, lastID))
    (id : row.messageID = lastID) (fresh : ∀ other ∈ rows, other.messageID < lastID) :
    view (stores.exec outcome
        (.deleteMailboxRow row.userID row.folder row.receivedAt row.messageID)).2 =
      (if (outcome .deleteMailboxRow).applied then rows else rows ++ [row], outbox, lastID) := by
  obtain ⟨mailbox, rfl, rfl⟩ : stores.tables.mailbox = rows ++ [row] ∧ stores.outbox = outbox ∧
      stores.lastID = lastID := by simpa [view] using before
  have absent : ∀ other ∈ rows, other.key ≠ row.key := by
    intro other member same
    have sameID : other.messageID = row.messageID := congrArg (fun key => key.2.2.2) same
    have earlier := fresh other member
    omega
  have removed : Rows.remove MailboxRow.key
      (row.userID, row.folder, row.receivedAt, row.messageID) (rows ++ [row]) = rows :=
    Rows.remove_append_of_absent absent
  by_cases applied : (outcome .deleteMailboxRow).applied = true
  · simp [Stores.exec, Write.op, Outcome.exec, applied, view_apply, Write.onTables, Write.lists,
      mailbox, removed]
  · simp [Stores.exec, Write.op, Outcome.exec, applied, before]

end Frame

section Persist

variable (pipe : Pipe) (conditions : Conditions) (package : Package)

def Conditions.fails (op : Op) : Bool := (conditions.outcome op).fails

/-- Whether the records of a message are all written after its manifest. -/
def records : Bool :=
  !conditions.fails .setOptInMetadata && !conditions.fails .appendIngestLedger &&
    !conditions.fails .ensureDefaultFolderRetention && package.userID ≠ 0 &&
    normalizeFolderName pipe.lib package.folder ≠ [] && !conditions.fails .upsertMessageLifecycle

/-- Whether `DeleteManifest` gets as far as deleting the listing row. -/
def unlists : Bool :=
  !conditions.fails .deleteManifestRow && (conditions.outcome .deleteMailboxRow).applied

/-- Whether `persist` gets as far as the listing row. -/
def reachesListing : Bool :=
  pipe.hasBlob && pipe.hasScylla && pipe.hasMeta && !conditions.fails .putBlob &&
    !conditions.fails .insertManifestRow

/-- `persist` succeeds. -/
def Files : Bool :=
  reachesListing pipe conditions && !conditions.fails .insertMailboxRow &&
    !conditions.fails .insertFlags && records pipe conditions package

/-- `persist` fails and the listing row stays: it was written by an `InsertManifest`
that failed, or its compensating delete did not happen. -/
def Strands : Bool :=
  reachesListing pipe conditions && (conditions.outcome .insertMailboxRow).applied &&
    (conditions.fails .insertMailboxRow || conditions.fails .insertFlags ||
      (!records pipe conditions package && !unlists conditions))

def listingRow (messageID : Nat) : MailboxRow where
  userID := package.userID
  folder := package.folder
  receivedAt := timestamp conditions.now
  messageID
  bodySizeBytes := package.bodyCiphertext.length
  provenance := package.provenance
  hasAttachments := package.headers.attachments.length > 0

/-- What `persist` adds to the listing. -/
def left (messageID : Nat) : List MailboxRow :=
  if Files pipe conditions package || Strands pipe conditions package then
    [listingRow conditions package messageID] else []

variable {pipe conditions package} {stores : Stores} {rows : List MailboxRow} {outbox : Table}
  {messageID : Nat}

theorem exec_frame {write : Write} {err : Option GoError} {after : Stores}
    (elsewhere : touchesListing write = false)
    (step : stores.exec conditions.outcome write = (err, after)) :
    view after = view stores ∧ conditions.fails write.op = err.isSome := by
  have same : view (stores.exec conditions.outcome write).2 = view stores := view_exec elsewhere
  have reported : (conditions.outcome write.op).error? = err := congrArg Prod.fst step
  rw [step] at same
  exact ⟨same, congrArg Option.isSome reported⟩

theorem insertManifest_spec {manifest : Manifest} (row : MailboxRow) {err : Option GoError}
    {after : Stores} (before : view stores = (rows, outbox, messageID))
    (fresh : ∀ other ∈ rows, other.messageID < messageID)
    (listed : row = ⟨manifest.userID, manifest.folder, timestamp manifest.createdAt, manifest.messageID,
      manifest.bodySizeBytes, manifest.provenance, manifest.hasAttachments⟩)
    (id : manifest.messageID = messageID)
    (result : insertManifest conditions.outcome manifest stores = (err, after)) :
    (err = none ↔ conditions.fails .insertManifestRow = false ∧
      conditions.fails .insertMailboxRow = false ∧ conditions.fails .insertFlags = false) ∧
      view after =
        (if !conditions.fails .insertManifestRow && (conditions.outcome .insertMailboxRow).applied then
          rows ++ [row] else rows, outbox, messageID) := by
  unfold insertManifest at result
  split at result
  next step =>
    obtain ⟨same, fails⟩ := exec_frame rfl step
    cases result
    have failed : conditions.fails .insertManifestRow = true := fails
    simp [failed, same, before]
  next step =>
  obtain ⟨same, reported⟩ := exec_frame rfl step
  have passed : conditions.fails .insertManifestRow = false := reported
  rw [← listed] at result
  have inserted := view_exec_insert conditions.outcome row (same.trans before) (by rw [listed, id])
    fresh
  split at result
  next insertion =>
    cases result
    have failed : conditions.fails .insertMailboxRow = true :=
      congrArg Option.isSome (congrArg Prod.fst insertion)
    rw [insertion] at inserted
    simp [passed, failed, inserted]
  next insertion =>
  have listedPassed : conditions.fails .insertMailboxRow = false :=
    congrArg Option.isSome (congrArg Prod.fst insertion)
  rw [insertion] at inserted
  split at result
  next step =>
    obtain ⟨same, fails⟩ := exec_frame rfl step
    cases result
    have failed : conditions.fails .insertFlags = true := fails
    simp [passed, failed, same, inserted]
  next step =>
  obtain ⟨same, reported⟩ := exec_frame rfl step
  cases result
  have flagsPassed : conditions.fails .insertFlags = false := reported
  simp [passed, listedPassed, flagsPassed, same, inserted]

theorem view_compensate
    (before : view stores = (rows ++ [listingRow conditions package messageID], outbox, messageID))
    (fresh : ∀ other ∈ rows, other.messageID < messageID) :
    view (Pipe.compensate conditions package messageID stores) =
      (if unlists conditions then rows else rows ++ [listingRow conditions package messageID],
        outbox, messageID) := by
  unfold Pipe.compensate
  rw [view_exec rfl, deleteManifest]
  split
  next err after step =>
    obtain ⟨same, fails⟩ := exec_frame rfl step
    simp [unlists, show conditions.fails .deleteManifestRow = true from fails, same, before]
  next after step =>
    obtain ⟨same, passes⟩ := exec_frame rfl step
    have deleted := view_exec_delete conditions.outcome (same.trans before) rfl fresh
    simpa [unlists, show conditions.fails .deleteManifestRow = false from passes, listingRow]
      using deleted

theorem view_compensateOptIn
    (before : view stores = (rows ++ [listingRow conditions package messageID], outbox, messageID))
    (fresh : ∀ other ∈ rows, other.messageID < messageID) :
    view (Pipe.compensateOptIn conditions package messageID stores) =
      (if unlists conditions then rows else rows ++ [listingRow conditions package messageID],
        outbox, messageID) := by
  apply view_compensate _ fresh
  rw [view_exec rfl, before]

theorem lifecycle_frame {row : MessageLifecycle} {err : Option GoError} {after : Stores}
    (step : upsertMessageLifecycle pipe.lib conditions.outcome row stores = (err, after))
    (id : row.messageID ≠ 0) :
    view after = view stores ∧
      (err = none ↔ row.userID ≠ 0 ∧ normalizeFolderName pipe.lib row.currentFolder ≠ [] ∧
        conditions.fails .upsertMessageLifecycle = false) := by
  unfold upsertMessageLifecycle at step
  by_cases user : row.userID = 0
  · rw [if_pos (.inl user)] at step
    cases step
    simp [user]
  · rw [if_neg (by simp [user, id])] at step
    by_cases folder : normalizeFolderName pipe.lib row.currentFolder = []
    · rw [if_pos folder] at step
      cases step
      simp [folder]
    · rw [if_neg folder] at step
      obtain ⟨same, reported⟩ := exec_frame rfl step
      have kind : conditions.fails .upsertMessageLifecycle = err.isSome := reported
      refine ⟨same, ?_⟩
      cases err <;> simp [user, folder, kind]

theorem lifecycle_of_records (written : records pipe conditions package = true) :
    package.userID ≠ 0 ∧ normalizeFolderName pipe.lib package.folder ≠ [] ∧
      conditions.fails .upsertMessageLifecycle = false := by
  simp only [records, Bool.and_eq_true, Bool.not_eq_true', decide_eq_true_eq] at written
  exact ⟨written.1.1.2, written.1.2, written.2⟩

theorem persistRecords_spec {err : Option GoError} {after : Stores}
    (before : view stores = (rows ++ [listingRow conditions package messageID], outbox, messageID))
    (fresh : ∀ other ∈ rows, other.messageID < messageID) (id : messageID ≠ 0)
    (result : pipe.persistRecords conditions package messageID stores = (err, after)) :
    (err = none ↔ records pipe conditions package = true) ∧
      view after =
        (if records pipe conditions package || !unlists conditions then
          rows ++ [listingRow conditions package messageID] else rows, outbox, messageID) := by
  have ends {err : GoError} {after : Stores} (missing : records pipe conditions package = false)
      (undone : view after =
        (if unlists conditions then rows else rows ++ [listingRow conditions package messageID],
          outbox, messageID)) :
      (some err = none ↔ records pipe conditions package = true) ∧
        view after =
          (if records pipe conditions package || !unlists conditions then
            rows ++ [listingRow conditions package messageID] else rows, outbox, messageID) := by
    rw [missing, undone]
    cases unlists conditions <;> simp
  -- The writes in order; the first that fails ends the function with the deletes.
  unfold Pipe.persistRecords at result
  dsimp only at result
  split at result
  next step =>
    obtain ⟨same, fails⟩ := exec_frame rfl step
    cases result
    have optIn : conditions.fails .setOptInMetadata = true := fails
    exact ends (by simp [records, optIn]) (view_compensate (same.trans before) fresh)
  next step =>
  obtain ⟨optInSame, optIn⟩ := exec_frame rfl step
  split at result
  next step =>
    obtain ⟨same, fails⟩ := exec_frame rfl step
    cases result
    have ledger : conditions.fails .appendIngestLedger = true := fails
    exact ends (by simp [records, ledger])
      (view_compensateOptIn (same.trans (optInSame.trans before)) fresh)
  next step =>
  obtain ⟨ledgerSame, ledger⟩ := exec_frame rfl step
  split at result
  next step =>
    obtain ⟨same, fails⟩ := exec_frame rfl step
    cases result
    have retention : conditions.fails .ensureDefaultFolderRetention = true := fails
    exact ends (by simp [records, retention])
      (view_compensateOptIn (same.trans (ledgerSame.trans (optInSame.trans before))) fresh)
  next step =>
  obtain ⟨retentionSame, retention⟩ := exec_frame rfl step
  have recorded := retentionSame.trans (ledgerSame.trans (optInSame.trans before))
  split at result
  next step =>
    obtain ⟨same, checked⟩ := lifecycle_frame step id
    cases result
    have missing : records pipe conditions package = false := by
      by_contra written
      rw [Bool.not_eq_false] at written
      cases checked.mpr (lifecycle_of_records written)
    exact ends missing (view_compensateOptIn (same.trans recorded) fresh)
  next step =>
  obtain ⟨same, checked⟩ := lifecycle_frame step id
  cases result
  obtain ⟨user, folder, lifecycle⟩ := checked.mp rfl
  have all : records pipe conditions package = true := by
    have optIn : conditions.fails .setOptInMetadata = false := optIn
    have ledger : conditions.fails .appendIngestLedger = false := ledger
    have retention : conditions.fails .ensureDefaultFolderRetention = false := retention
    simp only at user folder
    simp [records, optIn, ledger, retention, lifecycle, user, folder]
  simp [all, same.trans recorded]

theorem applied_of_passes {op : Op} (passes : conditions.fails op = false) :
    (conditions.outcome op).applied = true := by
  unfold Conditions.fails at passes
  cases ended : conditions.outcome op with
  | done => rfl
  | refused err => simp [ended, Outcome.fails, Outcome.error?] at passes
  | lost err => rfl

theorem ends_at_manifest (package : Package) (reached : reachesListing pipe conditions = true)
    (partly : (conditions.fails .insertMailboxRow || conditions.fails .insertFlags) = true) :
    Files pipe conditions package = false ∧
      Strands pipe conditions package = (conditions.outcome .insertMailboxRow).applied := by
  constructor
  · rw [Files]
    rcases Bool.or_eq_true_iff.mp partly with failed | failed <;> simp [failed]
  · simp [Strands, reached, partly]

theorem ends_at_records (package : Package) (reached : reachesListing pipe conditions = true)
    (mailbox : conditions.fails .insertMailboxRow = false)
    (flags : conditions.fails .insertFlags = false) :
    Files pipe conditions package = records pipe conditions package ∧
      Strands pipe conditions package =
        (!records pipe conditions package && !unlists conditions) := by
  constructor
  · simp [Files, reached, mailbox, flags]
  · simp [Strands, reached, mailbox, flags, applied_of_passes mailbox]

theorem persist_view {answer : Except GoError IngestResult} {after : Stores}
    (ready : (!pipe.hasBlob || !pipe.hasScylla || !pipe.hasMeta) = false)
    (result : pipe.persist conditions package stores = (answer, after)) :
    answer.isOk = Files pipe conditions package ∧
      view after =
        (stores.tables.mailbox ++ left pipe conditions package (stores.lastID + 1), stores.outbox,
          stores.lastID + 1) := by
  have fresh : ∀ other ∈ stores.tables.mailbox, other.messageID < stores.lastID + 1 :=
    fun other member => Nat.lt_succ_of_le (stores.drawn other member)
  have reaches : reachesListing pipe conditions =
      (!conditions.fails .putBlob && !conditions.fails .insertManifestRow) := by
    have dependencies : pipe.hasBlob = true ∧ pipe.hasScylla = true ∧ pipe.hasMeta = true := by
      simpa [and_assoc] using ready
    simp [reachesListing, dependencies]
  have before : view stores.draw = (stores.tables.mailbox, stores.outbox, stores.lastID + 1) := rfl
  unfold Pipe.persist at result
  rw [if_neg (by simp [ready])] at result
  dsimp only at result
  split at result
  next step =>
    obtain ⟨same, fails⟩ := exec_frame rfl step
    cases result
    have put : conditions.fails .putBlob = true := fails
    simp [left, Files, Strands, reaches, put, same, before, Except.isOk, Except.toBool]
  next step =>
  obtain ⟨same, reported⟩ := exec_frame rfl step
  have put : conditions.fails .putBlob = false := reported
  split at result
  next step =>
    obtain ⟨ended, listed⟩ := insertManifest_spec
      (listingRow conditions package (stores.lastID + 1)) (same.trans before) fresh rfl rfl step
    cases result
    rw [view_exec rfl, listed]
    cases manifest : conditions.fails .insertManifestRow with
    | true => simp [left, Files, Strands, reaches, manifest, Except.isOk, Except.toBool]
    | false =>
      have partly : (conditions.fails .insertMailboxRow || conditions.fails .insertFlags) = true := by
        by_contra neither
        rw [Bool.not_eq_true, Bool.or_eq_false_iff] at neither
        cases ended.mpr ⟨manifest, neither⟩
      have reached : reachesListing pipe conditions = true := by rw [reaches, put, manifest]; rfl
      obtain ⟨unfiled, stranded⟩ := ends_at_manifest package reached partly
      rw [left, unfiled, stranded]
      cases (conditions.outcome .insertMailboxRow).applied <;>
        simp [Except.isOk, Except.toBool]
  next step =>
  obtain ⟨ended, listed⟩ := insertManifest_spec
    (listingRow conditions package (stores.lastID + 1)) (same.trans before) fresh rfl rfl step
  obtain ⟨manifest, mailbox, flags⟩ := ended.mp rfl
  rw [manifest, applied_of_passes mailbox] at listed
  have reached : reachesListing pipe conditions = true := by rw [reaches, put, manifest]; rfl
  obtain ⟨filed, stranded⟩ := ends_at_records package reached mailbox flags
  split at result
  next step =>
    obtain ⟨ended, kept⟩ := persistRecords_spec listed fresh (Nat.succ_ne_zero _) step
    cases result
    have missing : records pipe conditions package = false := by simpa using ended
    rw [kept, left, filed, stranded, missing]
    cases unlists conditions <;> simp [Except.isOk, Except.toBool]
  next step =>
  obtain ⟨ended, kept⟩ := persistRecords_spec listed fresh (Nat.succ_ne_zero _) step
  cases result
  have recorded := ended.mp rfl
  rw [view_exec rfl, kept, left, filed, recorded]
  exact ⟨rfl, rfl⟩

end Persist

/-- From `before` to `after` the listing gains a row for each of these users, in
this order, under ids drawn in between; the outbox stays as it is. -/
structure Gains (before after : Stores) (users : List Nat) : Prop where
  listed : ∃ rows, after.tables.mailbox = before.tables.mailbox ++ rows ∧
    rows.map MailboxRow.userID = users ∧ ∀ row ∈ rows, before.lastID < row.messageID
  outbox : after.outbox = before.outbox
  later : before.lastID ≤ after.lastID

namespace Gains

variable {before middle after : Stores} {users others : List Nat} {since : Nat}

theorem refl (stores : Stores) : Gains stores stores [] where
  listed := ⟨[], (List.append_nil _).symm, rfl, by simp⟩
  outbox := rfl
  later := Nat.le_refl _

theorem trans (first : Gains before middle users) (second : Gains middle after others) :
    Gains before after (users ++ others) := by
  obtain ⟨rows, listed, named, new⟩ := first.listed
  obtain ⟨moreRows, moreListed, moreNamed, moreNew⟩ := second.listed
  refine ⟨⟨rows ++ moreRows, ?_, ?_, ?_⟩, second.outbox.trans first.outbox,
    first.later.trans second.later⟩
  · rw [moreListed, listed, List.append_assoc]
  · rw [List.map_append, named, moreNamed]
  · intro row member
    rcases List.mem_append.mp member with old | added
    · exact new row old
    · exact first.later.trans_lt (moreNew row added)

theorem copies (gains : Gains before after users) (past : since ≤ before.lastID) (userID : Nat) :
    after.copies since userID = before.copies since userID + users.count userID := by
  obtain ⟨rows, listed, named, new⟩ := gains.listed
  have counted : (rows.filter fun row => row.userID = userID ∧ since < row.messageID).length =
      users.count userID := by
    rw [← named, List.count, List.countP_map, List.countP_eq_length_filter]
    congr 1
    apply List.filter_congr
    intro row member
    have recent : since < row.messageID := past.trans_lt (new row member)
    simp [recent, Function.comp, beq_eq_decide]
  rw [Stores.copies, listed, List.filter_append, List.length_append, counted, Stores.copies]

end Gains

theorem copies_now (stores : Stores) (userID : Nat) : stores.copies stores.lastID userID = 0 := by
  rw [Stores.copies, List.length_eq_zero_iff, List.filter_eq_nil_iff]
  intro row member
  rw [decide_eq_true_eq]
  rintro ⟨-, recent⟩
  exact absurd (stores.drawn row member) (Nat.not_le_of_lt recent)

/-- How the ingest of an inbound message for one recipient ends. -/
inductive Verdict where
  | refused
  | dropped
  | filed (userID : Nat)
  | stranded (userID : Nat)
deriving DecidableEq

namespace Verdict

def accepts : Verdict → Bool
  | dropped | filed _ => true
  | refused | stranded _ => false

def listed : Verdict → List Nat
  | filed userID | stranded userID => [userID]
  | refused | dropped => []

theorem listed_eq_nil_of_accepts {verdict : Verdict} (accepts : verdict.accepts = true) :
    verdict.listed = [] ↔ verdict = .dropped := by
  cases verdict <;> simp_all [Verdict.accepts, Verdict.listed]

theorem listed_eq_nil_of_refuses {verdict : Verdict} (refuses : verdict.accepts = false) :
    verdict.listed = [] ↔ verdict = .refused := by
  cases verdict <;> simp_all [Verdict.accepts, Verdict.listed]

end Verdict

variable (pipe : Pipe) (conditions : Conditions)

def Intake.verdict : Except GoError Intake → Verdict
  | .error _ => .refused
  | .ok (.dropped _) => .dropped
  | .ok (.kept package) =>
    if Files pipe conditions package then .filed package.userID
    else if Strands pipe conditions package then .stranded package.userID
    else .refused

def Intake.keptFor : Except GoError Intake → Option Nat
  | .ok (.kept package) => some package.userID
  | .ok (.dropped _) | .error _ => none

variable {pipe conditions} {package : Package} {stores after : Stores}
  {answer : Except GoError IngestResult}

theorem Intake.listed_of_accepts {intake : Except GoError Intake}
    (accepts : (Intake.verdict pipe conditions intake).accepts = true) :
    (Intake.verdict pipe conditions intake).listed = (Intake.keptFor intake).toList := by
  unfold Intake.verdict at accepts ⊢
  split at accepts
  · cases accepts
  · rfl
  · split at accepts
    next filed => simp [filed, Verdict.listed, Intake.keptFor]
    · split at accepts <;> cases accepts

theorem persist_spec (result : pipe.persist conditions package stores = (answer, after)) :
    answer.isOk = Files pipe conditions package ∧
      Gains stores after (Intake.verdict pipe conditions (.ok (.kept package))).listed := by
  cases ready : !pipe.hasBlob || !pipe.hasScylla || !pipe.hasMeta with
  | true =>
    rw [Pipe.persist, if_pos ready] at result
    cases result
    have unreached : reachesListing pipe conditions = false := by
      have some_missing : pipe.hasBlob = false ∨ pipe.hasScylla = false ∨ pipe.hasMeta = false := by
        simpa [or_assoc] using ready
      rcases some_missing with missing | missing | missing <;> simp [reachesListing, missing]
    have unfiled : Files pipe conditions package = false := by simp [Files, unreached]
    have unstranded : Strands pipe conditions package = false := by simp [Strands, unreached]
    simp only [Intake.verdict, unfiled, unstranded]
    exact ⟨rfl, Gains.refl stores⟩
  | false =>
    obtain ⟨ended, seen⟩ := persist_view ready result
    have listed := congrArg Prod.fst seen
    have outbox := congrArg (fun view => view.2.1) seen
    have lastID := congrArg (fun view => view.2.2) seen
    refine ⟨ended, ⟨_, listed, ?_, ?_⟩, outbox, ?_⟩
    · cases filed : Files pipe conditions package <;>
        cases stranded : Strands pipe conditions package <;>
        simp [left, Intake.verdict, filed, stranded, Verdict.listed, listingRow]
    · intro row member
      have id : row.messageID = stores.lastID + 1 := by
        unfold left at member
        split at member
        · rw [List.mem_singleton.mp member]
          rfl
        · cases member
      omega
    · exact (Nat.le_succ _).trans_eq lastID.symm

theorem ingestExternal_spec {fromAddr recipient rawBody : GoString}
    (result : pipe.ingestExternal conditions fromAddr recipient rawBody stores = (answer, after)) :
    let verdict := Intake.verdict pipe conditions
      (pipe.externalIntake conditions fromAddr recipient rawBody)
    answer.isOk = verdict.accepts ∧ Gains stores after verdict.listed := by
  unfold Pipe.ingestExternal at result
  cases decided : pipe.externalIntake conditions fromAddr recipient rawBody with
  | error err =>
    rw [decided] at result
    cases result
    exact ⟨rfl, Gains.refl stores⟩
  | ok intake =>
    rw [decided] at result
    cases intake with
    | dropped userID =>
      cases result
      exact ⟨rfl, Gains.refl stores⟩
    | kept package =>
      obtain ⟨ended, gains⟩ := persist_spec result
      refine ⟨?_, gains⟩
      rw [ended]
      cases filed : Files pipe conditions package <;>
        cases stranded : Strands pipe conditions package <;>
        simp [Intake.verdict, filed, stranded, Verdict.accepts]

theorem bind_eq_ok {Error Value Result : Type} {first : Except Error Value}
    {next : Value → Except Error Result} {result : Result} (ok : (first >>= next) = .ok result) :
    ∃ value, first = .ok value ∧ next value = .ok result := by
  cases first with
  | error err => cases ok
  | ok value => exact ⟨value, rfl, ok⟩

theorem recipient_of_plaintextIntake {pipe : Pipe} {conditions : Conditions}
    {source fromAddr recipient rawBody : GoString} {rcpt : List GoString} {package : Package}
    (decided : pipe.plaintextIntake conditions source fromAddr recipient rcpt rawBody =
      .ok (.kept package)) :
    ∃ identity, pipe.recipientIdentity conditions recipient = .ok identity ∧
      package.userID = identity.userID := by
  obtain ⟨-, -, sized⟩ := bind_eq_ok decided
  obtain ⟨identity, found, resolved⟩ := bind_eq_ok sized
  refine ⟨identity, found, ?_⟩
  obtain ⟨decision, -, filtered⟩ := bind_eq_ok resolved
  dsimp only at filtered
  split at filtered
  · cases filtered
  · obtain ⟨body, -, materialized⟩ := bind_eq_ok filtered
    obtain ⟨header, -, packed⟩ := bind_eq_ok materialized
    cases packed
    rfl

theorem recipient_of_ciphertextIntake {pipe : Pipe} {conditions : Conditions}
    {fromAddr recipient rawBody : GoString} {package : Package}
    (decided : pipe.ciphertextIntake conditions fromAddr recipient rawBody = .ok (.kept package)) :
    ∃ identity, pipe.recipientIdentity conditions recipient = .ok identity ∧
      package.userID = identity.userID := by
  obtain ⟨identity, found, resolved⟩ := bind_eq_ok decided
  refine ⟨identity, found, ?_⟩
  obtain ⟨decision, -, filtered⟩ := bind_eq_ok resolved
  split at filtered
  · cases filtered
  · obtain ⟨header, -, packed⟩ := bind_eq_ok filtered
    cases packed
    rfl

theorem recipient_of_externalIntake {pipe : Pipe} {conditions : Conditions}
    {fromAddr recipient rawBody : GoString} {package : Package}
    (decided : pipe.externalIntake conditions fromAddr recipient rawBody = .ok (.kept package)) :
    ∃ identity, pipe.recipientIdentity conditions recipient = .ok identity ∧
      package.userID = identity.userID := by
  obtain ⟨-, -, sized⟩ := bind_eq_ok decided
  split at sized
  · exact recipient_of_ciphertextIntake sized
  · exact recipient_of_plaintextIntake sized

theorem recipient_of_listed {pipe : Pipe} {conditions : Conditions}
    {fromAddr recipient rawBody : GoString} {userID : Nat}
    (listed : userID ∈ (Intake.verdict pipe conditions
      (pipe.externalIntake conditions fromAddr recipient rawBody)).listed) :
    ∃ identity, pipe.recipientIdentity conditions recipient = .ok identity ∧
      identity.userID = userID := by
  unfold Intake.verdict at listed
  split at listed
  · cases listed
  · cases listed
  next package decided =>
  obtain ⟨identity, found, named⟩ := recipient_of_externalIntake decided
  refine ⟨identity, found, ?_⟩
  have same : userID = package.userID := by
    split at listed
    · exact List.mem_singleton.mp listed
    split at listed
    · exact List.mem_singleton.mp listed
    · cases listed
  rw [same, named]

section Client

variable {pipe : Pipe} {conditions : Conditions} {package : Package}
  {headerCiphertext rawCipher fromAddr : GoString} {rcpt : List GoString}

/-- What a client may have stored: a body that is recognised as ciphertext, and a header
that was validated. -/
structure FromClient (pipe : Pipe) (headerCiphertext rawCipher : GoString) (package : Package) :
    Prop where
  body : package.bodyCiphertext = rawCipher
  header : package.headerCiphertext = headerCiphertext
  ciphertext : Openpgp.sniff pipe.lib pipe.reader rawCipher ≠ .cleartext
  valid : pipe.validateHeaderCiphertext headerCiphertext = .ok ()

theorem clientSentIntake_ok {principalEmail : GoString}
    (decided : pipe.clientSentIntake conditions principalEmail headerCiphertext rawCipher fromAddr
      rcpt = .ok package) :
    package.folder = folderSent ∧ FromClient pipe headerCiphertext rawCipher package := by
  obtain ⟨-, -, sized⟩ := bind_eq_ok decided
  obtain ⟨sender, -, resolved⟩ := bind_eq_ok sized
  dsimp only at resolved
  split at resolved
  · cases resolved
  next ciphertext =>
    obtain ⟨⟨⟩, valid, packed⟩ := bind_eq_ok resolved
    cases packed
    exact ⟨rfl, rfl, rfl, ciphertext, valid⟩

theorem clientInboxIntake_ok {recipient : GoString}
    (decided : pipe.clientInboxIntake conditions recipient headerCiphertext rawCipher fromAddr rcpt =
      .ok package) :
    package.folder = folderInbox ∧ FromClient pipe headerCiphertext rawCipher package := by
  obtain ⟨-, -, sized⟩ := bind_eq_ok decided
  obtain ⟨identity, -, resolved⟩ := bind_eq_ok sized
  dsimp only at resolved
  split at resolved
  · cases resolved
  next ciphertext =>
    obtain ⟨⟨⟩, valid, packed⟩ := bind_eq_ok resolved
    cases packed
    exact ⟨rfl, rfl, rfl, ciphertext, valid⟩

end Client

end ElvishMail.Mailpipe
