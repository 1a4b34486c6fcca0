import ElvishMail.Mailpipe.Footprint

/-!
# What a failed ingest undoes

`persist` writes to three stores in turn and deletes again what it wrote when a
later write fails. The compensating deletes do not cover everything: once the
manifest row is written, a failure leaves rows behind even if every delete
succeeds.
-/

namespace ElvishMail.Mailpipe

open Go Smtp Mailmeta Mailstore Semantics

/-- No table knows a message drawn later, and no blob is stored for one. -/
structure Fresh (stores : Stores) : Prop where
  blobs : ∀ blob ∈ stores.tables.blobs, ∀ userID messageID, stores.lastID < messageID →
    blob.1 ≠ mailBodyKey userID messageID
  manifests : ∀ row ∈ stores.tables.manifests, row.messageID ≤ stores.lastID
  flags : ∀ row ∈ stores.tables.flags, row.messageID ≤ stores.lastID
  optIn : ∀ row ∈ stores.tables.optIn, row.messageID ≤ stores.lastID
  ledger : ∀ row ∈ stores.tables.ledger, row.messageID ≤ stores.lastID
  lifecycle : ∀ row ∈ stores.tables.lifecycle, row.messageID ≤ stores.lastID

/-- The kinds of writes `persist` issues after `InsertManifest`. -/
def recordKinds : List Op :=
  [.setOptInMetadata, .appendIngestLedger, .ensureDefaultFolderRetention, .upsertMessageLifecycle,
    .deleteOptInMetadata, .deleteManifestRow, .deleteMailboxRow, .deleteBlob]

/-- The kinds of writes `persist` issues after the blob. -/
def rowKinds : List Op :=
  [Op.insertManifestRow, .insertMailboxRow, .insertFlags, .appendEvent] ++ recordKinds

section Records

variable {pipe : Pipe} {conditions : Conditions} {package : Package} {messageID : Nat}
  {stores after : Stores} {err : Option GoError}

theorem compensate_issued :
    Issued recordKinds messageID stores
      (Pipe.compensate conditions package messageID stores) := by
  unfold Pipe.compensate deleteManifest
  refine .exec ?_ _ _ (by simp [recordKinds, Write.op]) trivial
  split
  next step => exact .single step (by simp [recordKinds, Write.op]) rfl
  next step =>
    exact .exec (.single step (by simp [recordKinds, Write.op]) rfl) _ _
      (by simp [recordKinds, Write.op]) rfl

theorem compensateOptIn_issued :
    Issued recordKinds messageID stores
      (Pipe.compensateOptIn conditions package messageID stores) :=
  Issued.trans (.exec .refl conditions.outcome _ (by simp [recordKinds, Write.op]) (by trivial))
    compensate_issued

theorem upsertMessageLifecycle_issued {lib : Library} {outcome : Op → Outcome GoError}
    {row : MessageLifecycle} (result : upsertMessageLifecycle lib outcome row stores = (err, after)) :
    Issued recordKinds row.messageID stores after := by
  unfold upsertMessageLifecycle at result
  split at result
  · cases result
    exact .refl
  · dsimp only at result
    split at result
    · cases result
      exact .refl
    · exact .single result (by simp [recordKinds, Write.op]) rfl

theorem persistRecords_issued
    (result : pipe.persistRecords conditions package messageID stores = (err, after)) :
    Issued recordKinds messageID stores after := by
  unfold Pipe.persistRecords at result
  dsimp only at result
  split at result
  next step =>
    cases result
    exact (Issued.single step (by simp [recordKinds, Write.op]) trivial).trans compensate_issued
  next step =>
  have optIn : Issued recordKinds messageID stores _ :=
    .single step (by simp [recordKinds, Write.op]) trivial
  split at result
  next step =>
    cases result
    exact (optIn.trans (.single step (by simp [recordKinds, Write.op]) trivial)).trans
      compensateOptIn_issued
  next step =>
  have ledger := optIn.trans (.single step (by simp [recordKinds, Write.op]) trivial)
  split at result
  next step =>
    cases result
    exact (ledger.trans (.single step (by simp [recordKinds, Write.op]) trivial)).trans
      compensateOptIn_issued
  next step =>
  have retention := ledger.trans (.single step (by simp [recordKinds, Write.op]) trivial)
  split at result
  next step =>
    cases result
    exact (retention.trans (upsertMessageLifecycle_issued step)).trans compensateOptIn_issued
  next step =>
    cases result
    exact retention.trans (upsertMessageLifecycle_issued step)

theorem flags_persistRecords
    (result : pipe.persistRecords conditions package messageID stores = (err, after)) :
    after.tables.flags = stores.tables.flags := by
  refine (persistRecords_issued result).keeps Tables.flags ?_
  intro write kind tables
  cases write <;> first | rfl | simp [recordKinds, Write.op] at kind

theorem insertManifest_issued {outcome : Op → Outcome GoError} {manifest : Manifest}
    {err : Option GoError} (result : insertManifest outcome manifest stores = (err, after)) :
    Issued rowKinds manifest.messageID stores after := by
  unfold insertManifest at result
  split at result
  next step =>
    cases result
    exact .single step (by simp [rowKinds, Write.op]) rfl
  next step =>
  have manifested : Issued rowKinds manifest.messageID stores _ :=
    .single step (by simp [rowKinds, Write.op]) rfl
  split at result
  next step =>
    cases result
    exact manifested.trans (.single step (by simp [rowKinds, Write.op]) rfl)
  next step =>
  have listed := manifested.trans (.single step (by simp [rowKinds, Write.op]) rfl)
  split at result <;> rename_i step <;> cases result <;>
    exact listed.trans (.single step (by simp [rowKinds, Write.op]) trivial)

theorem persist_issued {answer : Except GoError IngestResult}
    (result : pipe.persist conditions package stores = (answer, after)) :
    after = stores ∨ ∃ err stored,
      stores.draw.exec conditions.outcome
        (.putBlob (mailBodyKey package.userID (stores.lastID + 1)) package.bodyCiphertext) =
        (err, stored) ∧ Issued rowKinds (stores.lastID + 1) stored after := by
  unfold Pipe.persist at result
  split at result
  · cases result
    exact .inl rfl
  right
  dsimp only at result
  split at result
  next step =>
    cases result
    exact ⟨_, _, step, .refl⟩
  next step =>
  refine ⟨_, _, step, ?_⟩
  split at result
  next inserted =>
    cases result
    exact .exec (insertManifest_issued inserted) _ _ (by simp [rowKinds, recordKinds, Write.op]) trivial
  next inserted =>
  have manifested := insertManifest_issued inserted
  split at result
  next recorded =>
    cases result
    exact manifested.trans ((persistRecords_issued recorded).mono (List.subset_append_right ..))
  next recorded =>
    cases result
    exact .exec (manifested.trans
      ((persistRecords_issued recorded).mono (List.subset_append_right ..))) _ _
      (by simp [rowKinds, Write.op]) trivial

theorem persist_result {result : IngestResult}
    (stored : pipe.persist conditions package stores = (.ok result, after)) :
    result.userID = package.userID ∧ result.dropped = false ∧
      result.messageID = stores.lastID + 1 := by
  unfold Pipe.persist at stored
  split at stored
  · cases stored
  dsimp only at stored
  split at stored
  · cases stored
  split at stored
  · cases stored
  split at stored
  · cases stored
  cases stored
  exact ⟨rfl, rfl, rfl⟩

end Records

section Stays

variable {outcome : Op → Outcome GoError} {stores after : Stores} {manifest : Manifest}
  {err : Option GoError} {write : Write}

theorem exec_of_applied (applied : (outcome write.op).applied = true)
    (step : stores.exec outcome write = (err, after)) : after = stores.apply write := by
  have effect : (stores.exec outcome write).2 = stores.apply write := by
    simp [Stores.exec, Outcome.exec, applied]
  rwa [step] at effect

theorem exec_of_refused (refused : (outcome write.op).applied = false)
    (step : stores.exec outcome write = (err, after)) : after = stores := by
  have effect : (stores.exec outcome write).2 = stores := by
    simp [Stores.exec, Outcome.exec, refused]
  rwa [step] at effect

theorem exec_of_done (step : stores.exec outcome write = (none, after)) :
    after = stores.apply write := by
  have reported : (outcome write.op).error? = none := congrArg Prod.fst step
  exact exec_of_applied (Outcome.applied_of_error?_none reported) step

theorem insertManifest_of_refused (refused : (outcome .insertManifestRow).applied = false)
    (result : insertManifest outcome manifest stores = (err, after)) :
    after = stores ∧ err.isSome := by
  unfold insertManifest at result
  split at result
  next step =>
    cases result
    exact ⟨exec_of_refused refused step, rfl⟩
  next step =>
    have reported : (outcome .insertManifestRow).error? = none := congrArg Prod.fst step
    cases ended : outcome .insertManifestRow <;> rw [ended] at refused reported
    · cases refused
    · cases reported
    · cases refused

theorem manifest_stays (written : (outcome .insertManifestRow).applied = true)
    (result : insertManifest outcome manifest stores = (err, after)) :
    ∃ row ∈ after.tables.manifests, row.messageID = manifest.messageID := by
  unfold insertManifest at result
  generalize rowIs : ManifestRow.mk manifest.messageID manifest.userID manifest.folder
    manifest.bodyBlobRef manifest.bodySizeBytes manifest.headerCiphertext manifest.provenance
    manifest.source (timestamp manifest.createdAt) = row at result
  have inserted {reported : Option GoError} {next : Stores}
      (step : stores.exec outcome (.insertManifestRow row) = (reported, next)) :
      row ∈ next.tables.manifests := by
    rw [exec_of_applied written step]
    exact List.mem_append_right _ (List.mem_singleton_self row)
  have kept {stores next : Stores}
      (issued : Issued [.insertMailboxRow, .insertFlags] manifest.messageID stores next) :
      next.tables.manifests = stores.tables.manifests := by
    refine issued.keeps Tables.manifests ?_
    intro write kind tables
    cases write <;> first | rfl | simp [Write.op] at kind
  refine ⟨row, ?_, by rw [← rowIs]⟩
  split at result
  next step =>
    cases result
    exact inserted step
  next step =>
  have there := inserted step
  split at result
  next step =>
    cases result
    rwa [kept (.single step (by simp [Write.op]) rfl)]
  next step =>
  rw [← kept (.single step (by simp [Write.op]) rfl)] at there
  split at result <;> rename_i step <;> cases result <;>
    rwa [kept (.single step (by simp [Write.op]) trivial)]

theorem flags_written (result : insertManifest outcome manifest stores = (none, after)) :
    ∃ row ∈ after.tables.flags, row.messageID = manifest.messageID := by
  unfold insertManifest at result
  split at result
  · cases result
  split at result
  · cases result
  split at result
  · cases result
  next step =>
    cases result
    rw [exec_of_done step]
    exact ⟨_, List.mem_append_right _ (List.mem_singleton_self _), rfl⟩

end Stays

/-- Everything is as it was, but for retention defaults. -/
def Restored (before after : Stores) : Prop :=
  after.outbox = before.outbox ∧ ∃ retention, after.tables = { before.tables with retention }

/-- Every compensating delete succeeds. -/
def Conditions.Deletes (conditions : Conditions) : Prop :=
  ∀ op ∈ [Op.deleteBlob, .deleteManifestRow, .deleteMailboxRow, .deleteOptInMetadata],
    conditions.outcome op = .done

variable (pipe : Pipe) (conditions : Conditions) (package : Package)

/-- The law of `persist`: what returns an error has changed nothing. -/
def Compensated (stores : Stores) : Prop :=
  ∀ err after, pipe.persist conditions package stores = (.error err, after) → Restored stores after

/-- The failures that leave nothing: before the first write, at the blob, or at the
first of the three rows of `InsertManifest`, in each case without effect. -/
def FailsClean : Prop :=
  Files pipe conditions package = true ∨
    (!pipe.hasBlob || !pipe.hasScylla || !pipe.hasMeta) = true ∨
    (conditions.outcome .putBlob).applied = false ∨
    conditions.fails .putBlob = false ∧ (conditions.outcome .insertManifestRow).applied = false

/-- Something is stored for a message: its blob, its manifest or its flags. -/
def Remains (after : Stores) (userID messageID : Nat) : Prop :=
  (∃ blob ∈ after.tables.blobs, blob.1 = mailBodyKey userID messageID) ∨
    (∃ row ∈ after.tables.manifests, row.messageID = messageID) ∨
    ∃ row ∈ after.tables.flags, row.messageID = messageID

variable {pipe conditions package} {stores after : Stores} {err : GoError}

theorem not_remains_of_restored (fresh : Fresh stores) (restored : Restored stores after)
    {userID messageID : Nat} (later : stores.lastID < messageID) :
    ¬Remains after userID messageID := by
  obtain ⟨-, retention, tables⟩ := restored
  rw [Remains, tables]
  rintro (⟨blob, member, key⟩ | ⟨row, member, rfl⟩ | ⟨row, member, rfl⟩)
  · exact fresh.blobs blob member userID messageID later key
  · exact absurd (fresh.manifests row member) (Nat.not_le_of_lt later)
  · exact absurd (fresh.flags row member) (Nat.not_le_of_lt later)

theorem persist_remains (ready : (!pipe.hasBlob || !pipe.hasScylla || !pipe.hasMeta) = false)
    (stored : (conditions.outcome .putBlob).applied = true)
    (manifested : conditions.fails .putBlob = false →
      (conditions.outcome .insertManifestRow).applied = true)
    (result : pipe.persist conditions package stores = (.error err, after)) :
    Remains after package.userID (stores.lastID + 1) := by
  unfold Pipe.persist at result
  rw [if_neg (by simp [ready])] at result
  dsimp only at result
  split at result
  next step =>
    cases result
    rw [exec_of_applied stored step]
    exact .inl ⟨_, List.mem_append_right _ (List.mem_singleton_self _), rfl⟩
  next step =>
  have put : conditions.fails .putBlob = false := congrArg Option.isSome (congrArg Prod.fst step)
  split at result
  next inserted =>
    cases result
    obtain ⟨row, member, id⟩ := manifest_stays (manifested put) inserted
    refine .inr (.inl ⟨row, ?_, id⟩)
    exact Outcome.exec_holds (fun next : Stores => row ∈ next.tables.manifests) _ member member
  next inserted =>
  obtain ⟨row, member, id⟩ := flags_written inserted
  split at result
  next recorded =>
    cases result
    exact .inr (.inr ⟨row, by rwa [flags_persistRecords recorded], id⟩)
  · cases result

theorem persist_restored (fresh : Fresh stores) (deletes : conditions.Deletes)
    (early : (conditions.outcome .putBlob).applied = false ∨
      conditions.fails .putBlob = false ∧ (conditions.outcome .insertManifestRow).applied = false)
    (result : pipe.persist conditions package stores = (.error err, after)) :
    Restored stores after := by
  unfold Pipe.persist at result
  split at result
  · cases result
    exact ⟨rfl, _, rfl⟩
  dsimp only at result
  split at result
  next step =>
    cases result
    rcases early with refused | ⟨passed, -⟩
    · rw [exec_of_refused refused step]
      exact ⟨rfl, _, rfl⟩
    · have put : conditions.fails .putBlob = true := congrArg Option.isSome (congrArg Prod.fst step)
      rw [passed] at put
      cases put
  next step =>
  have put := exec_of_done step
  rcases early with refused | ⟨-, refused⟩
  · have failed : (conditions.outcome .putBlob).error? = none := congrArg Prod.fst step
    cases ended : conditions.outcome .putBlob <;> rw [ended] at refused failed
    · cases refused
    · cases failed
    · cases refused
  split at result
  next inserted =>
    obtain ⟨rfl, -⟩ := insertManifest_of_refused refused inserted
    cases result
    have deleted : conditions.outcome .deleteBlob = .done := deletes .deleteBlob (by simp)
    have absent : ∀ blob ∈ stores.tables.blobs,
        blob.1 ≠ mailBodyKey package.userID (stores.lastID + 1) :=
      fun blob member => fresh.blobs blob member _ _ (Nat.lt_succ_self _)
    have removed (blob : GoString × GoString)
        (key : blob.1 = mailBodyKey package.userID (stores.lastID + 1)) :
        Rows.remove Prod.fst blob.1 (Rows.upsert Prod.fst blob stores.tables.blobs) =
          stores.tables.blobs := by
      rw [← key] at absent
      rw [Rows.upsert_of_absent absent]
      exact Rows.remove_append_of_absent absent
    rw [Stores.exec, Write.op, deleted, put]
    exact ⟨rfl, stores.tables.retention, congrArg (fun blobs => { stores.tables with blobs })
      (removed (_, package.bodyCiphertext) rfl)⟩
  next inserted =>
    obtain ⟨-, failed⟩ := insertManifest_of_refused refused inserted
    cases failed

/-- With every delete successful, `persist` undoes what it did exactly when it
fails before its first row is written. -/
theorem persist_restores_iff (pipe : Pipe) (conditions : Conditions) (package : Package)
    (stores : Stores) (fresh : Fresh stores) (deletes : conditions.Deletes) :
    Compensated pipe conditions package stores ↔ FailsClean pipe conditions package := by
  constructor
  · intro law
    by_contra unclean
    unfold FailsClean at unclean
    push Not at unclean
    obtain ⟨unfiled, ready, stored, manifested⟩ := unclean
    rcases result : pipe.persist conditions package stores with ⟨answer, after⟩
    have ended := (persist_spec result).1
    cases answer with
    | ok value =>
      rw [← ended] at unfiled
      exact unfiled rfl
    | error err =>
      have remains := persist_remains (by simpa using ready) (by simpa using stored)
        (fun passes => by simpa using manifested passes) result
      exact not_remains_of_restored fresh (law err after result) (Nat.lt_succ_self _) remains
  · rintro (filed | missing | refused | refused) err after result
    · have ended := (persist_spec result).1
      rw [filed] at ended
      cases ended
    · rw [Pipe.persist, if_pos missing] at result
      cases result
      exact ⟨rfl, _, rfl⟩
    · exact persist_restored fresh deletes (.inl refused) result
    · exact persist_restored fresh deletes (.inr refused) result

/-- A message of the small installation, ready to be stored. -/
def samplePackage : Package where
  userID := 1
  folder := folderInbox
  bodyCiphertext := ascii "-----BEGIN PGP MESSAGE-----"
  headerCiphertext := ascii "-----BEGIN PGP MESSAGE-----"
  provenance := provenanceAlreadyEncrypted
  source := sourceSMTPInbound
  headers := {}
  fromAddr := ascii "eve@y"
  rcpt := [ascii "alice@x"]

theorem emptyStores_fresh : Fresh emptyStores := by
  constructor <;> intro _ member <;> cases member

theorem sampleConditions_deletes {down : Op}
    (other : down ∉ [Op.deleteBlob, .deleteManifestRow, .deleteMailboxRow, .deleteOptInMetadata]) :
    (sampleConditions (some down)).Deletes := by
  intro op member
  have different : op ≠ down := fun same => other (same ▸ member)
  simp [sampleConditions, different]

/-- When the manifest row is refused, the blob is deleted again and nothing stays. -/
theorem persist_restores_refused :
    Fresh emptyStores ∧ (sampleConditions (some .insertManifestRow)).Deletes ∧
    (samplePipe.persist (sampleConditions (some .insertManifestRow)) samplePackage
      emptyStores).1.isOk = false ∧
    ∀ err after, samplePipe.persist (sampleConditions (some .insertManifestRow)) samplePackage
      emptyStores = (.error err, after) → Restored emptyStores after := by
  have deletes : (sampleConditions (some .insertManifestRow)).Deletes :=
    sampleConditions_deletes (by decide)
  refine ⟨emptyStores_fresh, deletes, by decide, ?_⟩
  apply (persist_restores_iff samplePipe (sampleConditions (some .insertManifestRow)) samplePackage
    emptyStores emptyStores_fresh deletes).mpr
  exact .inr (.inr (.inr ⟨by decide, by decide⟩))

/-- When the retention defaults cannot be written, the ledger row and the flags of
the message stay, although every delete succeeds. -/
theorem persist_leaves_rows :
    (sampleConditions (some .ensureDefaultFolderRetention)).Deletes ∧
    Fresh emptyStores ∧
    (samplePipe.persist (sampleConditions (some .ensureDefaultFolderRetention)) samplePackage
      emptyStores).1.isOk = false ∧
    (samplePipe.persist (sampleConditions (some .ensureDefaultFolderRetention)) samplePackage
      emptyStores).2.tables =
      { ledger := [⟨1, 1, sourceSMTPInbound, provenanceAlreadyEncrypted, mailBodyKey 1 1⟩]
        flags := [{ userID := 1, messageID := 1, read := false }] } ∧
    ¬Restored emptyStores (samplePipe.persist
      (sampleConditions (some .ensureDefaultFolderRetention)) samplePackage emptyStores).2 := by
  have tables : (samplePipe.persist (sampleConditions (some .ensureDefaultFolderRetention))
      samplePackage emptyStores).2.tables =
      { ledger := [⟨1, 1, sourceSMTPInbound, provenanceAlreadyEncrypted, mailBodyKey 1 1⟩]
        flags := [{ userID := 1, messageID := 1, read := false }] } := by
    decide
  refine ⟨sampleConditions_deletes (by decide), emptyStores_fresh, by decide, tables, ?_⟩
  rintro ⟨-, retention, same⟩
  rw [tables] at same
  cases congrArg Tables.ledger same

end ElvishMail.Mailpipe
