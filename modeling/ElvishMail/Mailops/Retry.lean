import ElvishMail.Mailops.Agreement

/-!
# Deleting again

`DeletePermanent` finds the other records of a message through its manifest, and
deletes the manifest first. Once that delete has taken effect, a second attempt
finds nothing and deletes nothing.
-/

namespace ElvishMail.Mailops

open Go Smtp Mailmeta Mailstore Mailpipe Semantics

def optInOf (tables : Tables) (userID messageID : Nat) : Option OptInRow :=
  Rows.find (fun row : OptInRow => (row.userID, row.messageID)) (userID, messageID) tables.optIn

def blobOf (tables : Tables) (key : GoString) : Option (GoString × GoString) :=
  Rows.find Prod.fst key tables.blobs

structure Held (tables : Tables) (userID messageID : Nat) (row : ManifestRow) : Prop where
  manifest : manifestOf tables messageID = some row
  owner : row.userID = userID
  blob : (blobOf tables row.bodyBlobRef).isSome

/-- Nothing of the message is left. -/
structure Gone (tables : Tables) (userID messageID : Nat) (bodyBlobRef : GoString) : Prop where
  manifest : manifestOf tables messageID = none
  listed : listing tables messageID = []
  flags : flagsOf tables userID messageID = none
  optIn : optInOf tables userID messageID = none
  lifecycle : lifecycleOf tables userID messageID = none
  blob : blobOf tables bodyBlobRef = none

def ListedAt (tables : Tables) (userID messageID : Nat) (place : Place) : Prop :=
  ∀ row ∈ listing tables messageID,
    row.key = (userID, place.folder, timestamp place.enteredAt, messageID)

instance (tables : Tables) (userID messageID : Nat) (place : Place) :
    Decidable (ListedAt tables userID messageID place) :=
  inferInstanceAs (Decidable (∀ row ∈ listing tables messageID, _))

def records (tables : Tables) : Tables := { tables with events := [] }

section Writes

variable {env : Nat → Outcome GoError} {stores : Stores} {writes : List Write}

theorem execAll_done (healthy : ∀ count < writes.length, (env count).error? = none) :
    (execAll writes).run Statement.answer env stores =
        (none, writes.foldl (fun stores write => stores.apply write) stores) ∧
      (execAll writes).asked Statement.answer env stores = writes.length := by
  induction writes generalizing env stores with
  | nil => exact ⟨rfl, rfl⟩
  | cons write rest ih =>
    have first : (env 0).error? = none := healthy 0 (Nat.zero_lt_succ _)
    have effect : Statement.answer (env 0) (.write write) stores = (none, stores.apply write) :=
      Prod.ext first (Outcome.exec_of_error?_none first)
    rw [execAll, Program.run_ask, Program.asked, effect, List.foldl_cons, List.length_cons]
    have onward := @ih (fun count => env (count + 1)) (stores.apply write)
      fun count below => healthy (count + 1) (Nat.succ_lt_succ below)
    exact ⟨onward.1, congrArg Nat.succ onward.2⟩

theorem execAll_failed (failure : ¬∀ count < writes.length, (env count).error? = none) :
    ∃ err, ((execAll writes).run Statement.answer env stores).1 = some err := by
  induction writes generalizing env stores with
  | nil => exact absurd (fun count below => absurd below (Nat.not_lt_zero count)) failure
  | cons write rest ih =>
    rw [execAll, Program.run_ask]
    cases first : (env 0).error? with
    | some err => exact ⟨err, by rw [Statement.answer, Outcome.exec, first]; rfl⟩
    | none =>
      have effect : Statement.answer (env 0) (.write write) stores =
          (none, stores.apply write) := Prod.ext first (Outcome.exec_of_error?_none first)
      rw [effect]
      refine ih fun later => failure ?_
      intro count below
      cases count with
      | zero => exact first
      | succ count => exact later count (Nat.lt_of_succ_lt_succ below)

theorem execAll_holds (Holds : Tables → Prop) (start : Holds stores.tables)
    (preserved : ∀ write ∈ writes, ∀ tables, Holds tables → Holds (write.onTables tables)) :
    Holds ((execAll writes).run Statement.answer env stores).2.tables := by
  induction writes generalizing env stores with
  | nil => exact start
  | cons write rest ih =>
    rw [execAll, Program.run_ask]
    have first : Holds (Statement.answer (env 0) (.write write) stores).2.tables :=
      Outcome.exec_holds (fun next : Stores => Holds next.tables) (env 0) start
        (preserved write List.mem_cons_self _ start)
    split
    · exact first
    · exact ih first fun other member =>
        preserved other (List.mem_cons_of_mem _ member)

end Writes

section Attempt

variable {env : Nat → Outcome GoError} {stores : Stores} {userID messageID : Nat} {now : Time}
  {row : ManifestRow} {place : Place}

theorem purge_run_done (healthy : ∀ count < 5, (env count).error? = none) :
    records ((purge userID messageID (scanned row) place now).run Statement.answer env stores).2.tables =
      records ((env 5).exec (Stores.apply (.deleteBlob row.bodyBlobRef))
        ((rowDeletes userID messageID place).foldl (fun stores write => stores.apply write)
          stores)).2.tables := by
  have deletes := @execAll_done env stores (rowDeletes userID messageID place) healthy
  rw [purge, Program.run_bind, deletes.1, deletes.2, Program.run_ask]
  dsimp only
  split
  · split
    · refine execBlindly_keeps records _ ?_
      simp [records, Write.onTables]
    · rfl
  · refine execBlindly_keeps records _ ?_
    simp [records, Write.onTables]

theorem purge_run_failed (failure : ¬∀ count < 5, (env count).error? = none) :
    ((purge userID messageID (scanned row) place now).run Statement.answer env stores).2 =
      ((execAll (rowDeletes userID messageID place)).run Statement.answer env stores).2 := by
  obtain ⟨err, failed⟩ := @execAll_failed env stores (rowDeletes userID messageID place) failure
  rw [purge, Program.run_bind, failed]
  rfl

theorem gone_congr {before after : Tables} {bodyBlobRef : GoString}
    (same : records after = records before) :
    Gone after userID messageID bodyBlobRef ↔ Gone before userID messageID bodyBlobRef := by
  have split (tables : Tables) : Gone (records tables) userID messageID bodyBlobRef ↔
      Gone tables userID messageID bodyBlobRef :=
    ⟨fun gone => ⟨gone.manifest, gone.listed, gone.flags, gone.optIn, gone.lifecycle, gone.blob⟩,
      fun gone => ⟨gone.manifest, gone.listed, gone.flags, gone.optIn, gone.lifecycle, gone.blob⟩⟩
  rw [← split after, same, split before]

theorem listing_rowDeletes :
    listing ((rowDeletes userID messageID place).foldl (fun stores write => stores.apply write)
      stores).tables messageID = [] ↔ ListedAt stores.tables userID messageID place := by
  have deleted : listing ((rowDeletes userID messageID place).foldl
      (fun stores write => stores.apply write) stores).tables messageID =
      Rows.remove MailboxRow.key (userID, place.folder, timestamp place.enteredAt, messageID)
        (listing stores.tables messageID) := listing_delete
  rw [deleted, Rows.remove, List.filter_eq_nil_iff]
  simp [ListedAt]

theorem purge_gone_iff (blob : (blobOf stores.tables row.bodyBlobRef).isSome) :
    Gone ((purge userID messageID (scanned row) place now).run Statement.answer env stores).2.tables
        userID messageID row.bodyBlobRef ↔
      (∀ count < 5, (env count).error? = none) ∧ (env 5).applied = true ∧
        ListedAt stores.tables userID messageID place := by
  by_cases healthy : ∀ count < 5, (env count).error? = none
  · rw [gone_congr (purge_run_done healthy), Outcome.exec, ← listing_rowDeletes]
    cases applied : (env 5).applied with
    | false =>
      refine iff_of_false (fun gone => ?_) fun conditions => Bool.false_ne_true conditions.2.1
      have there : blobOf stores.tables row.bodyBlobRef = none := gone.blob
      rw [there] at blob
      cases blob
    | true =>
      constructor
      · intro gone
        exact ⟨healthy, rfl, gone.listed⟩
      · intro conditions
        exact ⟨Rows.find_remove_self, conditions.2.2, Rows.find_remove_self, Rows.find_remove_self,
          Rows.find_remove_self, Rows.find_remove_self⟩
  · refine iff_of_false ?_ fun conditions => healthy conditions.1
    intro gone
    have kept : blobOf ((execAll (rowDeletes userID messageID place)).run Statement.answer env
        stores).2.tables row.bodyBlobRef = blobOf stores.tables row.bodyBlobRef := by
      refine execAll_holds (fun tables => blobOf tables row.bodyBlobRef =
        blobOf stores.tables row.bodyBlobRef) rfl ?_
      simp [rowDeletes, blobOf, Write.onTables]
    rw [purge_run_failed healthy] at gone
    rw [← kept, gone.blob] at blob
    cases blob

theorem purge_kept (kept : (env 0).applied = false) :
    ((purge userID messageID (scanned row) place now).run Statement.answer env stores).2 = stores := by
  have failure : ¬∀ count < 5, (env count).error? = none := by
    intro healthy
    have took := Outcome.applied_of_error?_none (healthy 0 (by decide))
    rw [kept] at took
    cases took
  rw [purge_run_failed failure, rowDeletes, execAll, Program.run_ask]
  cases ended : env 0 with
  | refused err => rfl
  | done =>
    rw [ended] at kept
    cases kept
  | lost err =>
    rw [ended] at kept
    cases kept

theorem purge_manifest (deleted : (env 0).applied = true) :
    manifestOf ((purge userID messageID (scanned row) place now).run Statement.answer env
      stores).2.tables messageID = none := by
  by_cases healthy : ∀ count < 5, (env count).error? = none
  · have same := congrArg (fun tables => manifestOf tables messageID)
      (@purge_run_done env stores userID messageID now row place healthy)
    have gone : manifestOf ((rowDeletes userID messageID place).foldl
        (fun stores write => stores.apply write) stores).tables messageID = none :=
      Rows.find_remove_self
    refine same.trans ?_
    exact Outcome.exec_holds (fun next : Stores => manifestOf (records next.tables) messageID = none)
      (env 5) gone gone
  · rw [purge_run_failed healthy, rowDeletes, execAll, Program.run_ask]
    have gone : manifestOf (Statement.answer (env 0) (.write (.deleteManifestRow messageID))
        stores).2.tables messageID = none := by
      rw [Statement.answer, Outcome.exec, deleted]
      exact Rows.find_remove_self
    split
    · exact gone
    · refine execAll_holds (fun tables => manifestOf tables messageID = none) gone ?_
      simp [manifestOf, Write.onTables]

end Attempt

section Retry

variable (service : Service) (stores : Stores) (userID messageID : Nat) (now : Time)
  (env : Nat → Outcome GoError)

def attempt : Stores :=
  ((deletePermanent service userID messageID now).run Statement.answer env stores).2

def Service.Ready : Prop := (!service.hasMeta || !service.hasScylla || !service.hasBlob) = false

/-- An attempt that leaves the manifest alone: it cannot be read, or not be deleted. -/
def Untouched : Prop := (env 0).error? ≠ none ∨ (env 2).applied = false

/-- An attempt in which nothing fails: neither the reading of the manifest nor a delete
of a row, and the blob is deleted. -/
def Complete : Prop :=
  (env 0).error? = none ∧ (∀ count < 5, (env (count + 2)).error? = none) ∧ (env 7).applied = true

/-- The first attempts after which a second one leaves nothing. -/
def Recoverable (row : ManifestRow) : Prop :=
  Untouched env ∧
      ListedAt stores.tables userID messageID
        (placeFound .done stores.tables userID messageID row) ∨
    Complete env ∧
      ListedAt stores.tables userID messageID
        (placeFound (env 1) stores.tables userID messageID row)

variable {service stores userID messageID now env} {row : ManifestRow}

theorem attempt_of_missing (missing : manifestOf stores.tables messageID = none) :
    attempt service stores userID messageID now env = stores := by
  rw [attempt, deletePermanent]
  split
  · rfl
  · rw [getManifest_run]
    cases found : manifestFound (env 0) stores.tables userID messageID with
    | error err => rfl
    | ok mf =>
      obtain ⟨row, stored, -⟩ := manifestFound_ok found
      rw [missing] at stored
      cases stored

theorem attempt_of_unread (failed : (env 0).error? ≠ none) :
    attempt service stores userID messageID now env = stores := by
  rw [attempt, deletePermanent]
  split
  · rfl
  · rw [getManifest_run]
    obtain ⟨err, reported⟩ := Option.ne_none_iff_exists'.mp failed
    have found : manifestFound (env 0) stores.tables userID messageID = .error err := by
      rw [manifestFound, Statement.read, reported]
    rw [found]
    rfl

theorem attempt_of_found (ready : service.Ready) (held : Held stores.tables userID messageID row)
    (read : (env 0).error? = none) :
    attempt service stores userID messageID now env =
      ((purge userID messageID (scanned row)
        (placeFound (env 1) stores.tables userID messageID row) now).run Statement.answer
        (fun count => env (count + 2)) stores).2 := by
  have found : manifestFound (env 0) stores.tables userID messageID = .ok (scanned row) := by
    rw [manifestFound, Statement.read, read, held.manifest]
    exact if_neg (not_not.mpr held.owner)
  rw [attempt, deletePermanent, if_neg (by rw [ready]; exact Bool.false_ne_true), getManifest_run,
    found]
  dsimp only
  rw [locate_run]

theorem healthy_attempt_iff (ready : service.Ready)
    (held : Held stores.tables userID messageID row) :
    Gone (attempt service stores userID messageID now fun _ => .done).tables userID messageID
        row.bodyBlobRef ↔
      ListedAt stores.tables userID messageID
        (placeFound .done stores.tables userID messageID row) := by
  rw [attempt_of_found ready held rfl, purge_gone_iff held.blob]
  simp [Outcome.error?, Outcome.applied]

end Retry

/-- A second attempt leaves nothing of a message exactly if the first one left the
manifest alone or did everything, and the message is listed where they look. -/
theorem delete_retry_iff (service : Service) (stores : Stores) (userID messageID : Nat)
    (row : ManifestRow) (first second : Time) (env : Nat → Outcome GoError) (ready : service.Ready)
    (held : Held stores.tables userID messageID row) :
    Gone (attempt service (attempt service stores userID messageID first env) userID messageID second
        fun _ => .done).tables userID messageID row.bodyBlobRef ↔
      Recoverable stores userID messageID env row := by
  by_cases read : (env 0).error? = none
  · rw [attempt_of_found ready held read]
    cases deleted : (env 2).applied with
    | false =>
      rw [purge_kept deleted, healthy_attempt_iff ready held]
      constructor
      · intro listed
        exact .inl ⟨.inr deleted, listed⟩
      · rintro (⟨-, listed⟩ | ⟨⟨-, healthy, -⟩, -⟩)
        · exact listed
        · have took := Outcome.applied_of_error?_none (healthy 0 (by decide))
          rw [deleted] at took
          cases took
    | true =>
      rw [attempt_of_missing (purge_manifest deleted), purge_gone_iff held.blob]
      constructor
      · rintro ⟨healthy, blob, listed⟩
        exact .inr ⟨⟨read, healthy, blob⟩, listed⟩
      · rintro (⟨unread | kept, -⟩ | ⟨⟨-, healthy, blob⟩, listed⟩)
        · exact absurd read unread
        · rw [deleted] at kept
          cases kept
        · exact ⟨healthy, blob, listed⟩
  · rw [attempt_of_unread read, healthy_attempt_iff ready held]
    constructor
    · intro listed
      exact .inl ⟨.inl read, listed⟩
    · rintro (⟨-, listed⟩ | ⟨complete, -⟩)
      · exact listed
      · exact absurd complete.1 read

/-- Statements of which one does not reach the store. -/
def failingAt (position count : Nat) : Outcome GoError :=
  if count = position then .refused (.plain (ascii "timeout")) else .done

def sampleManifest : ManifestRow where
  messageID := 1
  userID := 1
  folder := folderInbox
  bodyBlobRef := mailBodyKey 1 1
  bodySizeBytes := 27
  headerCiphertext := ascii "-----BEGIN PGP MESSAGE-----"
  provenance := provenanceAlreadyEncrypted
  source := sourceSMTPInbound
  createdAt := 0

theorem sample_held : Held (sampleStored samplePackage).tables 1 1 sampleManifest :=
  ⟨by decide, rfl, by decide⟩

/-- A delete of the manifest that fails is made good by the second attempt. -/
theorem delete_retry_manifest :
    Gone (attempt sampleService (attempt sampleService (sampleStored samplePackage) 1 1 5
      (failingAt 2)) 1 1 7 fun _ => .done).tables 1 1 (mailBodyKey 1 1) :=
  (delete_retry_iff sampleService (sampleStored samplePackage) 1 1 sampleManifest 5 7 (failingAt 2)
    rfl sample_held).mpr (.inl ⟨.inr rfl, by decide⟩)

/-- After a delete of the listing row that fails, the message stays listed, and its
flags, its metadata and its blob stay stored, whatever is tried again. -/
theorem delete_leaves_listing :
    ¬Gone (attempt sampleService (attempt sampleService (sampleStored samplePackage) 1 1 5
      (failingAt 3)) 1 1 7 fun _ => .done).tables 1 1 (mailBodyKey 1 1) ∧
    (listing (attempt sampleService (attempt sampleService (sampleStored samplePackage) 1 1 5
      (failingAt 3)) 1 1 7 fun _ => .done).tables 1).length = 1 ∧
    (blobOf (attempt sampleService (attempt sampleService (sampleStored samplePackage) 1 1 5
      (failingAt 3)) 1 1 7 fun _ => .done).tables (mailBodyKey 1 1)).isSome = true := by
  have stays : (listing (attempt sampleService (attempt sampleService (sampleStored samplePackage)
      1 1 5 (failingAt 3)) 1 1 7 fun _ => .done).tables 1).length = 1 := by
    decide
  refine ⟨?_, stays, by decide⟩
  intro gone
  rw [gone.listed] at stays
  cases stays

end ElvishMail.Mailops
