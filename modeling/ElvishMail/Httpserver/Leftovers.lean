import ElvishMail.Httpserver.AccountDelete
import ElvishMail.Mailops.Agreement

/-!
# What a deleted account leaves behind

A purge that reports no error has deleted the blobs that ledger rows, payloads of the
outbox and protected links name, the manifests of ledger rows, the listing rows that
these name, and the partitions of the folders the user has. It does not look at the
staged copies of the outbox, and a message that was moved is listed under another time
than its manifest says, maybe in a folder that the user has no more.
-/

namespace ElvishMail.Httpserver

open Go Smtp Mailmeta Mailstore Mailpipe Mailops Semantics PurgeStatement

variable (backends : Backends) (userID : Nat)

def dropBlob (key : GoString) (premises : Premises) : Premises :=
  if trimSpace key = [] then premises else premises.withoutBlob (trimSpace key)

def dropLink (premises : Premises) (row : Maillinks.Row) : Premises :=
  (dropBlob row.blobRef premises).withoutLink row.token

/-- The manifest of a ledger row is deleted, if the user has it, with the row that it
names. -/
def dropRecords (row : IngestLedger) (premises : Premises) : Premises :=
  match premises.manifest row.messageID with
  | none => premises
  | some mf =>
    if mf.userID ≠ userID then premises
    else (premises.withoutManifest mf.messageID).withoutListing userID mf.folder mf.createdAt
      mf.messageID

def dropMessage (premises : Premises) (row : IngestLedger) : Premises :=
  dropRecords userID row (dropBlob row.bodyBlobRef premises)

def dropLinks (premises : Premises) : Premises :=
  if backends.hasLinks then (premises.links.filter (·.userID == userID)).foldl dropLink premises
  else premises

def ledgerRows (premises : Premises) : List IngestLedger :=
  if backends.hasMeta then premises.tables.ledger.filter (·.userID == userID) else []

def outboxRows (premises : Premises) : List OutboxRow :=
  if backends.hasMeta then premises.outbox.filter (·.userID == userID) else []

def dropPayloads (premises : Premises) : Premises :=
  (outboxRows backends userID premises).foldl (fun premises row => dropBlob row.payloadBlobRef premises)
    premises

def dropDomains (premises : Premises) : Premises :=
  if backends.hasMeta then
    ((premises.domains.filter (·.1 == userID)).map Prod.snd).foldl
      (fun premises domain => premises.withoutDomain userID domain) premises
  else premises

/-- The rows of the user in the mailbox tables are deleted, where they are looked for. -/
def dropMailbox (folders : Except GoError (List GoString)) (premises : Premises) : Premises :=
  if backends.hasScylla then
    (userMailboxFoldersForPurge backends folders).foldl
      (fun premises folder => premises.withoutPartition userID folder)
      (((premises.withoutFlags userID).withoutEvents userID).withoutOptIn userID)
  else premises

def purgedMail (folders : Except GoError (List GoString)) (premises : Premises) : Premises :=
  dropMailbox backends userID folders
    ((ledgerRows backends userID premises).foldl (dropMessage userID)
      (dropDomains backends userID (dropPayloads backends userID premises)))

def purged (folders : Except GoError (List GoString)) (premises : Premises) : Premises :=
  (purgedMail backends userID folders (dropLinks backends userID premises)).withoutUser userID

theorem performs_ask {statement : PurgeStatement} {change : Premises → Premises}
    {ending : statement.Answer → PurgeStatements (Option GoError)}
    (fine : ∀ premises, ending (statement.answer userID .done premises).1 = .done none ∧
      (statement.answer userID .done premises).2 = change premises)
    (failed : ∀ premises err,
      (∃ seen, ending (statement.answer userID (.refused err) premises).1 = .done (some seen)) ∧
        ∃ seen, ending (statement.answer userID (.lost err) premises).1 = .done (some seen)) :
    Program.Performs (answer userID) (.ask statement ending) change := by
  intro premises outcome
  cases outcome with
  | done =>
    rw [(fine premises).1]
    exact fun _ => (fine premises).2
  | refused err =>
    obtain ⟨seen, same⟩ := (failed premises err).1
    rw [same]
    exact nofun
  | lost err =>
    obtain ⟨seen, same⟩ := (failed premises err).2
    rw [same]
    exact nofun

theorem deleteBlobIfPresent_performs (key : GoString) :
    (deleteBlobIfPresent backends key).Performs (answer userID) (dropBlob key) := by
  unfold deleteBlobIfPresent dropBlob
  split
  · exact Program.performs_done
  · split
    · exact Program.performs_failed _
    · apply performs_ask userID
      · intro premises
        refine ⟨?_, rfl⟩
        simp only [answer, remove, Outcome.exec, Outcome.error?]
        split_ifs <;> rfl
      · exact fun _ _ => ⟨⟨_, rfl⟩, _, rfl⟩

theorem deleteProtectedLink_performs (row : Maillinks.Row) :
    (deleteProtectedLink backends row).Performs (answer userID) fun premises => dropLink premises row := by
  have unlinked : Program.Performs (answer userID) (.ask (.deleteLink row.token) .done)
      (·.withoutLink row.token) :=
    performs_ask userID (fun _ => ⟨rfl, rfl⟩) fun _ _ => ⟨⟨_, rfl⟩, _, rfl⟩
  exact (deleteBlobIfPresent_performs backends userID row.blobRef).check unlinked

theorem deleteUserProtectedLinks_performs :
    (deleteUserProtectedLinks backends).Performs (answer userID) (dropLinks backends userID) := by
  intro premises
  unfold deleteUserProtectedLinks dropLinks
  cases backends.hasLinks with
  | false => exact fun _ => rfl
  | true =>
    intro outcome
    rcases Outcome.read_cases outcome (premises.links.filter (·.userID == userID)) with same | ⟨err, same⟩
    · rw [answer, same]
      exact Program.performs_forEach (deleteProtectedLink_performs backends userID) _ premises
    · rw [answer, same]
      exact nofun

theorem deleteDomain_performs (domain : GoString) :
    (deleteDomain domain).Performs (answer userID) fun premises =>
      premises.withoutDomain userID domain := by
  apply performs_ask userID
  · intro premises
    refine ⟨?_, rfl⟩
    simp only [answer, remove, Outcome.exec, Outcome.error?]
    split_ifs <;> rfl
  · exact fun _ _ => ⟨⟨_, rfl⟩, _, rfl⟩

theorem deleteRecords_performs (row : IngestLedger) :
    Program.Performs (answer userID) (.ask (.selectManifest row.messageID) fun
      | .error err => .done (some err)
      | .ok none => .done none
      | .ok (some mf) =>
        if mf.userID ≠ userID then .done none
        else .check (.ask (.deleteManifestRow mf.messageID) .done)
          (.ask (.deleteMailboxRow mf.folder mf.createdAt mf.messageID) .done))
      (dropRecords userID row) := by
  intro premises outcome
  unfold dropRecords
  rcases Outcome.read_cases outcome (premises.manifest row.messageID) with same | ⟨err, same⟩
  · rw [answer, same]
    cases premises.manifest row.messageID with
    | none => exact fun _ => rfl
    | some mf =>
      dsimp only
      split
      · exact fun _ => rfl
      · have manifest : Program.Performs (answer userID) (.ask (.deleteManifestRow mf.messageID) .done)
            (·.withoutManifest mf.messageID) :=
          performs_ask userID (fun _ => ⟨rfl, rfl⟩) fun _ _ => ⟨⟨_, rfl⟩, _, rfl⟩
        have listing : Program.Performs (answer userID)
            (.ask (.deleteMailboxRow mf.folder mf.createdAt mf.messageID) .done)
            (·.withoutListing userID mf.folder mf.createdAt mf.messageID) :=
          performs_ask userID (fun _ => ⟨rfl, rfl⟩) fun _ _ => ⟨⟨_, rfl⟩, _, rfl⟩
        exact manifest.check listing premises
  · rw [answer, same]
    exact nofun

theorem deleteMessage_performs (row : IngestLedger) :
    (deleteMessage backends userID row).Performs (answer userID) fun premises =>
      dropMessage userID premises row :=
  (deleteBlobIfPresent_performs backends userID row.bodyBlobRef).check (deleteRecords_performs userID row)

theorem deleteUserMailboxData_performs (folders : Except GoError (List GoString))
    (rows : List IngestLedger) :
    (deleteUserMailboxData backends userID folders rows).Performs (answer userID) fun premises =>
      dropMailbox backends userID folders (rows.foldl (dropMessage userID) premises) := by
  unfold deleteUserMailboxData dropMailbox
  split
  · exact Program.performs_failed _
  · have messages := Program.performs_forEach (deleteMessage_performs backends userID) rows
    cases backends.hasScylla with
    | false => exact messages.check Program.performs_done
    | true =>
      have flags : Program.Performs (answer userID) (.ask .deleteUserFlags .done)
          (·.withoutFlags userID) :=
        performs_ask userID (fun _ => ⟨rfl, rfl⟩) fun _ _ => ⟨⟨_, rfl⟩, _, rfl⟩
      have events : Program.Performs (answer userID) (.ask .deleteUserEvents .done)
          (·.withoutEvents userID) :=
        performs_ask userID (fun _ => ⟨rfl, rfl⟩) fun _ _ => ⟨⟨_, rfl⟩, _, rfl⟩
      have optIn : Program.Performs (answer userID) (.ask .deleteUserOptInMetadata .done)
          (·.withoutOptIn userID) :=
        performs_ask userID (fun _ => ⟨rfl, rfl⟩) fun _ _ => ⟨⟨_, rfl⟩, _, rfl⟩
      have partition (folder : GoString) : Program.Performs (answer userID)
          (.ask (.deleteMailboxPartition folder) .done) (·.withoutPartition userID folder) :=
        performs_ask userID (fun _ => ⟨rfl, rfl⟩) fun _ _ => ⟨⟨_, rfl⟩, _, rfl⟩
      have partitions := Program.performs_forEach partition
        (userMailboxFoldersForPurge backends folders)
      exact messages.check (flags.check (events.check (optIn.check partitions)))

theorem deleteUserRow_performs :
    (deleteUserRow backends).Performs (answer userID) (·.withoutUser userID) := by
  have user {next : PurgeStatement.Answer .deleteUser → PurgeStatements (Option GoError)}
      (deleted : next none = .done none) (kept : ∀ failure, ∃ err, next (some failure) = .done (some err)) :
      Program.Performs (answer userID) (.ask .deleteUser next) (·.withoutUser userID) := by
    intro premises outcome
    have clean : (next none).Ensures (answer userID) (premises.withoutUser userID)
        fun err after => err = none → after = premises.withoutUser userID := by
      rw [deleted]
      exact fun _ => rfl
    have failed (failure) (state : Premises) : (next (some failure)).Ensures (answer userID) state
        fun err after => err = none → after = premises.withoutUser userID := by
      obtain ⟨err, same⟩ := kept failure
      rw [same]
      exact fun none => by cases none
    cases outcome with
    | done =>
      simp only [answer, remove, Outcome.exec, Outcome.error?]
      cases premises.users.contains userID with
      | true => exact clean
      | false => exact failed _ _
    | refused err => exact failed _ _
    | lost err => exact failed _ _
  have sessions : Program.Performs (answer userID) (.ask .deleteUserSessions .done) id :=
    performs_ask userID (fun _ => ⟨rfl, rfl⟩) fun _ _ => ⟨⟨_, rfl⟩, _, rfl⟩
  unfold deleteUserRow
  dsimp only
  split
  · exact sessions.check (user rfl fun failure => by cases failure <;> exact ⟨_, rfl⟩)
  · exact user rfl fun failure => by cases failure <;> exact ⟨_, rfl⟩

theorem listOwnedDomains_performs {next : PurgeStatements (Option GoError)}
    {later : Premises → Premises} (performs : next.Performs (answer userID) later) :
    Program.Performs (answer userID) (.ask .listOwnedDomains fun
      | .error err => .done (some err)
      | .ok domains => .check (.forEach deleteDomain domains) next) fun premises =>
        later (((premises.domains.filter (·.1 == userID)).map Prod.snd).foldl
          (fun premises domain => premises.withoutDomain userID domain) premises) := by
  intro premises outcome
  rcases Outcome.read_cases outcome ((premises.domains.filter (·.1 == userID)).map Prod.snd) with
    same | ⟨err, same⟩
  · rw [answer, same]
    exact (Program.performs_forEach (deleteDomain_performs userID) _).check performs premises
  · rw [answer, same]
    exact nofun

theorem purgeMail_performs (folders : Except GoError (List GoString)) :
    (purgeMail backends userID folders).Performs (answer userID) fun premises =>
      (purgedMail backends userID folders premises).withoutUser userID := by
  intro premises
  have finish (rows : List IngestLedger) :=
    (deleteUserMailboxData_performs backends userID folders rows).check
      (deleteUserRow_performs backends userID)
  unfold purgeMail purgedMail ledgerRows dropDomains dropPayloads outboxRows
  cases backends.hasMeta with
  | false => exact finish [] premises
  | true =>
    intro outcome
    rcases Outcome.read_cases outcome (premises.tables.ledger.filter (·.userID == userID)) with
      same | ⟨err, same⟩
    · rw [answer, same]
      intro outcome
      rcases Outcome.read_cases outcome (premises.outbox.filter (·.userID == userID)) with
        same | ⟨err, same⟩
      · rw [answer, same]
        have payloads := Program.performs_forEach
          (fun row : OutboxRow => deleteBlobIfPresent_performs backends userID row.payloadBlobRef)
          (premises.outbox.filter (·.userID == userID))
        exact payloads.check (listOwnedDomains_performs userID (finish _)) premises
      · rw [answer, same]
        exact nofun
    · rw [answer, same]
      exact nofun

theorem purge_performs (folders : Except GoError (List GoString)) :
    (purgeUserAccount backends userID folders).Performs (answer userID)
      (purged backends userID folders) := by
  have addresses : Program.Performs (answer userID) (.ask .listUserOwnedAddresses .done) id :=
    performs_ask userID (fun _ => ⟨rfl, rfl⟩) fun _ _ => ⟨⟨_, rfl⟩, _, rfl⟩
  have domains : Program.Performs (answer userID) (.ask .listUserOwnedDomains .done) id :=
    performs_ask userID (fun _ => ⟨rfl, rfl⟩) fun _ _ => ⟨⟨_, rfl⟩, _, rfl⟩
  have reserved : Program.Performs (answer userID) (.ask .reserveDeletedAddresses .done) id :=
    performs_ask userID (fun _ => ⟨rfl, rfl⟩) fun _ _ => ⟨⟨_, rfl⟩, _, rfl⟩
  exact addresses.check (domains.check (reserved.check
    ((deleteUserProtectedLinks_performs backends userID).check
      (purgeMail_performs backends userID folders))))

/-- The rows that the steps before the mailbox tables leave alone. -/
structure Untouched (before after : Premises) : Prop where
  manifests : after.tables.manifests = before.tables.manifests
  mailbox : after.tables.mailbox = before.tables.mailbox
  flags : after.tables.flags = before.tables.flags
  optIn : after.tables.optIn = before.tables.optIn
  events : after.tables.events = before.tables.events
  ledger : after.tables.ledger = before.tables.ledger
  outbox : after.outbox = before.outbox

namespace Untouched

variable {before middle after : Premises}

theorem refl : Untouched before before := ⟨rfl, rfl, rfl, rfl, rfl, rfl, rfl⟩

theorem trans (first : Untouched before middle) (second : Untouched middle after) :
    Untouched before after where
  manifests := second.manifests.trans first.manifests
  mailbox := second.mailbox.trans first.mailbox
  flags := second.flags.trans first.flags
  optIn := second.optIn.trans first.optIn
  events := second.events.trans first.events
  ledger := second.ledger.trans first.ledger
  outbox := second.outbox.trans first.outbox

theorem foldl {Item : Type} {step : Premises → Item → Premises}
    (each : ∀ premises item, Untouched premises (step premises item)) (items : List Item)
    (premises : Premises) : Untouched premises (items.foldl step premises) := by
  induction items generalizing premises with
  | nil => exact refl
  | cons item rest ih => exact (each premises item).trans (ih _)

theorem dropBlob (ref : GoString) (premises : Premises) :
    Untouched premises (dropBlob ref premises) := by
  unfold Httpserver.dropBlob
  split
  · exact refl
  · exact ⟨rfl, rfl, rfl, rfl, rfl, rfl, rfl⟩

theorem dropLinks (premises : Premises) : Untouched premises (dropLinks backends userID premises) := by
  unfold Httpserver.dropLinks
  split
  · apply foldl
    intro premises row
    exact (dropBlob row.blobRef premises).trans ⟨rfl, rfl, rfl, rfl, rfl, rfl, rfl⟩
  · exact refl

theorem dropPayloads (premises : Premises) :
    Untouched premises (dropPayloads backends userID premises) := by
  apply foldl
  intro premises row
  exact dropBlob row.payloadBlobRef premises

theorem dropDomains (premises : Premises) : Untouched premises (dropDomains backends userID premises) := by
  unfold Httpserver.dropDomains
  split
  · apply foldl
    intro premises domain
    exact ⟨rfl, rfl, rfl, rfl, rfl, rfl, rfl⟩
  · exact refl

end Untouched

/-- The stores when the first ledger row is looked at. -/
def prepared (premises : Premises) : Premises :=
  dropDomains backends userID (dropPayloads backends userID (dropLinks backends userID premises))

theorem prepared_untouched (premises : Premises) :
    Untouched premises (prepared backends userID premises) :=
  (Untouched.dropLinks backends userID premises).trans
    ((Untouched.dropPayloads backends userID _).trans (Untouched.dropDomains backends userID _))

theorem ledgerRows_dropLinks (premises : Premises) :
    ledgerRows backends userID (dropLinks backends userID premises) =
      ledgerRows backends userID premises := by
  rw [ledgerRows, (Untouched.dropLinks backends userID premises).ledger, ledgerRows]

theorem outboxRows_dropLinks (premises : Premises) :
    outboxRows backends userID (dropLinks backends userID premises) =
      outboxRows backends userID premises := by
  rw [outboxRows, (Untouched.dropLinks backends userID premises).outbox, outboxRows]

theorem purged_eq (folders : Except GoError (List GoString)) (premises : Premises) :
    purged backends userID folders premises =
      (dropMailbox backends userID folders ((ledgerRows backends userID premises).foldl
        (dropMessage userID) (prepared backends userID premises))).withoutUser userID := by
  rw [purged, purgedMail, ledgerRows_dropLinks, prepared]

def keepsBlob (ref : GoString) (entry : GoString × GoString) : Bool :=
  trimSpace ref = [] || decide (entry.1 ≠ trimSpace ref)

theorem dropBlob_blobs (ref : GoString) (premises : Premises) :
    (dropBlob ref premises).tables.blobs = premises.tables.blobs.filter (keepsBlob ref) := by
  unfold dropBlob keepsBlob
  split
  next empty => simp [empty]
  next some =>
    simp only [some, decide_false, Bool.false_or]
    rfl

theorem dropMessage_blobs (premises : Premises) (row : IngestLedger) :
    (dropMessage userID premises row).tables.blobs =
      premises.tables.blobs.filter (keepsBlob row.bodyBlobRef) := by
  rw [← dropBlob_blobs]
  unfold dropMessage dropRecords
  split
  · rfl
  · split <;> rfl

theorem dropMailbox_blobs (folders : Except GoError (List GoString)) (premises : Premises) :
    (dropMailbox backends userID folders premises).tables.blobs = premises.tables.blobs := by
  unfold dropMailbox
  split
  · exact Rows.foldl_same (fun (premises : Premises) folder => premises.withoutPartition userID folder)
      (fun premises => premises.tables.blobs) (fun _ _ => rfl) _ _
  · rfl

theorem dropDomains_blobs (premises : Premises) :
    (dropDomains backends userID premises).tables.blobs = premises.tables.blobs := by
  unfold dropDomains
  split
  · exact Rows.foldl_same (fun (premises : Premises) domain => premises.withoutDomain userID domain)
      (fun premises => premises.tables.blobs) (fun _ _ => rfl) _ _
  · rfl

def linkRefs (premises : Premises) : List GoString :=
  if backends.hasLinks then (premises.links.filter (·.userID == userID)).map Maillinks.Row.blobRef
  else []

def erasedRefs (premises : Premises) : List GoString :=
  linkRefs backends userID premises ++
    (outboxRows backends userID premises).map OutboxRow.payloadBlobRef ++
    (ledgerRows backends userID premises).map IngestLedger.bodyBlobRef

theorem dropLinks_blobs (premises : Premises) :
    (dropLinks backends userID premises).tables.blobs = premises.tables.blobs.filter fun entry =>
      (linkRefs backends userID premises).all fun ref => keepsBlob ref entry := by
  unfold dropLinks linkRefs
  split
  · rw [Rows.foldl_filter dropLink (fun premises : Premises => premises.tables.blobs)
      (fun row => keepsBlob row.blobRef) fun premises row => dropBlob_blobs row.blobRef premises]
    simp only [List.all_map, Function.comp_def]
  · simp

theorem dropPayloads_blobs (premises : Premises) :
    (dropPayloads backends userID premises).tables.blobs = premises.tables.blobs.filter fun entry =>
      ((outboxRows backends userID premises).map OutboxRow.payloadBlobRef).all fun ref =>
        keepsBlob ref entry := by
  rw [dropPayloads, Rows.foldl_filter (fun premises (row : OutboxRow) =>
    dropBlob row.payloadBlobRef premises) (fun premises => premises.tables.blobs)
    (fun row => keepsBlob row.payloadBlobRef) fun premises row =>
      dropBlob_blobs row.payloadBlobRef premises]
  simp only [List.all_map, Function.comp_def]

theorem purged_blobs (folders : Except GoError (List GoString)) (premises : Premises) :
    (purged backends userID folders premises).tables.blobs =
      premises.tables.blobs.filter fun entry =>
        (erasedRefs backends userID premises).all fun ref => keepsBlob ref entry := by
  rw [purged_eq]
  show (dropMailbox backends userID folders _).tables.blobs = _
  rw [dropMailbox_blobs, Rows.foldl_filter (dropMessage userID)
    (fun premises : Premises => premises.tables.blobs) (fun row => keepsBlob row.bodyBlobRef)
    (dropMessage_blobs userID), prepared, dropDomains_blobs, dropPayloads_blobs, dropLinks_blobs,
    outboxRows_dropLinks, List.filter_filter, List.filter_filter]
  congr 1
  funext entry
  simp only [erasedRefs, List.all_append, List.all_map, Function.comp_def]
  rw [Bool.and_comm, Bool.and_assoc]
  congr 1
  exact Bool.and_comm ..

def named (rows : List IngestLedger) (manifest : ManifestRow) : Bool :=
  rows.any fun row => row.messageID = manifest.messageID ∧ manifest.userID = userID

theorem manifest_iff (premises : Premises) {messageID : Nat} {manifest : ManifestRow} :
    premises.manifest messageID = some manifest ↔
      manifest ∈ premises.tables.manifests ∧ manifest.messageID = messageID := by
  constructor
  · intro found
    exact ⟨List.mem_of_find?_eq_some found, by simpa using List.find?_some found⟩
  · rintro ⟨member, rfl⟩
    cases found : premises.manifest manifest.messageID with
    | none =>
      have absent := List.find?_eq_none.mp found manifest member
      simp at absent
    | some other =>
      have held := List.mem_of_find?_eq_some found
      have same : other.messageID = manifest.messageID := by simpa using List.find?_some found
      rw [List.inj_on_of_nodup_map premises.keyed held member same]

theorem named_one {row : IngestLedger} {manifest : ManifestRow} :
    named userID [row] manifest = true ↔
      row.messageID = manifest.messageID ∧ manifest.userID = userID := by
  simp [named]

theorem named_cons {row : IngestLedger} {rest : List IngestLedger} {manifest : ManifestRow} :
    named userID (row :: rest) manifest = true ↔
      named userID [row] manifest = true ∨ named userID rest manifest = true := by
  simp [named]

theorem dropRecords_manifests (row : IngestLedger) (premises : Premises) :
    (dropRecords userID row premises).tables.manifests =
      premises.tables.manifests.filter fun manifest => !named userID [row] manifest := by
  have kept (none : ∀ manifest ∈ premises.tables.manifests, ¬named userID [row] manifest = true) :
      premises.tables.manifests =
        premises.tables.manifests.filter fun manifest => !named userID [row] manifest := by
    symm
    rw [List.filter_eq_self]
    intro manifest member
    simpa using none manifest member
  unfold dropRecords
  cases found : premises.manifest row.messageID with
  | none =>
    apply kept
    intro manifest member matched
    have present := (manifest_iff premises).mpr ⟨member, ((named_one userID).mp matched).1.symm⟩
    rw [found] at present
    cases present
  | some mf =>
    have only {manifest : ManifestRow} (member : manifest ∈ premises.tables.manifests)
        (same : row.messageID = manifest.messageID) : mf = manifest :=
      Option.some.inj (found.symm.trans ((manifest_iff premises).mpr ⟨member, same.symm⟩))
    have held := (manifest_iff premises).mp found
    dsimp only
    split
    next foreign =>
      apply kept
      intro manifest member matched
      obtain ⟨same, owned⟩ := (named_one userID).mp matched
      cases only member same
      exact foreign owned
    next own =>
      show Rows.remove ManifestRow.messageID mf.messageID premises.tables.manifests = _
      apply List.filter_congr
      intro manifest member
      have matched_iff : named userID [row] manifest = true ↔ manifest.messageID = mf.messageID := by
        rw [named_one]
        constructor
        · rintro ⟨same, _⟩
          rw [only member same]
        · intro same
          have equal : row.messageID = manifest.messageID := held.2.symm.trans same.symm
          cases only member equal
          exact ⟨equal, not_not.mp own⟩
      by_cases same : manifest.messageID = mf.messageID
      · simp [same, matched_iff.mpr same]
      · simp [same, Bool.eq_false_iff.mpr fun matched => same (matched_iff.mp matched)]

theorem dropRecords_mailbox (row : IngestLedger) (premises : Premises) {listed : MailboxRow} :
    listed ∈ (dropRecords userID row premises).tables.mailbox ↔
      listed ∈ premises.tables.mailbox ∧ ∀ manifest ∈ premises.tables.manifests,
        named userID [row] manifest = true →
          listed.key ≠ (userID, manifest.folder, manifest.createdAt, manifest.messageID) := by
  have found_iff {manifest : ManifestRow} : (manifest ∈ premises.tables.manifests ∧
      named userID [row] manifest = true) ↔
        premises.manifest row.messageID = some manifest ∧ manifest.userID = userID := by
    rw [manifest_iff, named_one]
    constructor
    · rintro ⟨member, same, owned⟩
      exact ⟨⟨member, same.symm⟩, owned⟩
    · rintro ⟨⟨member, same⟩, owned⟩
      exact ⟨member, same.symm, owned⟩
  unfold dropRecords
  cases found : premises.manifest row.messageID with
  | none =>
    refine ⟨fun member => ⟨member, ?_⟩, And.left⟩
    intro manifest held matched
    have present := found_iff.mp ⟨held, matched⟩
    rw [found] at present
    cases present.1
  | some mf =>
    dsimp only
    split
    next foreign =>
      refine ⟨fun member => ⟨member, ?_⟩, And.left⟩
      intro manifest held matched
      have present := found_iff.mp ⟨held, matched⟩
      rw [found] at present
      cases present.1
      exact absurd present.2 foreign
    next own =>
      have present := found_iff.mpr ⟨found, not_not.mp own⟩
      constructor
      · intro member
        obtain ⟨kept, different⟩ := List.mem_filter.mp member
        refine ⟨kept, ?_⟩
        intro manifest held matched
        have same := found_iff.mp ⟨held, matched⟩
        rw [found] at same
        cases same.1
        simpa using different
      · rintro ⟨member, apart⟩
        exact List.mem_filter.mpr ⟨member, by simpa using apart mf present.1 present.2⟩

theorem dropMessage_manifests (premises : Premises) (row : IngestLedger) :
    (dropMessage userID premises row).tables.manifests =
      premises.tables.manifests.filter fun manifest => !named userID [row] manifest := by
  rw [dropMessage, dropRecords_manifests, (Untouched.dropBlob row.bodyBlobRef premises).manifests]

theorem dropMessages_manifests (rows : List IngestLedger) (premises : Premises) {manifest : ManifestRow} :
    manifest ∈ (rows.foldl (dropMessage userID) premises).tables.manifests ↔
      manifest ∈ premises.tables.manifests ∧ ¬named userID rows manifest = true := by
  rw [Rows.foldl_filter (dropMessage userID) (fun premises => premises.tables.manifests)
    (fun row manifest => !named userID [row] manifest) (dropMessage_manifests userID), List.mem_filter]
  simp [named, imp_iff_not_or]

theorem dropMessages_mailbox (rows : List IngestLedger) (premises : Premises) {listed : MailboxRow} :
    listed ∈ (rows.foldl (dropMessage userID) premises).tables.mailbox ↔
      listed ∈ premises.tables.mailbox ∧ ∀ manifest ∈ premises.tables.manifests,
        named userID rows manifest = true →
          listed.key ≠ (userID, manifest.folder, manifest.createdAt, manifest.messageID) := by
  induction rows generalizing premises with
  | nil => simp [named]
  | cons row rest ih =>
    rw [List.foldl_cons, ih, dropMessage_manifests, dropMessage, dropRecords_mailbox,
      (Untouched.dropBlob row.bodyBlobRef premises).manifests,
      (Untouched.dropBlob row.bodyBlobRef premises).mailbox]
    constructor
    · rintro ⟨⟨member, first⟩, later⟩
      refine ⟨member, fun manifest held matched => ?_⟩
      by_cases now : named userID [row] manifest = true
      · exact first manifest held now
      · have onward := ((named_cons userID).mp matched).resolve_left now
        exact later manifest (List.mem_filter.mpr ⟨held, by simpa using now⟩) onward
    · rintro ⟨member, apart⟩
      refine ⟨⟨member, fun manifest held matched => ?_⟩, fun manifest held matched => ?_⟩
      · exact apart manifest held ((named_cons userID).mpr (.inl matched))
      · exact apart manifest (List.mem_filter.mp held).1 ((named_cons userID).mpr (.inr matched))

section Left

variable (folders : Except GoError (List GoString)) (premises : Premises)

theorem purged_manifests {manifest : ManifestRow} :
    manifest ∈ (purged backends userID folders premises).tables.manifests ↔
      manifest ∈ premises.tables.manifests ∧
        ¬named userID (ledgerRows backends userID premises) manifest = true := by
  have same (premises : Premises) : (dropMailbox backends userID folders premises).tables.manifests =
      premises.tables.manifests := by
    unfold dropMailbox
    split
    · exact Rows.foldl_same (fun (premises : Premises) folder => premises.withoutPartition userID folder)
        (fun premises => premises.tables.manifests) (fun _ _ => rfl) _ _
    · rfl
  rw [purged_eq]
  show manifest ∈ (dropMailbox backends userID folders _).tables.manifests ↔ _
  rw [same, dropMessages_manifests, (prepared_untouched backends userID premises).manifests]

def Swept (row : MailboxRow) : Prop :=
  backends.hasScylla = true ∧ row.userID = userID ∧
    row.folder ∈ userMailboxFoldersForPurge backends folders

theorem dropMailbox_mailbox {row : MailboxRow} :
    row ∈ (dropMailbox backends userID folders premises).tables.mailbox ↔
      row ∈ premises.tables.mailbox ∧ ¬Swept backends userID folders row := by
  unfold dropMailbox Swept
  cases backends.hasScylla with
  | false => simp
  | true =>
    rw [if_pos rfl, Rows.foldl_filter (fun (premises : Premises) folder =>
      premises.withoutPartition userID folder) (fun premises => premises.tables.mailbox)
      (fun folder row => !(row.userID == userID && row.folder == folder)) (fun _ _ => rfl),
      List.mem_filter]
    apply and_congr_right
    intro _
    simp only [List.all_eq_true, Bool.not_eq_true', Bool.and_eq_false_iff, beq_eq_false_iff_ne,
      true_and, not_and]
    constructor
    · intro apart own member
      exact (apart row.folder member).elim (absurd own) (absurd rfl)
    · intro outside folder member
      by_cases own : row.userID = userID
      · right
        rintro rfl
        exact outside own member
      · exact .inl own

theorem purged_mailbox {row : MailboxRow} :
    row ∈ (purged backends userID folders premises).tables.mailbox ↔
      (row ∈ premises.tables.mailbox ∧ ∀ manifest ∈ premises.tables.manifests,
        named userID (ledgerRows backends userID premises) manifest = true →
          row.key ≠ (userID, manifest.folder, manifest.createdAt, manifest.messageID)) ∧
        ¬Swept backends userID folders row := by
  rw [purged_eq]
  show row ∈ (dropMailbox backends userID folders _).tables.mailbox ↔ _
  rw [dropMailbox_mailbox, dropMessages_mailbox, (prepared_untouched backends userID premises).manifests,
    (prepared_untouched backends userID premises).mailbox]

def rest (premises : Premises) : List FlagsRow × List EventRow × List OptInRow :=
  (premises.tables.flags, premises.tables.events, premises.tables.optIn)

def restOfOthers (premises : Premises) : List FlagsRow × List EventRow × List OptInRow :=
  (premises.tables.flags.filter (·.userID != userID), premises.tables.events.filter (·.userID != userID),
    premises.tables.optIn.filter (·.userID != userID))

theorem rest_of_untouched {before after : Premises} (untouched : Untouched before after) :
    rest after = rest before := by
  rw [rest, untouched.flags, untouched.events, untouched.optIn, rest]

theorem dropMessage_rest (row : IngestLedger) : rest (dropMessage userID premises row) = rest premises := by
  rw [← rest_of_untouched (Untouched.dropBlob row.bodyBlobRef premises)]
  unfold dropMessage dropRecords
  split
  · rfl
  · split <;> rfl

theorem dropMailbox_rest :
    rest (dropMailbox backends userID folders premises) =
      if backends.hasScylla then restOfOthers userID premises else rest premises := by
  unfold dropMailbox
  split
  · exact Rows.foldl_same (fun (premises : Premises) folder => premises.withoutPartition userID folder)
      rest (fun _ _ => rfl) _ _
  · rfl

theorem purged_rest :
    rest (purged backends userID folders premises) =
      if backends.hasScylla then restOfOthers userID premises else rest premises := by
  have before := rest_of_untouched (prepared_untouched backends userID premises)
  have messages := Rows.foldl_same (dropMessage userID) rest (dropMessage_rest userID)
    (ledgerRows backends userID premises) (prepared backends userID premises)
  have same := messages.trans before
  rw [purged_eq]
  show rest (dropMailbox backends userID folders _) = _
  rw [dropMailbox_rest]
  split
  · simp only [rest, Prod.mk.injEq] at same
    rw [restOfOthers, same.1, same.2.1, same.2.2, restOfOthers]
  · exact same

end Left

/-- The blobs that ledger, outbox and protected links of a user name. -/
def references (premises : Premises) : List GoString :=
  (premises.tables.ledger.filter (·.userID == userID)).map IngestLedger.bodyBlobRef ++
    (premises.outbox.filter (·.userID == userID)).flatMap
      (fun row => [row.payloadBlobRef, row.sentCopyBodyBlobRef]) ++
    (premises.links.filter (·.userID == userID)).map Maillinks.Row.blobRef

/-- Nothing of the user is left. -/
structure Clean (before after : Premises) : Prop where
  blobs : ∀ key ∈ references userID before, ∀ entry ∈ after.tables.blobs, entry.1 ≠ key
  manifests : ∀ manifest ∈ after.tables.manifests, manifest.userID ≠ userID
  mailbox : ∀ row ∈ after.tables.mailbox, row.userID ≠ userID
  flags : ∀ row ∈ after.tables.flags, row.userID ≠ userID
  events : ∀ row ∈ after.tables.events, row.userID ≠ userID
  optIn : ∀ row ∈ after.tables.optIn, row.userID ≠ userID

/-- What a purge has to find so that nothing is left: a stored blob that the user names is
named, without blanks around, by a reference that the purge reads; a manifest has a
ledger row; a listing row is in a folder that it empties or where such a manifest says;
and other rows are in mailbox tables that the server has. -/
structure Covered (folders : Except GoError (List GoString)) (before : Premises) : Prop where
  blobs : ∀ key ∈ references userID before, (∃ entry ∈ before.tables.blobs, entry.1 = key) →
    key ≠ [] ∧ ∃ ref ∈ erasedRefs backends userID before, trimSpace ref = key
  manifests : ∀ manifest ∈ before.tables.manifests, manifest.userID = userID →
    ∃ row ∈ ledgerRows backends userID before, row.messageID = manifest.messageID
  mailbox : ∀ row ∈ before.tables.mailbox, row.userID = userID →
    backends.hasScylla = true ∧ row.folder ∈ userMailboxFoldersForPurge backends folders ∨
      ∃ manifest ∈ before.tables.manifests,
        named userID (ledgerRows backends userID before) manifest = true ∧
          row.key = (userID, manifest.folder, manifest.createdAt, manifest.messageID)
  rest : backends.hasScylla = false → rest before = restOfOthers userID before

theorem blobs_clean_iff (folders : Except GoError (List GoString)) (before : Premises) :
    (∀ key ∈ references userID before, ∀ entry ∈ (purged backends userID folders before).tables.blobs,
        entry.1 ≠ key) ↔
      ∀ key ∈ references userID before, (∃ entry ∈ before.tables.blobs, entry.1 = key) →
        key ≠ [] ∧ ∃ ref ∈ erasedRefs backends userID before, trimSpace ref = key := by
  rw [purged_blobs]
  apply forall₂_congr
  intro key _
  constructor
  · rintro gone ⟨entry, stored, rfl⟩
    by_contra spared
    refine gone entry (List.mem_filter.mpr ⟨stored, ?_⟩) rfl
    rw [List.all_eq_true]
    intro ref erased
    by_contra hit
    simp only [keepsBlob, Bool.or_eq_true, decide_eq_true_eq, not_or, ne_eq, not_not] at hit
    exact spared ⟨hit.2 ▸ hit.1, ref, erased, hit.2.symm⟩
  · rintro found entry kept rfl
    obtain ⟨stored, keeps⟩ := List.mem_filter.mp kept
    obtain ⟨some, ref, erased, same⟩ := found ⟨entry, stored, rfl⟩
    have hit := List.all_eq_true.mp keeps ref erased
    simp [keepsBlob, same, some] at hit

theorem manifests_clean_iff (folders : Except GoError (List GoString)) (before : Premises) :
    (∀ manifest ∈ (purged backends userID folders before).tables.manifests,
        manifest.userID ≠ userID) ↔
      ∀ manifest ∈ before.tables.manifests, manifest.userID = userID →
        ∃ row ∈ ledgerRows backends userID before, row.messageID = manifest.messageID := by
  constructor
  · intro gone manifest member own
    by_contra unnamed
    refine gone manifest ((purged_manifests ..).mpr ⟨member, fun matched => unnamed ?_⟩) own
    obtain ⟨row, held, same⟩ := List.any_eq_true.mp matched
    exact ⟨row, held, (of_decide_eq_true same).1⟩
  · intro found manifest left own
    obtain ⟨member, unnamed⟩ := (purged_manifests ..).mp left
    obtain ⟨row, held, same⟩ := found manifest member own
    exact unnamed (List.any_eq_true.mpr ⟨row, held, decide_eq_true ⟨same, own⟩⟩)

theorem mailbox_clean_iff (folders : Except GoError (List GoString)) (before : Premises) :
    (∀ row ∈ (purged backends userID folders before).tables.mailbox, row.userID ≠ userID) ↔
      ∀ row ∈ before.tables.mailbox, row.userID = userID →
        backends.hasScylla = true ∧ row.folder ∈ userMailboxFoldersForPurge backends folders ∨
          ∃ manifest ∈ before.tables.manifests,
            named userID (ledgerRows backends userID before) manifest = true ∧
              row.key = (userID, manifest.folder, manifest.createdAt, manifest.messageID) := by
  constructor
  · intro gone row member own
    by_contra missed
    obtain ⟨outside, unnamed⟩ := not_or.mp missed
    refine gone row ((purged_mailbox ..).mpr ⟨⟨member, fun manifest held matched same => ?_⟩, ?_⟩) own
    · exact unnamed ⟨manifest, held, matched, same⟩
    · exact fun swept => outside ⟨swept.1, swept.2.2⟩
  · intro found row left own
    obtain ⟨⟨member, apart⟩, unswept⟩ := (purged_mailbox ..).mp left
    rcases found row member own with ⟨scylla, inside⟩ | ⟨manifest, held, matched, same⟩
    · exact unswept ⟨scylla, own, inside⟩
    · exact apart manifest held matched same

theorem filter_others_iff {Row : Type} (owner : Row → Nat) (rows : List Row) :
    rows = rows.filter (owner · != userID) ↔ ∀ row ∈ rows, owner row ≠ userID := by
  rw [eq_comm, List.filter_eq_self]
  simp

theorem rest_clean_iff (folders : Except GoError (List GoString)) (before : Premises) :
    ((∀ row ∈ (purged backends userID folders before).tables.flags, row.userID ≠ userID) ∧
      (∀ row ∈ (purged backends userID folders before).tables.events, row.userID ≠ userID) ∧
      ∀ row ∈ (purged backends userID folders before).tables.optIn, row.userID ≠ userID) ↔
    (backends.hasScylla = false → rest before = restOfOthers userID before) := by
  have left := purged_rest backends userID folders before
  simp only [rest, restOfOthers] at left ⊢
  cases scylla : backends.hasScylla with
  | true =>
    rw [scylla, if_pos rfl, Prod.mk.injEq, Prod.mk.injEq] at left
    rw [left.1, left.2.1, left.2.2]
    simp
  | false =>
    rw [scylla, if_neg nofun, Prod.mk.injEq, Prod.mk.injEq] at left
    rw [left.1, left.2.1, left.2.2, Prod.mk.injEq, Prod.mk.injEq,
      filter_others_iff userID FlagsRow.userID, filter_others_iff userID EventRow.userID,
      filter_others_iff userID OptInRow.userID]
    exact ⟨fun none _ => none, fun none => none rfl⟩

theorem clean_iff (folders : Except GoError (List GoString)) (before : Premises) :
    Clean userID before (purged backends userID folders before) ↔
      Covered backends userID folders before := by
  constructor
  · rintro ⟨blobs, manifests, mailbox, flags, events, optIn⟩
    exact
      { blobs := (blobs_clean_iff ..).mp blobs
        manifests := (manifests_clean_iff ..).mp manifests
        mailbox := (mailbox_clean_iff ..).mp mailbox
        rest := (rest_clean_iff ..).mp ⟨flags, events, optIn⟩ }
  · rintro ⟨blobs, manifests, mailbox, others⟩
    obtain ⟨flags, events, optIn⟩ := (rest_clean_iff backends userID folders before).mpr others
    exact
      { blobs := (blobs_clean_iff ..).mpr blobs
        manifests := (manifests_clean_iff ..).mpr manifests
        mailbox := (mailbox_clean_iff ..).mpr mailbox
        flags
        events
        optIn }

/-- After a purge that reports no error nothing is left of the user exactly if it found
everything. -/
theorem purge_clean_iff (folders : Except GoError (List GoString)) (before : Premises)
    (env : Nat → Outcome GoError)
    (succeeds : ((purgeUserAccount backends userID folders).run (answer userID) env before).1 = none) :
    Clean userID before ((purgeUserAccount backends userID folders).run (answer userID) env before).2 ↔
      Covered backends userID folders before := by
  have left := (purge_performs backends userID folders before).run env succeeds
  rw [left]
  exact clean_iff backends userID folders before

def allBackends : Backends := ⟨true, true, true, true, true, .plain⟩

def receivedPremises : Premises where
  tables := (sampleStored samplePackage).tables
  outbox := []
  links := []
  domains := []
  users := [1]
  keyed := by decide

theorem received_purged :
    Clean 1 receivedPremises ((purgeUserAccount allBackends 1 (.ok [])).run (answer 1) (fun _ => .done)
      receivedPremises).2 := by
  apply (purge_clean_iff allBackends 1 (.ok []) receivedPremises (fun _ => .done) (by decide)).mpr
  exact
    { blobs := by decide
      manifests := by decide
      mailbox := by decide
      rest := nofun }

def moveToProjects : MoveCall := ⟨1, 1, ascii "projects", 7000, .ok [(1, ascii "projects")]⟩

def movedStores : Stores :=
  ((moveMessage sampleService moveToProjects).run Statement.answer (fun _ => .done)
    (sampleStored samplePackage)).2

/-- The same once the folder is deleted, and with it no message. -/
def movedPremises : Premises where
  tables := movedStores.tables
  outbox := []
  links := []
  domains := []
  users := [1]
  keyed := by decide

/-- The purge succeeds, and the message stays listed. -/
theorem moved_message_left :
    ((purgeUserAccount allBackends 1 (.ok [])).run (answer 1) (fun _ => .done) movedPremises).1 = none ∧
      ¬Clean 1 movedPremises ((purgeUserAccount allBackends 1 (.ok [])).run (answer 1)
        (fun _ => .done) movedPremises).2 := by
  refine ⟨by decide, fun clean => ?_⟩
  have listed : ∃ row ∈ ((purgeUserAccount allBackends 1 (.ok [])).run (answer 1) (fun _ => .done)
      movedPremises).2.tables.mailbox, row.userID = 1 := by
    decide
  obtain ⟨row, member, own⟩ := listed
  exact clean.mailbox row member own

end ElvishMail.Httpserver
