import ElvishMail.Mailmeta.Folders

/-!
# The mail stores

The tables an ingested message is written to: object storage
(`internal/blobstore`), the mailbox tables (`internal/scyllastore`) and the
relational ones (`internal/mailmeta`), with the single writes the code issues on
them. Columns that a database fills in from its own clock are left out. The times of
manifests and listing rows are values of type `timestamp`, to which the driver cuts them
as it binds them; those of the relational tables keep their microseconds.

Message ids are numbered in the order in which `uuid.New` returns them; a state
of the stores knows the last number drawn, and none of its rows has a later one.
-/

namespace ElvishMail.Mailstore

open Go Smtp Mailmeta Semantics

/-- A time as a `timestamp` keeps it, in milliseconds. -/
def timestamp (time : Time) : Time := time / 1000 * 1000

@[simp] theorem timestamp_timestamp (time : Time) : timestamp (timestamp time) = timestamp time :=
  congrArg (fun millis : Int => millis * 1000) (Int.mul_ediv_cancel (time / 1000) (by decide))

theorem timestamp_nonneg {time : Time} (late : 0 ≤ time) : 0 ≤ timestamp time :=
  Int.mul_nonneg (Int.ediv_nonneg late (by decide)) (by decide)

/-- `Manifest` as `InsertManifest` receives it. -/
structure Manifest where
  messageID : Nat
  userID : Nat
  folder : GoString
  bodyBlobRef : GoString
  bodySizeBytes : Int
  headerCiphertext : GoString
  provenance : GoString
  source : GoString
  hasAttachments : Bool
  createdAt : Time
deriving DecidableEq

/-- A row of `message_manifest_by_id`, which has no column for attachments. -/
structure ManifestRow where
  messageID : Nat
  userID : Nat
  folder : GoString
  bodyBlobRef : GoString
  bodySizeBytes : Int
  headerCiphertext : GoString
  provenance : GoString
  source : GoString
  createdAt : Time
deriving DecidableEq

namespace ManifestRow

/-- A row of which only the key is set: the other columns read as their zero values. -/
def unset (messageID : Nat) : ManifestRow where
  messageID
  userID := 0
  folder := []
  bodyBlobRef := []
  bodySizeBytes := 0
  headerCiphertext := []
  provenance := []
  source := []
  createdAt := 0

def refiled (row : ManifestRow) (folder : GoString) : ManifestRow := { row with folder }

end ManifestRow

/-- A row of `messages_by_mailbox`, by which a folder is listed. -/
structure MailboxRow where
  userID : Nat
  folder : GoString
  receivedAt : Time
  messageID : Nat
  bodySizeBytes : Int
  provenance : GoString
  hasAttachments : Bool
deriving DecidableEq

/-- The primary key of `messages_by_mailbox`. -/
def MailboxRow.key (row : MailboxRow) : Nat × GoString × Time × Nat :=
  (row.userID, row.folder, row.receivedAt, row.messageID)

/-- A row of `message_flags_by_user`. -/
structure FlagsRow where
  userID : Nat
  messageID : Nat
  read : Bool
  starred : Bool := false
  deleted : Bool := false
  archived : Bool := false
  labels : List GoString := []
deriving DecidableEq

/-- A row of `opt_in_metadata_by_user`. -/
structure OptInRow where
  userID : Nat
  messageID : Nat
  subject : GoString
  fromAddr : GoString
  toAddrs : List GoString
  sentAt : Option Time
  threadID : GoString
  flagsSummary : GoString := []
deriving DecidableEq

/-- A row of `message_events_by_user`. -/
structure EventRow where
  userID : Nat
  eventAt : Time
  kind : GoString
  messageID : Nat
  detail : GoString
deriving DecidableEq

/-- `MailBodyKey`, the object-storage key of a message body. -/
def mailBodyKey (userID messageID : Nat) : GoString :=
  ascii "mail/" ++ itoa userID ++ ascii "/" ++ itoa messageID ++ ascii "/body.enc"

structure Tables where
  blobs : List (GoString × GoString) := []
  manifests : List ManifestRow := []
  mailbox : List MailboxRow := []
  flags : List FlagsRow := []
  optIn : List OptInRow := []
  events : List EventRow := []
  ledger : List IngestLedger := []
  retention : List FolderRetention := []
  lifecycle : List MessageLifecycle := []
deriving DecidableEq

/-- The writes of the ingest and mailbox code, each of which fails or succeeds as a whole.
`EnsureDefaultFolderRetention` is one transaction. -/
inductive Write where
  | putBlob (key body : GoString)
  | deleteBlob (key : GoString)
  | insertManifestRow (row : ManifestRow)
  | insertMailboxRow (row : MailboxRow)
  | insertFlags (row : FlagsRow)
  | deleteManifestRow (messageID : Nat)
  | deleteMailboxRow (userID : Nat) (folder : GoString) (receivedAt : Time) (messageID : Nat)
  | setOptInMetadata (row : OptInRow)
  | deleteOptInMetadata (userID messageID : Nat)
  | appendIngestLedger (row : IngestLedger)
  | ensureDefaultFolderRetention (userID : Nat)
  | upsertMessageLifecycle (row : MessageLifecycle)
  | appendEvent (row : EventRow)
  | updateManifestFolder (messageID : Nat) (folder : GoString)
  | deleteFlags (userID messageID : Nat)
  | deleteMessageLifecycle (userID messageID : Nat)
deriving DecidableEq

inductive Op where
  | putBlob
  | deleteBlob
  | insertManifestRow
  | insertMailboxRow
  | insertFlags
  | deleteManifestRow
  | deleteMailboxRow
  | setOptInMetadata
  | deleteOptInMetadata
  | appendIngestLedger
  | ensureDefaultFolderRetention
  | upsertMessageLifecycle
  | appendEvent
  | updateManifestFolder
  | deleteFlags
  | deleteMessageLifecycle
deriving DecidableEq

namespace Write

def op : Write → Op
  | putBlob .. => .putBlob
  | deleteBlob .. => .deleteBlob
  | insertManifestRow .. => .insertManifestRow
  | insertMailboxRow .. => .insertMailboxRow
  | insertFlags .. => .insertFlags
  | deleteManifestRow .. => .deleteManifestRow
  | deleteMailboxRow .. => .deleteMailboxRow
  | setOptInMetadata .. => .setOptInMetadata
  | deleteOptInMetadata .. => .deleteOptInMetadata
  | appendIngestLedger .. => .appendIngestLedger
  | ensureDefaultFolderRetention .. => .ensureDefaultFolderRetention
  | upsertMessageLifecycle .. => .upsertMessageLifecycle
  | appendEvent .. => .appendEvent
  | updateManifestFolder .. => .updateManifestFolder
  | deleteFlags .. => .deleteFlags
  | deleteMessageLifecycle .. => .deleteMessageLifecycle

/-- What a write does. An `INSERT` into a mailbox table replaces a row with the
same key, and an `UPDATE` of a row that is not there writes one. -/
def onTables (tables : Tables) : Write → Tables
  | putBlob key body => { tables with blobs := Rows.upsert Prod.fst (key, body) tables.blobs }
  | deleteBlob key => { tables with blobs := Rows.remove Prod.fst key tables.blobs }
  | insertManifestRow row =>
    { tables with manifests := Rows.upsert ManifestRow.messageID row tables.manifests }
  | insertMailboxRow row => { tables with mailbox := Rows.upsert MailboxRow.key row tables.mailbox }
  | insertFlags row =>
    { tables with
      flags := Rows.upsert (fun row : FlagsRow => (row.userID, row.messageID)) row tables.flags }
  | deleteManifestRow messageID =>
    { tables with manifests := Rows.remove ManifestRow.messageID messageID tables.manifests }
  | deleteMailboxRow userID folder receivedAt messageID =>
    { tables with
      mailbox := Rows.remove MailboxRow.key (userID, folder, receivedAt, messageID) tables.mailbox }
  | setOptInMetadata row =>
    { tables with
      optIn := Rows.upsert (fun row : OptInRow => (row.userID, row.messageID)) row tables.optIn }
  | deleteOptInMetadata userID messageID =>
    { tables with
      optIn := Rows.remove (fun row : OptInRow => (row.userID, row.messageID)) (userID, messageID)
        tables.optIn }
  | appendIngestLedger row => { tables with ledger := tables.ledger ++ [row] }
  | ensureDefaultFolderRetention userID =>
    { tables with
      retention := defaultFolderRetention.foldl
        (fun rows entry =>
          Rows.insertNew (fun row : FolderRetention => (row.userID, row.folder))
            ⟨userID, entry.1, entry.2⟩ rows) tables.retention }
  | upsertMessageLifecycle row =>
    { tables with
      lifecycle := Rows.upsert (fun row : MessageLifecycle => (row.userID, row.messageID)) row
        tables.lifecycle }
  | appendEvent row => { tables with events := tables.events ++ [row] }
  | updateManifestFolder messageID folder =>
    { tables with
      manifests := Rows.upsert ManifestRow.messageID
        (((Rows.find ManifestRow.messageID messageID tables.manifests).getD
          (.unset messageID)).refiled folder) tables.manifests }
  | deleteFlags userID messageID =>
    { tables with
      flags := Rows.remove (fun row : FlagsRow => (row.userID, row.messageID)) (userID, messageID)
        tables.flags }
  | deleteMessageLifecycle userID messageID =>
    { tables with
      lifecycle := Rows.remove (fun row : MessageLifecycle => (row.userID, row.messageID))
        (userID, messageID) tables.lifecycle }

/-- What the write changes of manifests, listing rows and lifecycle rows belongs to this message. -/
def Files (messageID : Nat) : Write → Prop
  | insertManifestRow row => row.messageID = messageID
  | insertMailboxRow row => row.messageID = messageID
  | upsertMessageLifecycle row => row.messageID = messageID
  | deleteManifestRow id | deleteMailboxRow _ _ _ id | updateManifestFolder id _
  | deleteMessageLifecycle _ id => id = messageID
  | _ => True

def lists : Write → Nat
  | insertMailboxRow row => row.messageID
  | _ => 0

theorem listed_onTables (tables : Tables) (write : Write) {row : MailboxRow}
    (member : row ∈ (write.onTables tables).mailbox) :
    row ∈ tables.mailbox ∨ row.messageID = write.lists := by
  cases write with
  | insertMailboxRow added =>
    rcases Rows.mem_upsert member with old | rfl
    · exact .inl old
    · exact .inr rfl
  | deleteMailboxRow userID folder receivedAt messageID => exact .inl (Rows.mem_of_mem_remove member)
  | _ => exact .inl member

end Write

/-- The stores: the tables of the ingest code, the outbox, and the number of the
last message id drawn. No message with a later one is listed. -/
structure Stores where
  tables : Tables
  outbox : Table
  lastID : Nat
  drawn : ∀ row ∈ tables.mailbox, row.messageID ≤ lastID

namespace Stores

/-- `uuid.New`, as a state that knows it; the id is its `lastID`. -/
def draw (stores : Stores) : Stores :=
  { stores with
    lastID := stores.lastID + 1
    drawn := fun row member => Nat.le_succ_of_le (stores.drawn row member) }

def apply (write : Write) (stores : Stores) : Stores :=
  { stores with
    tables := write.onTables stores.tables
    lastID := max stores.lastID write.lists
    drawn := by
      intro row member
      rcases write.listed_onTables stores.tables member with old | new
      · exact (stores.drawn row old).trans (Nat.le_max_left ..)
      · exact new ▸ Nat.le_max_right .. }

def exec (outcome : Op → Outcome GoError) (write : Write) (stores : Stores) :
    Option GoError × Stores :=
  (outcome write.op).exec (apply write) stores

/-- How many messages drawn after `since` are listed in a user's mailbox. -/
def copies (stores : Stores) (since userID : Nat) : Nat :=
  (stores.tables.mailbox.filter fun row => row.userID = userID ∧ since < row.messageID).length

end Stores

/-- `after` is reached from `before` by issuing writes of these kinds for one message only,
however they end. -/
inductive Issued (kinds : List Op) (messageID : Nat) (before : Stores) : Stores → Prop where
  | refl : Issued kinds messageID before before
  | exec {stores : Stores} (prior : Issued kinds messageID before stores)
      (outcome : Op → Outcome GoError) (write : Write) (kind : write.op ∈ kinds)
      (files : write.Files messageID) : Issued kinds messageID before (stores.exec outcome write).2

namespace Issued

variable {kinds : List Op} {messageID : Nat} {before middle after : Stores}

theorem trans (first : Issued kinds messageID before middle)
    (second : Issued kinds messageID middle after) : Issued kinds messageID before after := by
  induction second with
  | refl => exact first
  | exec _ outcome write kind files ih => exact .exec ih outcome write kind files

theorem single {outcome : Op → Outcome GoError} {write : Write} {err : Option GoError}
    (step : before.exec outcome write = (err, after)) (kind : write.op ∈ kinds)
    (files : write.Files messageID) : Issued kinds messageID before after := by
  have issued : Issued kinds messageID before (before.exec outcome write).2 :=
    .exec .refl outcome write kind files
  rwa [step] at issued

theorem mono {others : List Op} (issued : Issued kinds messageID before after)
    (fewer : kinds ⊆ others) : Issued others messageID before after := by
  induction issued with
  | refl => exact .refl
  | exec _ outcome write kind files ih =>
    exact .exec ih outcome write (fewer kind) files

theorem holds (Holds : Tables → Prop) (issued : Issued kinds messageID before after)
    (start : Holds before.tables)
    (preserved : ∀ write : Write, write.op ∈ kinds → write.Files messageID →
      ∀ tables, Holds tables → Holds (write.onTables tables)) : Holds after.tables := by
  induction issued with
  | refl => exact start
  | @exec stores _ outcome write kind files ih =>
    exact Outcome.exec_holds (fun next : Stores => Holds next.tables) _ ih
      (preserved write kind files stores.tables ih)

theorem keeps {Part : Type} (part : Tables → Part) (issued : Issued kinds messageID before after)
    (elsewhere : ∀ write : Write, write.op ∈ kinds →
      ∀ tables, part (write.onTables tables) = part tables) :
    part after.tables = part before.tables := by
  refine issued.holds (fun tables => part tables = part before.tables) rfl ?_
  intro write kind _ tables same
  rw [elsewhere write kind tables, same]

end Issued

/-- `InsertManifest` writes the manifest, then the listing row, then the flags. An
error ends it where it stands. A copy in the sent folder starts as read. -/
def insertManifest (outcome : Op → Outcome GoError) (manifest : Manifest) (stores : Stores) :
    Option GoError × Stores :=
  match stores.exec outcome (.insertManifestRow
      { messageID := manifest.messageID
        userID := manifest.userID
        folder := manifest.folder
        bodyBlobRef := manifest.bodyBlobRef
        bodySizeBytes := manifest.bodySizeBytes
        headerCiphertext := manifest.headerCiphertext
        provenance := manifest.provenance
        source := manifest.source
        createdAt := timestamp manifest.createdAt }) with
  | (some err, stores) => (some (.wrap (ascii "manifest insert: ") err), stores)
  | (none, stores) =>
    match stores.exec outcome (.insertMailboxRow
        { userID := manifest.userID
          folder := manifest.folder
          receivedAt := timestamp manifest.createdAt
          messageID := manifest.messageID
          bodySizeBytes := manifest.bodySizeBytes
          provenance := manifest.provenance
          hasAttachments := manifest.hasAttachments }) with
    | (some err, stores) => (some (.wrap (ascii "mailbox row insert: ") err), stores)
    | (none, stores) =>
      match stores.exec outcome (.insertFlags
          { userID := manifest.userID
            messageID := manifest.messageID
            read := manifest.folder == folderSent }) with
      | (some err, stores) => (some (.wrap (ascii "flags init: ") err), stores)
      | (none, stores) => (none, stores)

/-- `DeleteManifest` deletes the manifest, then the listing row. -/
def deleteManifest (outcome : Op → Outcome GoError) (userID : Nat) (folder : GoString)
    (receivedAt : Time) (messageID : Nat) (stores : Stores) : Option GoError × Stores :=
  match stores.exec outcome (.deleteManifestRow messageID) with
  | (some err, stores) => (some err, stores)
  | (none, stores) =>
    stores.exec outcome (.deleteMailboxRow userID folder (timestamp receivedAt) messageID)

/-- `UpsertMessageLifecycle` checks its ids and the folder before it writes. -/
def upsertMessageLifecycle (lib : Library) (outcome : Op → Outcome GoError) (row : MessageLifecycle)
    (stores : Stores) : Option GoError × Stores :=
  if row.userID = 0 ∨ row.messageID = 0 then
    (some (.plain (ascii "mailmeta: lifecycle ids required")), stores)
  else
    let folder := normalizeFolderName lib row.currentFolder
    if folder = [] then (some (.plain (ascii "mailmeta: lifecycle folder required")), stores)
    else stores.exec outcome (.upsertMessageLifecycle { row with currentFolder := folder })

end ElvishMail.Mailstore
