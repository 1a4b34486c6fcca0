import ElvishMail.Httpserver.Mailbox
import ElvishMail.Mailops.Placement

/-!
# Messages that can be found

Ingests, moves, deletes, and the requests that create and delete folders, one after
another. The names of folders and the messages in them are kept in two databases: a
message stays where it is when its folder is deleted, and is found again once a folder of
that name is created.
-/

namespace ElvishMail.Httpserver

open Go Smtp Mailmeta Mailstore Mailops Mailpipe Semantics

/-- A call of one of the ingests of `internal/mailpipe`. -/
inductive IngestCall where
  | external (fromAddr recipient rawBody : GoString)
  | submission (principalEmail fromAddr : GoString) (rcpt : List GoString) (rawBody : GoString)
  | client (recipient headerCiphertext rawCipher fromAddr : GoString) (rcpt : List GoString)
  | clientSent (principalEmail headerCiphertext rawCipher fromAddr : GoString) (rcpt : List GoString)
  | plaintext (fromAddr recipient : GoString) (rcpt : List GoString) (rawBody : GoString)
      (headers : HeaderSummary)

variable (pipe : Pipe)

def IngestCall.run (conditions : Conditions) (stores : Stores) :
    IngestCall → Except GoError IngestResult × Stores
  | external fromAddr recipient rawBody =>
    pipe.ingestExternal conditions fromAddr recipient rawBody stores
  | submission principalEmail fromAddr rcpt rawBody =>
    pipe.ingestSubmission conditions principalEmail fromAddr rcpt rawBody stores
  | client recipient headerCiphertext rawCipher fromAddr rcpt =>
    pipe.ingestInternal conditions recipient headerCiphertext rawCipher fromAddr rcpt stores
  | clientSent principalEmail headerCiphertext rawCipher fromAddr rcpt =>
    pipe.ingestClientSent conditions principalEmail headerCiphertext rawCipher fromAddr rcpt stores
  | plaintext fromAddr recipient rcpt rawBody headers =>
    pipe.ingestInternalPlaintextWithHeader conditions fromAddr recipient rcpt rawBody headers stores

def IngestCall.intake (conditions : Conditions) : IngestCall → Except GoError Intake
  | external fromAddr recipient rawBody => pipe.externalIntake conditions fromAddr recipient rawBody
  | submission principalEmail fromAddr rcpt rawBody =>
    (pipe.submissionIntake conditions principalEmail fromAddr rcpt rawBody).map .kept
  | client recipient headerCiphertext rawCipher fromAddr rcpt =>
    (pipe.clientInboxIntake conditions recipient headerCiphertext rawCipher fromAddr rcpt).map .kept
  | clientSent principalEmail headerCiphertext rawCipher fromAddr rcpt =>
    (pipe.clientSentIntake conditions principalEmail headerCiphertext rawCipher fromAddr rcpt).map
      .kept
  | plaintext fromAddr recipient rcpt rawBody headers =>
    (pipe.internalIntake conditions fromAddr recipient rcpt rawBody headers).map .kept

def operating : Service := ⟨pipe.hasMeta, pipe.hasScylla, pipe.hasBlob, pipe.lib⟩

/-- The stores and the rows of `mail_user_folders`. Beside them, and known to no code:
the messages that were ingested and not deleted for good (user and id), and the folders
that were deleted and not created again. -/
structure Mailboxes where
  stores : Stores
  folders : List (Nat × GoString)
  live : List (Nat × Nat)
  removed : List (Nat × GoString)

namespace Mailboxes

def refolder (folders : List (Nat × GoString)) (boxes : Mailboxes) : Mailboxes :=
  { boxes with
    folders
    removed := (boxes.removed ++ boxes.folders).filter fun entry => entry ∉ folders }

def answering (boxes : Mailboxes) (lib : Library) (conditions : Conditions) : Conditions :=
  { conditions with
    userHasFolder := fun userID name => .ok (userHasFolder lib boxes.folders userID name) }

end Mailboxes

inductive MailboxEvent where
  | ingest (call : IngestCall) (conditions : Conditions)
  | move (call : MoveCall) (env : Nat → Outcome GoError)
  | delete (permanent : Bool) (userID messageID : Nat) (now : Time) (env : Nat → Outcome GoError)
  | createFolder (userID : Nat) (name : GoString) (outcome : Outcome GoError)
  | deleteFolder (userID : Nat) (name : GoString) (outcome : Outcome GoError)

/-- The message that an ingest reports, unless it dropped it. -/
def reported : Except GoError IngestResult → List (Nat × Nat)
  | .ok result => if result.dropped then [] else [(result.userID, result.messageID)]
  | .error _ => []

/-- Operations on messages and requests on folders, one after another. One that returns an error
leaves what it has done by then. `delete` is `apiMailMessageDelete`, which may move a message to
the trash. -/
def mailboxes : Machine Mailboxes MailboxEvent where
  step := fun boxes event =>
    match event with
    | .ingest call conditions =>
      let (reply, stores) := call.run pipe (boxes.answering pipe.lib conditions) boxes.stores
      some { boxes with stores, live := boxes.live ++ reported reply }
    | .move call env =>
      let (_, stores) := (moveMessage (operating pipe) { call with folders := .ok boxes.folders }).run
        Statement.answer env boxes.stores
      some { boxes with stores }
    | .delete permanent userID messageID now env =>
      match (apiMailMessageDelete (operating pipe) permanent userID messageID now).run
        Statement.answer env boxes.stores with
      | (.ok (.permanent _), stores) =>
        some { boxes with
          stores
          live := boxes.live.filter fun message => message ≠ (userID, messageID) }
      | (_, stores) => some { boxes with stores }
    | .createFolder userID name outcome =>
      some (boxes.refolder
        (apiMailboxFoldersCreate pipe.lib outcome userID name boxes.folders).2)
    | .deleteFolder userID name outcome =>
      some (boxes.refolder
        (apiMailboxFoldersDelete pipe.lib outcome userID name boxes.folders).2)

def emptyMailboxes : Mailboxes where
  stores := emptyStores
  folders := []
  live := []
  removed := []

def Mailboxes.reads (lib : Library) (rank : Nat → Nat) (precedes : GoString → GoString → Bool)
    (boxes : Mailboxes) : MailReads where
  lib
  rank
  precedes
  tables := boxes.stores.tables
  folders := boxes.folders
  failing := fun _ => none

/-- Some folder that the user sees has a page with the message. -/
def Returned (reads : MailReads) (userID messageID : Nat) : Prop :=
  ∃ entries, apiMailboxFoldersList reads userID = .ok entries ∧ ∃ entry ∈ entries,
    ∃ limit before messages,
      apiMailMessagesList reads userID { folder := entry.name, limit, before } = .ok messages ∧
        ∃ message ∈ messages, message.id = messageID

/-- No folder of a user holds more than two hundred messages of one time. -/
def Uncrowded (tables : Tables) (userID : Nat) : Prop :=
  ∀ rank folder time, ((mailboxPartition rank tables userID folder).filter
    fun row => row.receivedAt = time).length ≤ 200

/-- A message lies in a folder that was deleted and not created again. Were it created,
the message would be returned. -/
def Stranded (lib : Library) (rank : Nat → Nat) (precedes : GoString → GoString → Bool)
    (boxes : Mailboxes) (userID messageID : Nat) : Prop :=
  ∃ folder, (userID, folder) ∈ boxes.removed ∧
    (∃ row, manifestOf boxes.stores.tables messageID = some row ∧ row.folder = folder) ∧
    Returned ({ boxes with folders := boxes.folders ++ [(userID, folder)] }.reads lib rank precedes)
      userID messageID

/-- The clocks of the ingests, and of what moves or deletes this message, read after 1970, the
folders have names that `normalizeFolderName` keeps, and what moves or deletes this message
returns no error. -/
def Smooth (userID messageID : Nat) (boxes : Mailboxes) : MailboxEvent → Prop
  | .ingest call conditions =>
    0 ≤ conditions.now ∧ ∀ package,
      call.intake pipe (boxes.answering pipe.lib conditions) = .ok (.kept package) →
        normalizeFolderName pipe.lib package.folder = package.folder
  | .move call env =>
    (call.userID, call.messageID) = (userID, messageID) → 0 ≤ call.now ∧
      normalizeFolderName pipe.lib (call.target (operating pipe)) = call.target (operating pipe) ∧
      ((moveMessage (operating pipe) { call with folders := .ok boxes.folders }).run Statement.answer
        env boxes.stores).1.isOk = true
  | .delete permanent owner id now env =>
    (owner, id) = (userID, messageID) → 0 ≤ now ∧
      ((apiMailMessageDelete (operating pipe) permanent owner id now).run Statement.answer env
        boxes.stores).1.isOk = true
  | .createFolder .. | .deleteFolder .. => True

section Finding

variable {reads : MailReads} {userID messageID : Nat} {folder : GoString}

theorem mem_take_of_few {Row : Type} {key : Row → Int} {rows : List Row} {row : Row} {count : Nat}
    (descending : rows.Pairwise fun first later => key later ≤ key first) (member : row ∈ rows)
    (topmost : ∀ other ∈ rows, key other ≤ key row)
    (few : (rows.filter fun other => key other = key row).length ≤ count) : row ∈ rows.take count := by
  rw [← List.take_append_drop count rows, List.mem_append] at member
  rcases member with early | late
  · exact early
  exfalso
  have top : ∀ other ∈ rows.take count, key other = key row := by
    intro other there
    rw [← List.take_append_drop count rows, List.pairwise_append] at descending
    have below := descending.2.2 other there row late
    have above := topmost other (List.mem_of_mem_take there)
    omega
  have enough : count ≤ rows.length := by
    have nonempty := List.length_pos_of_mem late
    rw [List.length_drop] at nonempty
    omega
  have more : 0 < ((rows.drop count).filter fun other => key other = key row).length :=
    List.length_pos_of_mem (List.mem_filter.mpr ⟨late, by simp⟩)
  rw [← List.take_append_drop count rows, List.filter_append, List.length_append,
    List.filter_eq_self.mpr (fun other there => decide_eq_true (top other there)),
    List.length_take_of_le enough] at few
  omega

theorem buildManifestJSON_id {row : Option MailboxRow} {mf : Manifest} :
    (buildManifestJSON reads userID row mf).id = mf.messageID := by
  unfold buildManifestJSON
  cases reads.getOptInMetadata userID mf.messageID with
  | error err => rfl
  | ok opt => rfl

theorem timestamp_next (time : Int) : timestamp (timestamp time + 1000) = timestamp time + 1000 := by
  have exact : (time / 1000 * 1000 + 1000) / 1000 * 1000 = time / 1000 * 1000 + 1000 := by omega
  exact exact

theorem le_of_lt_next {time bound : Int} (whole : timestamp time = time)
    (before : time < timestamp bound + 1000) : time ≤ timestamp bound := by
  have same : time / 1000 * 1000 = time := whole
  have below : time < bound / 1000 * 1000 + 1000 := before
  have least : time ≤ bound / 1000 * 1000 := by omega
  exact least

theorem next_ne_zeroTime {time : Int} (late : 0 ≤ time) : timestamp time + 1000 ≠ zeroTime := by
  intro same
  have equal : time / 1000 * 1000 + 1000 = -62135596800 * 1000000 := same
  omega

theorem exists_listed {rank : Nat → Nat} {tables : Tables}
    (placed : Placed tables userID messageID folder) (uncrowded : Uncrowded tables userID) :
    ∃ before, before ≠ zeroTime ∧ ∃ row ∈ listMailbox rank tables userID folder before 200,
      row.messageID = messageID := by
  obtain ⟨stored, member, rfl, owner, filed, late⟩ := placed.listed
  have listed : stored.scanned ∈ mailboxPartition rank tables userID folder :=
    mem_mailboxPartition.mpr ⟨stored, member, owner, filed, rfl⟩
  refine ⟨timestamp stored.receivedAt + 1000, next_ne_zeroTime late, stored.scanned, ?_, rfl⟩
  have limit : listLimit 200 = 200 := rfl
  rw [listMailbox, if_neg (next_ne_zeroTime late), timestamp_next, limit]
  refine @mem_take_of_few _ MailboxRow.receivedAt _ _ _
    (mailboxPartition_descending.sublist List.filter_sublist) ?_ ?_ ?_
  · rw [List.mem_filter, decide_eq_true_eq]
    exact ⟨listed, Int.lt_add_of_pos_right _ (by decide)⟩
  · intro other there
    obtain ⟨inside, before⟩ := List.mem_filter.mp there
    exact le_of_lt_next (receivedAt_mailboxPartition inside) (of_decide_eq_true before)
  · refine Nat.le_trans ?_ (uncrowded rank folder stored.scanned.receivedAt)
    exact (List.filter_sublist.filter _).length_le

theorem returned_of_placed (healthy : reads.failing = fun _ => none)
    (placed : Placed reads.tables userID messageID folder) (name : FolderName folder)
    (reported : folder ∈ standardFolders ∨ (userID, folder) ∈ reads.folders)
    (uncrowded : Uncrowded reads.tables userID) : Returned reads userID messageID := by
  have custom : reads.listUserFolders userID =
      .ok (((reads.folders.filter fun row => row.1 = userID).map Prod.snd).insertionSort
        fun first later => reads.precedes first later) := by
    rw [MailReads.listUserFolders, MailReads.read, healthy]
  obtain ⟨before, nonzero, row, listed, id⟩ := @exists_listed _ _ _ reads.rank _ placed uncrowded
  obtain ⟨manifest, found, owner, -⟩ := placed.manifest
  have shown : messageOf reads userID row =
      some (buildManifestJSON reads userID (some row) (scanned manifest)) := by
    rw [messageOf, MailReads.getManifest, MailReads.read, healthy, id, found]
    simp [owner]
  have entry : ∃ entries, apiMailboxFoldersList reads userID = .ok entries ∧
      ∃ entry ∈ entries, entry.name = folder := by
    rw [apiMailboxFoldersList, custom]
    refine ⟨_, rfl, ?_⟩
    rcases reported with standard | stored
    · exact ⟨_, List.mem_append_left _ (List.mem_map_of_mem standard), rfl⟩
    · refine ⟨_, List.mem_append_right _ (List.mem_map_of_mem ?_), rfl⟩
      rw [List.mem_insertionSort]
      exact List.mem_map.mpr ⟨(userID, folder), List.mem_filter.mpr ⟨stored, by simp⟩, rfl⟩
  have known : knownFolder reads userID folder = true := by
    rw [knownFolder, Bool.or_eq_true]
    rcases reported with standard | stored
    · exact .inl (by simpa using standard)
    · right
      rw [MailReads.hasFolder, MailReads.read, healthy]
      simpa [userHasFolder, name.normalized] using stored
  obtain ⟨entries, reply, entry, member, rfl⟩ := entry
  refine ⟨entries, reply, entry, member, ascii "200", some before,
    (listMailbox reads.rank reads.tables userID entry.name before 200).filterMap
      (messageOf reads userID), ?_, ?_⟩
  · have parsed : parseInt64 (trimSpace (ascii "200")) = some 200 := by decide
    rw [apiMailMessagesList, name.listed]
    dsimp only
    rw [known, ListRequest.count, parsed, MailReads.read, healthy]
    simp
  · refine ⟨_, List.mem_filterMap.mpr ⟨row, listed, shown⟩, ?_⟩
    have own : manifest.messageID = messageID := by simpa using List.find?_some found
    rw [buildManifestJSON_id]
    exact own

end Finding

section Filing

variable {pipe : Pipe} {conditions : Conditions} {package : Package}

theorem resolveIngestMoveFolder_ok {lib : Library} {has : GoString → Except GoError Bool}
    {want folder : GoString} (resolved : resolveIngestMoveFolder lib has want = .ok folder) :
    folder ∈ standardFolders ∨ has folder = .ok true := by
  have inbox : folderInbox ∈ standardFolders := by decide
  unfold resolveIngestMoveFolder at resolved
  dsimp only at resolved
  split at resolved
  · cases resolved
    exact .inl inbox
  split at resolved
  next standard =>
    cases resolved
    exact .inl standard
  split at resolved
  · cases resolved
  next found asked =>
    cases found with
    | true =>
      cases resolved
      exact .inr asked
    | false =>
      cases resolved
      exact .inl inbox

theorem filterDecision_ok {userID : Nat} {fromAddr recipient rawBody : GoString}
    {headers : HeaderSummary} {decision : IngestFilterDecision}
    (decided : pipe.filterDecision conditions userID fromAddr recipient rawBody headers =
      .ok decision) :
    Pipe.targetFolder decision ∈ standardFolders ∨
      conditions.userHasFolder userID (Pipe.targetFolder decision) = .ok true := by
  have inbox : Pipe.targetFolder {} ∈ standardFolders := by decide
  unfold Pipe.filterDecision evalIngestPrivacyFilters at decided
  split at decided
  · cases decided
  dsimp only at decided
  split at decided
  · cases decided
    exact .inl inbox
  unfold ingestDecisionFromActions at decided
  split at decided
  · cases decided
    exact .inl inbox
  split at decided
  · cases decided
    exact .inl inbox
  split at decided
  · cases decided
  next folder resolved =>
  split at decided
  next chosen =>
    cases decided
    rw [Pipe.targetFolder, if_pos chosen.1]
    exact resolveIngestMoveFolder_ok resolved
  · cases decided
    exact .inl inbox

theorem intake_folder {call : IngestCall}
    (decided : call.intake pipe conditions = .ok (.kept package)) :
    package.folder ∈ standardFolders ∨
      conditions.userHasFolder package.userID package.folder = .ok true := by
  have mapped {first : Except GoError Package} (decided : first.map Intake.kept = .ok (.kept package)) :
      first = .ok package := by
    cases first with
    | error err => cases decided
    | ok value =>
      cases decided
      rfl
  have inbox : folderInbox ∈ standardFolders := by decide
  have sent : folderSent ∈ standardFolders := by decide
  cases call with
  | external fromAddr recipient rawBody =>
    obtain ⟨-, -, sized⟩ := bind_eq_ok decided
    split at sized
    · obtain ⟨identity, -, resolved⟩ := bind_eq_ok sized
      obtain ⟨decision, filtered, onward⟩ := bind_eq_ok resolved
      split at onward
      · cases onward
      · obtain ⟨header, -, packed⟩ := bind_eq_ok onward
        cases packed
        exact filterDecision_ok filtered
    · obtain ⟨-, -, resized⟩ := bind_eq_ok sized
      obtain ⟨identity, -, resolved⟩ := bind_eq_ok resized
      obtain ⟨decision, filtered, onward⟩ := bind_eq_ok resolved
      dsimp only at onward
      split at onward
      · cases onward
      · obtain ⟨body, -, materialized⟩ := bind_eq_ok onward
        obtain ⟨header, -, packed⟩ := bind_eq_ok materialized
        cases packed
        exact filterDecision_ok filtered
  | submission principalEmail fromAddr rcpt rawBody =>
    obtain ⟨sender, -, resolved⟩ := bind_eq_ok (mapped decided)
    obtain ⟨body, -, packed⟩ := bind_eq_ok resolved
    obtain ⟨header, -, packed⟩ := bind_eq_ok packed
    cases packed
    exact .inl sent
  | client recipient headerCiphertext rawCipher fromAddr rcpt =>
    rw [(clientInboxIntake_ok (mapped decided)).1]
    exact .inl inbox
  | clientSent principalEmail headerCiphertext rawCipher fromAddr rcpt =>
    rw [(clientSentIntake_ok (mapped decided)).1]
    exact .inl sent
  | plaintext fromAddr recipient rcpt rawBody headers =>
    obtain ⟨identity, -, resolved⟩ := bind_eq_ok (mapped decided)
    obtain ⟨body, -, packed⟩ := bind_eq_ok resolved
    obtain ⟨header, -, packed⟩ := bind_eq_ok packed
    cases packed
    exact .inl inbox

theorem run_cases {call : IngestCall} {stores after : Stores} {answer : Except GoError IngestResult}
    (ran : call.run pipe conditions stores = (answer, after)) :
    after = stores ∧ reported answer = [] ∨
      ∃ package, call.intake pipe conditions = .ok (.kept package) ∧
        pipe.persist conditions package stores = (answer, after) := by
  cases call with
  | external fromAddr recipient rawBody =>
    rw [IngestCall.run, Pipe.ingestExternal] at ran
    split at ran
    · cases ran
      exact .inl ⟨rfl, rfl⟩
    · cases ran
      exact .inl ⟨rfl, rfl⟩
    next package decided => exact .inr ⟨package, decided, ran⟩
  | submission principalEmail fromAddr rcpt rawBody =>
    rw [IngestCall.run, Pipe.ingestSubmission] at ran
    split at ran
    · cases ran
      exact .inl ⟨rfl, rfl⟩
    next package decided => exact .inr ⟨package, by rw [IngestCall.intake, decided]; rfl, ran⟩
  | client recipient headerCiphertext rawCipher fromAddr rcpt =>
    rw [IngestCall.run, Pipe.ingestInternal] at ran
    split at ran
    · cases ran
      exact .inl ⟨rfl, rfl⟩
    next package decided => exact .inr ⟨package, by rw [IngestCall.intake, decided]; rfl, ran⟩
  | clientSent principalEmail headerCiphertext rawCipher fromAddr rcpt =>
    rw [IngestCall.run, Pipe.ingestClientSent] at ran
    split at ran
    · cases ran
      exact .inl ⟨rfl, rfl⟩
    next package decided => exact .inr ⟨package, by rw [IngestCall.intake, decided]; rfl, ran⟩
  | plaintext fromAddr recipient rcpt rawBody headers =>
    rw [IngestCall.run, Pipe.ingestInternalPlaintextWithHeader] at ran
    split at ran
    · cases ran
      exact .inl ⟨rfl, rfl⟩
    next package decided => exact .inr ⟨package, by rw [IngestCall.intake, decided]; rfl, ran⟩

end Filing

namespace Mailboxes

/-- A folder that a user may list, or that was deleted and not created again. -/
def Known (boxes : Mailboxes) (userID : Nat) (folder : GoString) : Prop :=
  folder ∈ standardFolders ∨ (userID, folder) ∈ boxes.folders ∨ (userID, folder) ∈ boxes.removed

/-- Folders have names that stay as they are, and the message lies in a known one. -/
structure InStep (userID messageID : Nat) (boxes : Mailboxes) : Prop where
  names : ∀ entry, entry ∈ boxes.folders ∨ entry ∈ boxes.removed → FolderName entry.2
  placed : (userID, messageID) ∈ boxes.live → ∃ folder,
    Placed boxes.stores.tables userID messageID folder ∧ boxes.Known userID folder

variable {boxes after : Mailboxes} {userID messageID : Nat}

theorem Known.refolder {folder : GoString} (known : boxes.Known userID folder)
    (folders : List (Nat × GoString)) : (boxes.refolder folders).Known userID folder := by
  by_cases kept : (userID, folder) ∈ folders
  · exact .inr (.inl kept)
  have left {entries : List (Nat × GoString)} (member : (userID, folder) ∈ entries) :
      (userID, folder) ∈ entries.filter fun entry => entry ∉ folders :=
    List.mem_filter.mpr ⟨member, by simpa using kept⟩
  rcases known with standard | stored | removed
  · exact .inl standard
  · exact .inr (.inr (left (List.mem_append_right _ stored)))
  · exact .inr (.inr (left (List.mem_append_left _ removed)))

theorem InStep.refolder (inStep : InStep userID messageID boxes) {folders : List (Nat × GoString)}
    (names : ∀ entry ∈ folders, FolderName entry.2) :
    InStep userID messageID (boxes.refolder folders) := by
  constructor
  · rintro entry (stored | removed)
    · exact names entry stored
    · rcases List.mem_append.mp (List.mem_of_mem_filter removed) with earlier | dropped
      · exact inStep.names entry (.inr earlier)
      · exact inStep.names entry (.inl dropped)
  · intro member
    obtain ⟨folder, placed, known⟩ := inStep.placed member
    exact ⟨folder, placed, known.refolder folders⟩

variable {pipe : Pipe}

theorem known_of_found {lib : Library} {folder : GoString}
    (kept : normalizeFolderName lib folder = folder)
    (found : folder ∈ standardFolders ∨ userHasFolder lib boxes.folders userID folder = true) :
    boxes.Known userID folder := by
  refine found.imp id fun has => .inl ?_
  rw [userHasFolder, kept] at has
  simpa using has

theorem InStep.move (inStep : InStep userID messageID boxes) {call : MoveCall}
    {env : Nat → Outcome GoError}
    (folders : call.folders = .ok boxes.folders ∨ call.target (operating pipe) ∈ standardFolders)
    (smooth : (call.userID, call.messageID) = (userID, messageID) → 0 ≤ call.now ∧
      normalizeFolderName pipe.lib (call.target (operating pipe)) = call.target (operating pipe) ∧
      ((moveMessage (operating pipe) call).run Statement.answer env boxes.stores).1.isOk = true) :
    InStep userID messageID { boxes with
      stores := ((moveMessage (operating pipe) call).run Statement.answer env boxes.stores).2 } := by
  refine ⟨inStep.names, fun member => ?_⟩
  obtain ⟨folder, placed, known⟩ := inStep.placed member
  by_cases own : (call.userID, call.messageID) = (userID, messageID)
  · obtain ⟨clock, kept, succeeds⟩ := smooth own
    rcases ran : (moveMessage (operating pipe) call).run Statement.answer env boxes.stores with
      ⟨reply, stores⟩
    rw [ran] at succeeds
    cases reply with
    | error err => cases succeeds
    | ok moved =>
    rcases placed.move ran kept clock with same | ⟨user, there⟩
    · exact ⟨folder, same, known⟩
    refine ⟨_, there, known_of_found kept ?_⟩
    rcases folders with read | standard
    · refine (target_of_moved ran).imp id ?_
      rintro ⟨stored, answered, has⟩
      rw [read, Except.ok.injEq] at answered
      rw [answered, ← user]
      exact has
    · exact .inl standard
  · refine ⟨folder, placed.keep fun entry rows tracked same records => ?_, known⟩
    exact Records.move records (same ▸ own) env

theorem InStep.delete (inStep : InStep userID messageID boxes) {permanent : Bool} {owner id : Nat}
    {now : Time} {env : Nat → Outcome GoError} {stores : Stores} {reply : Except GoError Mailops.Deletion}
    (ran : (apiMailMessageDelete (operating pipe) permanent owner id now).run Statement.answer env
      boxes.stores = (reply, stores))
    (smooth : (owner, id) = (userID, messageID) → 0 ≤ now ∧ reply.isOk = true)
    (unpurged : (owner, id) = (userID, messageID) → ∀ deleted, reply ≠ .ok (.permanent deleted)) :
    InStep userID messageID { boxes with stores } := by
  by_cases own : (owner, id) = (userID, messageID)
  · obtain ⟨clock, succeeds⟩ := smooth own
    rcases reply with err | deleted | moved
    · cases succeeds
    · exact absurd rfl (unpurged own deleted)
    replace ran := moved_of_trashed ran
    generalize called : MoveCall.mk owner id folderTrash now (.ok []) = call at ran
    have trash : call.target (operating pipe) = folderTrash := by
      rw [← called]
      exact trash_target
    have time : call.now = now := by rw [← called]
    have standard : folderTrash ∈ standardFolders := by decide
    have kept := @InStep.move boxes userID messageID pipe inStep call _ (.inr (by rwa [trash]))
      fun _ => ⟨by rwa [time], by rw [trash]; exact (folderName_standard standard).normalized _,
        by rw [ran]; rfl⟩
    rwa [ran] at kept
  · refine ⟨inStep.names, fun member => ?_⟩
    obtain ⟨folder, placed, known⟩ := inStep.placed member
    refine ⟨folder, placed.keep fun entry rows tracked same records => ?_, known⟩
    have kept := @Records.apiMailMessageDelete (operating pipe) boxes.stores owner id folder entry rows
      tracked now permanent records (same ▸ own) env
    rwa [ran] at kept

theorem InStep.ingest (inStep : InStep userID messageID boxes) {call : IngestCall}
    {conditions : Conditions} {reply : Except GoError IngestResult} {stores : Stores}
    (ran : call.run pipe (boxes.answering pipe.lib conditions) boxes.stores = (reply, stores))
    (smooth : Smooth pipe userID messageID boxes (.ingest call conditions)) :
    InStep userID messageID { boxes with stores, live := boxes.live ++ reported reply } := by
  refine ⟨inStep.names, fun member => ?_⟩
  obtain ⟨rfl, none⟩ | ⟨package, decided, stored⟩ := run_cases ran
  · rw [none, List.append_nil] at member
    exact inStep.placed member
  rcases List.mem_append.mp member with earlier | new
  · obtain ⟨folder, placed, known⟩ := inStep.placed earlier
    exact ⟨folder, placed.persist stored, known⟩
  cases reply with
  | error err => cases new
  | ok result =>
    have fits := smooth.2 package decided
    obtain ⟨owner, undropped, fresh⟩ := placed_of_persist stored fits smooth.1
    rw [reported, undropped, if_neg Bool.false_ne_true, List.mem_singleton] at new
    cases new
    rw [owner]
    exact ⟨_, fresh, known_of_found fits ((intake_folder decided).imp id fun has => Except.ok.inj has)⟩

theorem InStep.step (inStep : InStep userID messageID boxes) {event : MailboxEvent}
    (smooth : Smooth pipe userID messageID boxes event)
    (taken : (mailboxes pipe).step boxes event = some after) : InStep userID messageID after := by
  cases event with
  | ingest call conditions =>
    cases taken
    exact inStep.ingest rfl smooth
  | move call env =>
    cases taken
    exact inStep.move (.inl rfl) smooth
  | delete permanent owner id now env =>
    dsimp only [mailboxes] at taken
    dsimp only [Smooth] at smooth
    rcases ran : (apiMailMessageDelete (operating pipe) permanent owner id now).run Statement.answer env
      boxes.stores with ⟨err | deleted | moved, stores⟩
    all_goals
      rw [ran] at taken smooth
      cases taken
    · exact inStep.delete ran smooth fun _ _ => by simp
    · refine ⟨inStep.names, fun member => ?_⟩
      obtain ⟨there, other⟩ := List.mem_filter.mp member
      have apart : ¬(owner, id) = (userID, messageID) := fun same => of_decide_eq_true other same.symm
      exact (inStep.delete ran smooth fun same => absurd same apart).placed there
    · exact inStep.delete ran smooth fun _ _ => by simp
  | createFolder userID name outcome =>
    cases taken
    refine inStep.refolder fun entry member => ?_
    rcases create_stored pipe.lib outcome userID name boxes.folders with same | ⟨fresh, named, same⟩
    · rw [same] at member
      exact inStep.names entry (.inl member)
    · rw [same, List.mem_append, List.mem_singleton] at member
      rcases member with earlier | rfl
      · exact inStep.names entry (.inl earlier)
      · exact named
  | deleteFolder userID name outcome =>
    cases taken
    refine inStep.refolder fun entry member => inStep.names entry (.inl ?_)
    exact delete_stored pipe.lib outcome userID name boxes.folders member

theorem InStep.stranded (inStep : InStep userID messageID boxes) {lib : Library} {rank : Nat → Nat}
    {precedes : GoString → GoString → Bool} {folder : GoString}
    (placed : Placed boxes.stores.tables userID messageID folder)
    (removed : (userID, folder) ∈ boxes.removed)
    (uncrowded : Uncrowded boxes.stores.tables userID) :
    Stranded lib rank precedes boxes userID messageID := by
  obtain ⟨row, found, -, filed⟩ := placed.manifest
  refine ⟨folder, removed, ⟨row, found, filed⟩, ?_⟩
  refine returned_of_placed rfl placed (inStep.names _ (.inr removed)) (.inr ?_) uncrowded
  exact List.mem_append_right _ (List.mem_singleton_self _)

end Mailboxes

/-- Whatever else fails, as long as what moves or deletes it returns no error, every message that
was ingested and not deleted for good is returned for a folder that is reported, or lies in a
folder that was deleted, and would be returned again if that were created. -/
theorem messages_found (pipe : Pipe) (rank : Nat → Nat) (precedes : GoString → GoString → Bool)
    (final : Mailboxes) (userID messageID : Nat)
    (runs : (mailboxes pipe).Runs (Smooth pipe userID messageID) emptyMailboxes final)
    (live : (userID, messageID) ∈ final.live)
    (uncrowded : Uncrowded final.stores.tables userID) :
    Returned (final.reads pipe.lib rank precedes) userID messageID ∨
      Stranded pipe.lib rank precedes final userID messageID := by
  have start : Mailboxes.InStep userID messageID emptyMailboxes := by
    constructor
    · rintro entry (stored | removed)
      · cases stored
      · cases removed
    · intro member
      cases member
  have inStep := runs.invariant (Mailboxes.InStep userID messageID) start
    fun inStep smooth taken => inStep.step smooth taken
  obtain ⟨folder, placed, standard | stored | removed⟩ := inStep.placed live
  · exact .inl (returned_of_placed rfl placed (folderName_standard standard) (.inl standard) uncrowded)
  · exact .inl (returned_of_placed rfl placed (inStep.names _ (.inl stored)) (.inr stored) uncrowded)
  · exact .inr (inStep.stranded placed removed uncrowded)

/-- A message comes for a user, who creates a folder and moves it there. -/
def sampleEvents : List MailboxEvent :=
  [.ingest (.external (ascii "eve@y") (ascii "alice@x") (ascii "hello")) (sampleConditions none),
    .createFolder 1 (ascii "Work") .done,
    .move ⟨1, 1, ascii "work", 5000000, .ok []⟩ fun _ => .done]

theorem uncrowded_of_few {tables : Tables} (few : tables.mailbox.length ≤ 200) (userID : Nat) :
    Uncrowded tables userID := by
  intro rank folder time
  refine (List.length_filter_le _ _).trans ?_
  rw [mailboxPartition, List.length_insertionSort, List.length_map]
  exact (List.length_filter_le _ _).trans few

/-- The message that was moved is found. -/
theorem messages_found_moved :
    Returned (((mailboxes samplePipe).after sampleEvents emptyMailboxes).reads .plain id
        fun _ _ => true) 1 1 ∨
      Stranded .plain id (fun _ _ => true) ((mailboxes samplePipe).after sampleEvents emptyMailboxes)
        1 1 := by
  refine messages_found samplePipe id (fun _ _ => true) _ 1 1 (Machine.after_runs _ ?_)
    (by decide) (uncrowded_of_few (by decide) 1)
  refine ⟨⟨by decide, fun package decided => ?_⟩, trivial,
    fun _ => ⟨by decide, by decide, by decide⟩, trivial⟩
  rcases intake_folder decided with standard | has
  · exact (folderName_standard standard).normalized _
  · exact absurd (Except.ok.inj has) Bool.false_ne_true

theorem apiMailMessagesList_ok {reads : MailReads} {userID : Nat} {request : ListRequest}
    {messages : List ManifestJSON}
    (replied : apiMailMessagesList reads userID request = .ok messages) :
    messages = (listMailbox reads.rank reads.tables userID (request.folderName reads.lib)
      (request.before.getD zeroTime) request.count).filterMap (messageOf reads userID) := by
  unfold apiMailMessagesList at replied
  dsimp only at replied
  split at replied
  · cases replied
  unfold MailReads.read at replied
  split at replied
  · cases replied
  next rows listed =>
  split at listed
  · cases listed
  · cases listed
    cases replied
    rfl

/-- Once the folder is deleted, the message is returned for no folder. -/
theorem deleted_folder_hides :
    (mailboxes samplePipe).Runs (fun _ _ => True) emptyMailboxes
        ((mailboxes samplePipe).after
          (sampleEvents ++ [MailboxEvent.deleteFolder 1 (ascii "work") .done]) emptyMailboxes) ∧
      (1, 1) ∈ ((mailboxes samplePipe).after
        (sampleEvents ++ [MailboxEvent.deleteFolder 1 (ascii "work") .done]) emptyMailboxes).live ∧
      ¬Returned (((mailboxes samplePipe).after
        (sampleEvents ++ [MailboxEvent.deleteFolder 1 (ascii "work") .done]) emptyMailboxes).reads .plain id
          fun _ _ => true) 1 1 := by
  refine ⟨Machine.after_runs _ (Machine.permits_of_forall (fun _ _ => trivial) _ _),
    by decide, ?_⟩
  generalize final : (mailboxes samplePipe).after
    (sampleEvents ++ [MailboxEvent.deleteFolder 1 (ascii "work") .done]) emptyMailboxes = boxes
  have folders : boxes.folders = [] := by
    rw [← final]
    decide
  have mailbox : boxes.stores.tables.mailbox.map (fun row => row.folder) = [ascii "work"] := by
    rw [← final]
    decide
  rintro ⟨entries, listed, entry, member, limit, before, messages, replied, message, there, -⟩
  have standard : entry.name ∈ standardFolders := by
    rw [apiMailboxFoldersList, MailReads.listUserFolders, MailReads.read, Mailboxes.reads, folders]
      at listed
    cases listed
    obtain ⟨name, standard, rfl⟩ : ∃ name ∈ standardFolders, folderEntry _ 1 true name = entry := by
      simpa using member
    exact standard
  have empty : mailboxPartition id boxes.stores.tables 1 entry.name = [] := by
    rw [List.eq_nil_iff_forall_not_mem]
    intro row inside
    obtain ⟨stored, within, -, named, -⟩ := mem_mailboxPartition.mp inside
    have work : stored.folder ∈ boxes.stores.tables.mailbox.map fun row => row.folder :=
      List.mem_map_of_mem within
    rw [mailbox, List.mem_singleton, named] at work
    rw [work] at standard
    exact absurd standard (by decide)
  have shown := apiMailMessagesList_ok replied
  rw [(folderName_standard standard).listed] at shown
  rw [shown] at there
  dsimp only [Mailboxes.reads] at there
  rw [listMailbox_of_empty empty] at there
  cases there

end ElvishMail.Httpserver
