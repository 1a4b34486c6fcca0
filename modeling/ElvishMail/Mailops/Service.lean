import ElvishMail.Mailstore.Tables
import ElvishMail.Semantics.Program

/-!
# Mailbox operations

`internal/mailops/service.go`: moving a message to another folder and deleting it
for good, over two databases and object storage without a transaction. An
operation is a program of single statements, each of which may fail.
-/

namespace ElvishMail.Mailops

open Go Smtp Mailmeta Mailstore Semantics

def manifestOf (tables : Tables) (messageID : Nat) : Option ManifestRow :=
  Rows.find ManifestRow.messageID messageID tables.manifests

def lifecycleOf (tables : Tables) (userID messageID : Nat) : Option MessageLifecycle :=
  Rows.find (fun row : MessageLifecycle => (row.userID, row.messageID)) (userID, messageID)
    tables.lifecycle

def flagsOf (tables : Tables) (userID messageID : Nat) : Option FlagsRow :=
  Rows.find (fun row : FlagsRow => (row.userID, row.messageID)) (userID, messageID) tables.flags

def listing (tables : Tables) (messageID : Nat) : List MailboxRow :=
  tables.mailbox.filter fun row => row.messageID = messageID

inductive Statement where
  | selectManifest (messageID : Nat)
  | selectMessageLifecycle (userID messageID : Nat)
  | selectFlags (userID messageID : Nat)
  | write (effect : Write)
deriving DecidableEq

namespace Statement

abbrev Answer : Statement → Type
  | selectManifest _ => Except GoError (Option ManifestRow)
  | selectMessageLifecycle .. => Except GoError (Option MessageLifecycle)
  | selectFlags .. => Except GoError (Option FlagsRow)
  | write _ => Option GoError

def read {Row : Type} (outcome : Outcome GoError) (row : Option Row) : Except GoError (Option Row) :=
  match outcome.error? with
  | some err => .error err
  | none => .ok row

def answer (outcome : Outcome GoError) : (statement : Statement) → Stores → statement.Answer × Stores
  | selectManifest messageID, stores => (read outcome (manifestOf stores.tables messageID), stores)
  | selectMessageLifecycle userID messageID, stores =>
    (read outcome (lifecycleOf stores.tables userID messageID), stores)
  | selectFlags userID messageID, stores =>
    (read outcome (flagsOf stores.tables userID messageID), stores)
  | write effect, stores => outcome.exec (Stores.apply effect) stores

end Statement

abbrev Statements (Value : Type) : Type := Program Statement Statement.Answer Value

/-- `ErrNotFound` of the mailbox tables. -/
def errNotFound : GoError := .plain (ascii "scyllastore: not found")

/-- `ErrNotFound` of object storage. -/
def errBlobNotFound : GoError := .plain (ascii "blobstore: not found")

def scanned (row : ManifestRow) : Manifest where
  messageID := row.messageID
  userID := row.userID
  folder := row.folder
  bodyBlobRef := row.bodyBlobRef
  bodySizeBytes := row.bodySizeBytes
  headerCiphertext := row.headerCiphertext
  provenance := row.provenance
  source := row.source
  hasAttachments := false
  createdAt := row.createdAt

/-- `GetManifest` returns a single manifest by id, which must belong to the user. -/
def getManifest (userID messageID : Nat) : Statements (Except GoError Manifest) :=
  .ask (.selectManifest messageID) fun
    | .error err => .done (.error err)
    | .ok none => .done (.error errNotFound)
    | .ok (some row) =>
      if row.userID ≠ userID then .done (.error errNotFound)
      else .done (.ok (scanned row))

/-- `UpsertMessageLifecycle`. -/
def upsertLifecycle (lib : Library) (row : MessageLifecycle) : Statements (Option GoError) :=
  if row.userID = 0 ∨ row.messageID = 0 then
    .done (some (.plain (ascii "mailmeta: lifecycle ids required")))
  else
    let folder := normalizeFolderName lib row.currentFolder
    if folder = [] then .done (some (.plain (ascii "mailmeta: lifecycle folder required")))
    else .ask (.write (.upsertMessageLifecycle { row with currentFolder := folder })) .done

def execAll : List Write → Statements (Option GoError)
  | [] => .done none
  | write :: rest =>
    .ask (.write write) fun
      | some err => .done (some err)
      | none => execAll rest

def execBlindly {Value : Type} (value : Value) : List Write → Statements Value
  | [] => .done value
  | write :: rest => .ask (.write write) fun _ => execBlindly value rest

/-- `Service`: which stores are configured. -/
structure Service where
  hasMeta : Bool
  hasScylla : Bool
  hasBlob : Bool
  lib : Library

structure MoveResult where
  messageID : Nat
  priorFolder : GoString
  folder : GoString
deriving DecidableEq

/-- Where a message is listed: the folder and when it was entered. -/
structure Place where
  folder : GoString
  enteredAt : Time
deriving DecidableEq

/-- The place of a message, as both operations look for it: the lifecycle row's, or
the manifest's if that row cannot be had. -/
def locate (userID messageID : Nat) (mf : Manifest) : Statements Place :=
  .ask (.selectMessageLifecycle userID messageID) fun
    | .ok (some lc) => .done ⟨lc.currentFolder, lc.folderEnteredAt⟩
    | _ => .done ⟨mf.folder, mf.createdAt⟩

def listingRow (mf : Manifest) (place : Place) : MailboxRow where
  userID := mf.userID
  folder := place.folder
  receivedAt := timestamp place.enteredAt
  messageID := mf.messageID
  bodySizeBytes := mf.bodySizeBytes
  provenance := mf.provenance
  hasAttachments := mf.hasAttachments

def unlist (mf : Manifest) (place : Place) : Write :=
  .deleteMailboxRow mf.userID place.folder (timestamp place.enteredAt) mf.messageID

section Move

variable (lib : Library) (userID messageID : Nat) (mf : Manifest) (old new : Place)

/-- `updateFolderFlags`, and the event. -/
def announce : Statements (Except GoError MoveResult) :=
  let event : Write := .appendEvent
    { userID
      eventAt := new.enteredAt
      kind := ascii "move_folder"
      messageID
      detail := old.folder ++ ascii "->" ++ new.folder }
  let result : Except GoError MoveResult := .ok ⟨messageID, old.folder, new.folder⟩
  .ask (.selectFlags userID messageID) fun
    | .error _ => execBlindly result [event]
    | .ok flags =>
      let flags := flags.getD { userID, messageID, read := false }
      execBlindly result
        [.insertFlags
          { flags with
            userID
            messageID
            deleted := new.folder == folderTrash
            archived := new.folder == folderArchive },
          event]

/-- `MoveMessage` from the lifecycle row on. -/
def moveLifecycle : Statements (Except GoError MoveResult) :=
  upsertLifecycle lib
      { userID, messageID, currentFolder := new.folder, folderEnteredAt := new.enteredAt } >>= fun
    | some err =>
      execBlindly (.error err)
        [.insertMailboxRow (listingRow mf old), .updateManifestFolder mf.messageID old.folder,
          unlist mf new]
    | none => announce userID messageID old new

/-- `MoveMessage` from the delete of the old row on. -/
def moveUnlist : Statements (Except GoError MoveResult) :=
  .ask (.write (unlist mf old)) fun
    | some err =>
      execBlindly (.error err) [.updateManifestFolder mf.messageID old.folder, unlist mf new]
    | none => moveLifecycle lib userID messageID mf old new

/-- `MoveMessage` from the update of the manifest on. -/
def moveManifest : Statements (Except GoError MoveResult) :=
  .ask (.write (.updateManifestFolder mf.messageID new.folder)) fun
    | some err => execBlindly (.error err) [unlist mf new]
    | none => moveUnlist lib userID messageID mf old new

/-- `MoveMessage` from the insert of the new row on. -/
def moveListing : Statements (Except GoError MoveResult) :=
  .ask (.write (.insertMailboxRow (listingRow mf new))) fun
    | some err => .done (.error err)
    | none => moveManifest lib userID messageID mf old new

end Move

/-- A call of `MoveMessage`: its arguments, the time it reads, and the user folders as
`UserHasFolder` finds them. -/
structure MoveCall where
  userID : Nat
  messageID : Nat
  targetFolder : GoString
  now : Time
  folders : Except GoError (List (Nat × GoString))

variable (service : Service)

def MoveCall.target (call : MoveCall) : GoString := trimSpace (toLower service.lib call.targetFolder)

def MoveCall.refusal (call : MoveCall) : Option GoError :=
  if !service.hasMeta || !service.hasScylla then
    some (.plain (ascii "mailops: missing dependencies"))
  else
    let targetFolder := call.target service
    if targetFolder = [] then some (.plain (ascii "mailops: target folder required"))
    else if standardFolders.contains targetFolder then none
    else match call.folders with
      | .error err => some err
      | .ok stored =>
        if userHasFolder service.lib stored call.userID targetFolder then none
        else some (.plain (ascii "mailops: unknown folder"))

/-- `MoveMessage` moves a message into another folder and updates lifecycle
tracking. -/
def moveMessage (call : MoveCall) : Statements (Except GoError MoveResult) :=
  match call.refusal service with
  | some err => .done (.error err)
  | none =>
    let target := call.target service
    getManifest call.userID call.messageID >>= fun
      | .error err => .done (.error err)
      | .ok mf =>
        if mf.folder = target then .done (.ok ⟨call.messageID, mf.folder, target⟩)
        else
          locate call.userID call.messageID mf >>= fun old =>
            moveListing service.lib call.userID call.messageID mf old ⟨target, call.now⟩

structure DeleteResult where
  messageID : Nat
  folder : GoString
deriving DecidableEq

/-- The rows that `DeletePermanent` deletes, in its order. -/
def rowDeletes (userID messageID : Nat) (place : Place) : List Write :=
  [.deleteManifestRow messageID,
    .deleteMailboxRow userID place.folder (timestamp place.enteredAt) messageID,
    .deleteFlags userID messageID,
    .deleteOptInMetadata userID messageID,
    .deleteMessageLifecycle userID messageID]

/-- `DeletePermanent` once the message is found. -/
def purge (userID messageID : Nat) (mf : Manifest) (place : Place) (now : Time) :
    Statements (Except GoError DeleteResult) :=
  execAll (rowDeletes userID messageID place) >>= fun
    | some err => .done (.error err)
    | none =>
      let finish : Statements (Except GoError DeleteResult) :=
        execBlindly (.ok ⟨messageID, place.folder⟩)
          [.appendEvent
            { userID
              eventAt := now
              kind := ascii "delete"
              messageID
              detail := place.folder }]
      .ask (.write (.deleteBlob mf.bodyBlobRef)) fun
        | some err => if err.isErr errBlobNotFound then finish else .done (.error err)
        | none => finish

/-- `DeletePermanent` deletes a message and its lifecycle metadata. -/
def deletePermanent (userID messageID : Nat) (now : Time) :
    Statements (Except GoError DeleteResult) :=
  if !service.hasMeta || !service.hasScylla || !service.hasBlob then
    .done (.error (.plain (ascii "mailops: missing dependencies")))
  else
    getManifest userID messageID >>= fun
      | .error err => .done (.error err)
      | .ok mf =>
        locate userID messageID mf >>= fun place => purge userID messageID mf place now

/-- What `apiMailMessageDelete` did. -/
inductive Deletion where
  | permanent (result : DeleteResult)
  | trashed (result : MoveResult)
deriving DecidableEq

/-- `apiMailMessageDelete`: a message is moved to the trash; from there, or on demand,
it is deleted for good. -/
def apiMailMessageDelete (permanent : Bool) (userID messageID : Nat) (now : Time) :
    Statements (Except GoError Deletion) :=
  let purged (messageID : Nat) : Statements (Except GoError Deletion) :=
    deletePermanent service userID messageID now >>= fun result =>
      .done (result.map Deletion.permanent)
  if permanent then purged messageID
  else
    getManifest userID messageID >>= fun
      | .error err => .done (.error err)
      | .ok mf =>
        if mf.folder = folderTrash then purged mf.messageID
        else
          moveMessage service
              { userID
                messageID := mf.messageID
                targetFolder := folderTrash
                now
                folders := .ok [] } >>= fun result =>
            .done (result.map Deletion.trashed)

end ElvishMail.Mailops
