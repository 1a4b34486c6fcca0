import ElvishMail.Mailmeta.Outbox
import ElvishMail.Semantics.Remote
import ElvishMail.Smtp.Wire

/-!
# Folders, rules and message records

`internal/mailmeta`: the constants and rows of `constants.go`,
`folders_filters.go` and `retention.go`, and the ingest ledger.
-/

namespace ElvishMail.Mailmeta

open Go Smtp Semantics

def folderInbox : GoString := ascii "inbox"
def folderSent : GoString := ascii "sent"
def folderDrafts : GoString := ascii "drafts"
def folderTrash : GoString := ascii "trash"
def folderArchive : GoString := ascii "archive"

def standardFolders : List GoString :=
  [folderInbox, folderSent, folderDrafts, folderTrash, folderArchive]

def sourceSMTPInbound : GoString := ascii "smtp_inbound"
def sourceSMTPSubmission : GoString := ascii "smtp_submission"
def sourceInternal : GoString := ascii "internal"
def sourceAPIClient : GoString := ascii "api_client"

def provenanceAlreadyEncrypted : GoString := ascii "already_encrypted"
def provenanceSMTPGatewayEncrypted : GoString := ascii "smtp_gateway_encrypted"
def provenanceSenderPGPMime : GoString := ascii "sender_pgp_mime"
def provenanceClientEncrypted : GoString := ascii "client_encrypted"

def normalizeFolderName (lib : Library) (name : GoString) : GoString :=
  (trimSpace (toLower lib name)).take 50

/-- `UserHasFolder`, on the rows of `mail_user_folders` (user and name). -/
def userHasFolder (lib : Library) (stored : List (Nat × GoString)) (userID : Nat) (name : GoString) :
    Bool :=
  stored.contains (userID, normalizeFolderName lib name)

/-- An error of `CreateUserFolder` or `DeleteUserFolder`. -/
inductive FolderError where
  | invalid (text : GoString)
  | duplicateKey
  | notFound
  | failed (err : GoError)
deriving DecidableEq

/-- The `Error` method. -/
def FolderError.text : FolderError → GoString
  | invalid text => text
  | duplicateKey => ascii "ERROR: duplicate key value violates unique constraint (SQLSTATE 23505)"
  | notFound => ascii "mailmeta: not found"
  | failed err => err.text

/-- `CreateUserFolder` inserts a folder name. The primary key is user and name. -/
def createUserFolder (lib : Library) (outcome : Outcome GoError) (userID : Nat) (name : GoString)
    (stored : List (Nat × GoString)) : Option FolderError × List (Nat × GoString) :=
  let name := normalizeFolderName lib name
  if name = [] then (some (.invalid (ascii "mailmeta: invalid folder name")), stored)
  else if name ∈ standardFolders then
    (some (.invalid (ascii "mailmeta: reserved folder name")), stored)
  else if (userID, name) ∈ stored then
    (some ((outcome.error?.map FolderError.failed).getD .duplicateKey), stored)
  else
    match outcome.exec (fun rows => rows ++ [(userID, name)]) stored with
    | (some err, stored) => (some (.failed err), stored)
    | (none, stored) => (none, stored)

/-- `DeleteUserFolder` removes the row of a folder, and leaves its messages where they
are. -/
def deleteUserFolder (lib : Library) (outcome : Outcome GoError) (userID : Nat) (name : GoString)
    (stored : List (Nat × GoString)) : Option FolderError × List (Nat × GoString) :=
  let name := normalizeFolderName lib name
  match outcome.exec (fun rows => rows.filter fun row => row ≠ (userID, name)) stored with
  | (some err, stored) => (some (.failed err), stored)
  | (none, left) => (if (userID, name) ∈ stored then none else some .notFound, left)

structure MailFilterRow where
  enabled : Bool
  conditions : GoString
  actions : GoString
deriving DecidableEq

/-- A row of `mail_ingest_ledger`. -/
structure IngestLedger where
  userID : Nat
  messageID : Nat
  source : GoString
  provenance : GoString
  bodyBlobRef : GoString
deriving DecidableEq

/-- A row of `mail_folder_retention`. -/
structure FolderRetention where
  userID : Nat
  folder : GoString
  retentionDays : Option Nat
deriving DecidableEq

/-- `DefaultFolderRetention`, in the order in which the rows are inserted. -/
def defaultFolderRetention : List (GoString × Option Nat) :=
  [(folderInbox, none), (folderSent, some 30), (folderTrash, some 30), (folderArchive, none)]

/-- A row of `mail_message_lifecycle`. -/
structure MessageLifecycle where
  userID : Nat
  messageID : Nat
  currentFolder : GoString
  folderEnteredAt : Time
deriving DecidableEq

end ElvishMail.Mailmeta
