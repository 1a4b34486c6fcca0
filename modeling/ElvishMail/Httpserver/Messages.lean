import ElvishMail.Go.Base64
import ElvishMail.Httpserver.Reply
import ElvishMail.Mailops.Service
import ElvishMail.Mailpipe.Filters
import ElvishMail.Mailstore.Listing
import ElvishMail.Semantics.Paging

/-!
# Listing messages

`internal/httpserver/api_mail.go`: `apiMailMessagesList` lists a folder, and
`static/mail/mail-manifest.js` asks for it. A time is sent as text, which is read back
if its year has four digits.
-/

namespace ElvishMail.Httpserver

open Go Smtp Mailmeta Mailstore Mailops Mailpipe Semantics

inductive MailRead where
  | userFolders (userID : Nat)
  | mailbox (userID : Nat) (folder : GoString)
  | count (userID : Nat) (folder : GoString)
  | manifest (messageID : Nat)
  | flags (userID messageID : Nat)
  | optIn (userID messageID : Nat)
deriving DecidableEq

/-- The stores as the handlers read them: the tables, the rows of `mail_user_folders`
(user and name), how the databases order ids and names, and which reads fail. -/
structure MailReads where
  lib : Library
  rank : Nat → Nat
  precedes : GoString → GoString → Bool
  tables : Tables
  folders : List (Nat × GoString)
  failing : MailRead → Option GoError

namespace MailReads

variable (reads : MailReads) (userID : Nat)

def read {Value : Type} (query : MailRead) (value : Except GoError Value) : Except GoError Value :=
  match reads.failing query with
  | some err => .error err
  | none => value

/-- `GetManifest` returns a single manifest by id, which must belong to the user. -/
def getManifest (messageID : Nat) : Except GoError Manifest :=
  reads.read (.manifest messageID)
    (match manifestOf reads.tables messageID with
    | none => .error errNotFound
    | some row => if row.userID ≠ userID then .error errNotFound else .ok (scanned row))

def getFlags (messageID : Nat) : Except GoError FlagsRow :=
  reads.read (.flags userID messageID)
    (match flagsOf reads.tables userID messageID with
    | none => .error errNotFound
    | some row => .ok row)

def getOptInMetadata (messageID : Nat) : Except GoError OptInRow :=
  reads.read (.optIn userID messageID)
    (match Rows.find (fun row : OptInRow => (row.userID, row.messageID)) (userID, messageID)
      reads.tables.optIn with
    | none => .error errNotFound
    | some row => .ok row)

/-- `UserHasFolder`. -/
def hasFolder (name : GoString) : Except GoError Bool :=
  reads.read (.userFolders userID) (.ok (userHasFolder reads.lib reads.folders userID name))

def listUserFolders : Except GoError (List GoString) :=
  reads.read (.userFolders userID)
    (.ok (((reads.folders.filter fun row => row.1 = userID).map Prod.snd).insertionSort
      fun first later => reads.precedes first later))

end MailReads

structure ManifestJSON where
  id : Nat
  folder : GoString
  bodyBlobRef : GoString
  bodySizeBytes : Int
  headerCiphertextB64 : GoString
  provenance : GoString
  source : GoString
  hasAttachments : Bool
  receivedAt : Time
  subject : GoString := []
  fromAddr : GoString := []
  toAddrs : List GoString := []
  sentAt : Option Time := none
  threadID : GoString := []
  flagsSummary : GoString := []
  read : Bool := false
deriving DecidableEq

/-- `buildManifestJSON` merges a manifest with its listing row and with the sparse
metadata. Flags and metadata that cannot be read are left out. -/
def buildManifestJSON (reads : MailReads) (userID : Nat) (row : Option MailboxRow) (mf : Manifest) :
    ManifestJSON :=
  let plain : ManifestJSON :=
    { id := mf.messageID
      folder := mf.folder
      bodyBlobRef := mf.bodyBlobRef
      bodySizeBytes := mf.bodySizeBytes
      headerCiphertextB64 := base64Encode mf.headerCiphertext
      provenance := mf.provenance
      source := mf.source
      hasAttachments := (row.map MailboxRow.hasAttachments).getD mf.hasAttachments
      receivedAt := (row.map MailboxRow.receivedAt).getD (timestamp mf.createdAt)
      read :=
        match reads.getFlags userID mf.messageID with
        | .ok flags => flags.read
        | .error _ => false }
  match reads.getOptInMetadata userID mf.messageID with
  | .error _ => plain
  | .ok opt =>
    { plain with
      subject := opt.subject
      fromAddr := opt.fromAddr
      toAddrs := opt.toAddrs
      sentAt := (opt.sentAt.map timestamp).filter fun time => time ≠ zeroTime
      threadID := opt.threadID
      flagsSummary := opt.flagsSummary }

/-- The parameters of a listing request: texts, and the time that `before` reads as. -/
structure ListRequest where
  folder : GoString
  limit : GoString := []
  before : Option Time := none
deriving DecidableEq

def ListRequest.folderName (lib : Library) (request : ListRequest) : GoString :=
  let folder := trimSpace (toLower lib request.folder)
  if folder = [] then folderInbox else folder

def ListRequest.count (request : ListRequest) : Int :=
  match parseInt64 (trimSpace request.limit) with
  | some limit => if limit > 0 then limit else 50
  | none => 50

/-- `mailStorageLikelySchemaIssue` detects missing tables and columns. -/
def mailStorageLikelySchemaIssue (lib : Library) (err : GoError) : Bool :=
  let text := toLower lib err.text
  let mentions (words : GoString) : Bool := (index text words).isSome
  mentions (ascii "invalid table") || mentions (ascii "table") && mentions (ascii "does not exist") ||
    mentions (ascii "unconfigured table") || mentions (ascii "no column") ||
    mentions (ascii "unknown identifier")

def storageUnavailable (lib : Library) (err : GoError) : Refusal :=
  .status 503
    (if mailStorageLikelySchemaIssue lib err then
      ascii "mail storage schema missing or out of date; run \x60make db-up\x60 or \x60docker compose run --rm scylla-init\x60"
    else ascii "mail storage unavailable")

section List

variable (reads : MailReads) (userID : Nat)

/-- Whether a folder can be listed: the standard ones, and those of the user. -/
def knownFolder (folder : GoString) : Bool :=
  standardFolders.contains folder ||
    match reads.hasFolder userID folder with
    | .ok has => has
    | .error _ => false

def messageOf (row : MailboxRow) : Option ManifestJSON :=
  match reads.getManifest userID row.messageID with
  | .error _ => none
  | .ok mf => some (buildManifestJSON reads userID (some row) mf)

def apiMailMessagesList (request : ListRequest) : Except Refusal (List ManifestJSON) :=
  let folder := request.folderName reads.lib
  if !knownFolder reads userID folder then .error (.status 400 (ascii "unknown folder"))
  else
    match reads.read (.mailbox userID folder)
      (.ok (listMailbox reads.rank reads.tables userID folder (request.before.getD zeroTime)
        request.count)) with
    | .error err => .error (storageUnavailable reads.lib err)
    | .ok rows => .ok (rows.filterMap (messageOf reads userID))

def yearZero : Time := -62167219200 * second
def yearTenThousand : Time := 253402300800 * second

/-- Whether `time.Parse` accepts what `Format` writes, in the layout `RFC3339Nano`. -/
def readsBack (time : Time) : Bool := yearZero ≤ time && time < yearTenThousand

/-- `fetchManifests` of the browser, whose cutoff is a time it was sent. -/
def fetchManifests (folder : GoString) (limit : Nat) (before : Option Time) :
    Except Refusal (List ManifestJSON) :=
  apiMailMessagesList reads userID
    { folder
      limit := itoa limit
      before := before.filter fun time => readsBack time }

end List

end ElvishMail.Httpserver
