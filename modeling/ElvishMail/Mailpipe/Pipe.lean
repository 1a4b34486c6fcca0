import ElvishMail.Mailmeta.Identity
import ElvishMail.Mailpipe.Filters
import ElvishMail.Mailstore.Tables
import ElvishMail.Openpgp.Sniff

/-!
# The ingest pipe

`internal/mailpipe/pipe.go`: how a raw message becomes the rows and the blob of
one mailbox. Everything before `persist` reads only; it decides what is stored
(`Package`), or that the message is dropped. `persist` then writes, and deletes
again what it wrote when a later write fails.

Logging, telemetry and the wiping of buffers are left out.
-/

namespace ElvishMail.Mailpipe

open Go Smtp Mailmeta Mailstore Openpgp Semantics

/-- `Pipe`: its dependencies, each of which may be missing, the size limit, and the
libraries it calls. -/
structure Pipe where
  hasBlob : Bool
  hasScylla : Bool
  hasMeta : Bool
  maxSize : Int
  lib : Library
  reader : Reader
  grammars : Grammars
  json : RuleJSON
  sha256 : GoString → GoString

/-- What one ingest meets: the answers of its queries, the results of
`openpgp.Encrypt`, the clock, and how its writes end. One ingest issues no two
writes of one kind. -/
structure Conditions where
  directory : Directory
  listMailFilters : (userID : Nat) → Except GoError (List MailFilterRow)
  userHasFolder : (userID : Nat) → GoString → Except GoError Bool
  encrypt : (armoredPublic plaintext : GoString) → Except GoError GoString
  now : Time
  outcome : Op → Outcome GoError

structure IngestResult where
  userID : Nat
  messageID : Nat := 0
  folder : GoString := []
  bodyBlobRef : GoString := []
  provenance : GoString := []
  sizeBytes : Int := 0
  dropped : Bool := false
deriving DecidableEq

/-- The arguments of `persist`. -/
structure Package where
  userID : Nat
  folder : GoString
  bodyCiphertext : GoString
  headerCiphertext : GoString
  provenance : GoString
  source : GoString
  headers : HeaderSummary
  fromAddr : GoString
  rcpt : List GoString
deriving DecidableEq

inductive Intake where
  | dropped (userID : Nat)
  | kept (package : Package)
deriving DecidableEq

namespace Pipe

variable (pipe : Pipe) (conditions : Conditions)

def checkSize (raw : GoString) : Except GoError Unit :=
  let max : Int := if pipe.maxSize > 0 then pipe.maxSize else 26 * 2 ^ 20
  if raw.length > max then
    .error (.plain (ascii "mailpipe: message exceeds max size (" ++ itoa max ++ ascii " bytes)"))
  else .ok ()

/-- `recipientIdentity` resolves an email to the active local mailbox identity. -/
def recipientIdentity (email : GoString) : Except GoError IdentityKey :=
  if !pipe.hasMeta then .error (.plain (ascii "mailpipe: nil meta store"))
  else
    let em := normalized pipe.lib email
    if em = [] then .error (.plain (ascii "mailpipe: empty recipient"))
    else match identityForEmail pipe.lib conditions.directory em with
      | .error err =>
        .error (.wrap (ascii "mailpipe: identity lookup " ++ em ++ ascii ": ") err.error)
      | .ok identity => .ok identity

/-- `materialize` decides the provenance and the ciphertext of the body. -/
def materialize (rawBody recipientPub : GoString) : Except GoError (GoString × GoString) :=
  if (sniff pipe.lib pipe.reader rawBody).isCiphertext then .ok (provenanceSenderPGPMime, rawBody)
  else match conditions.encrypt recipientPub rawBody with
    | .error err => .error (.wrap (ascii "mailpipe: gateway encrypt: ") err)
    | .ok ciphertext => .ok (provenanceSMTPGatewayEncrypted, ciphertext)

def encryptHeader (start armoredPublic : GoString) (headers : HeaderSummary) :
    Except GoError GoString :=
  match conditions.encrypt armoredPublic (pipe.grammars.toJSON headers) with
  | .error err => .error (if start = [] then err else .wrap start err)
  | .ok ciphertext => .ok ciphertext

def filterDecision (userID : Nat) (fromAddr recipient rawBody : GoString) (headers : HeaderSummary) :
    Except GoError IngestFilterDecision :=
  evalIngestPrivacyFilters pipe.lib pipe.json (conditions.listMailFilters userID)
    (conditions.userHasFolder userID) fromAddr recipient rawBody headers

def targetFolder (decision : IngestFilterDecision) : GoString :=
  if decision.targetFolder ≠ [] then decision.targetFolder else folderInbox

/-- `ingestPlaintext`, up to `persist`. -/
def plaintextIntake (source fromAddr recipient : GoString) (rcpt : List GoString)
    (rawBody : GoString) : Except GoError Intake := do
  pipe.checkSize rawBody
  let identity ← pipe.recipientIdentity conditions recipient
  let headers :=
    completeHeaderSummary pipe.lib (extractHeaders pipe.lib pipe.grammars rawBody) fromAddr rcpt
  let decision ← pipe.filterDecision conditions identity.userID fromAddr recipient rawBody headers
  if decision.drop then return .dropped identity.userID
  let (provenance, bodyCiphertext) ← pipe.materialize conditions rawBody identity.armoredPublic
  let headerCiphertext ←
    pipe.encryptHeader conditions (ascii "mailpipe: encrypt header: ") identity.armoredPublic headers
  return .kept
    { userID := identity.userID
      folder := targetFolder decision
      bodyCiphertext
      headerCiphertext
      provenance
      source
      headers
      fromAddr
      rcpt }

/-- The branch of `IngestExternal` for a body that is ciphertext already, up to
`persist`. -/
def ciphertextIntake (fromAddr recipient rawBody : GoString) : Except GoError Intake := do
  let identity ← pipe.recipientIdentity conditions recipient
  let headers :=
    completeHeaderSummary pipe.lib (extractHeaders pipe.lib pipe.grammars rawBody) fromAddr
      [recipient]
  let decision ← pipe.filterDecision conditions identity.userID fromAddr recipient rawBody headers
  if decision.drop then return .dropped identity.userID
  let headerCiphertext ←
    pipe.encryptHeader conditions (ascii "mailpipe: encrypt header: ") identity.armoredPublic headers
  return .kept
    { userID := identity.userID
      folder := targetFolder decision
      bodyCiphertext := rawBody
      headerCiphertext
      provenance := provenanceAlreadyEncrypted
      source := sourceSMTPInbound
      headers
      fromAddr
      rcpt := [recipient] }

/-- `IngestExternal`, up to `persist`. -/
def externalIntake (fromAddr recipient rawBody : GoString) : Except GoError Intake := do
  pipe.checkSize rawBody
  if (sniff pipe.lib pipe.reader rawBody).isCiphertext then
    pipe.ciphertextIntake conditions fromAddr recipient rawBody
  else
    pipe.plaintextIntake conditions sourceSMTPInbound fromAddr recipient [recipient] rawBody

/-- `IngestSubmission`, up to `persist`: the copy for the sender's own sent folder.
Neither the size nor any rule is looked at. -/
def submissionIntake (principalEmail fromAddr : GoString) (rcpt : List GoString)
    (rawBody : GoString) : Except GoError Package := do
  let sender ← (pipe.recipientIdentity conditions principalEmail).mapError
    (.wrap (ascii "mailpipe: principal identity: "))
  let (provenance, bodyCiphertext) ← pipe.materialize conditions rawBody sender.armoredPublic
  let headers := extractHeaders pipe.lib pipe.grammars rawBody
  let headerCiphertext ← pipe.encryptHeader conditions [] sender.armoredPublic headers
  return {
    userID := sender.userID
    folder := folderSent
    bodyCiphertext
    headerCiphertext
    provenance
    source := sourceSMTPSubmission
    headers
    fromAddr
    rcpt }

def validateHeaderCiphertext (headerCiphertext : GoString) : Except GoError Unit :=
  if headerCiphertext.length = 0 then
    .error (.plain (ascii "mailpipe: header ciphertext required"))
  else
    let kind := sniff pipe.lib pipe.reader headerCiphertext
    if kind = .cleartext then
      .error (.plain (ascii "mailpipe: header ciphertext must be encrypted"))
    else if !validateEncryptedBody pipe.lib pipe.reader headerCiphertext kind then
      .error (.plain (ascii "mailpipe: invalid header ciphertext"))
    else .ok ()

/-- `IngestClientSent`, up to `persist`: the copy the client encrypted for the
sender's own sent folder. No rule is looked at. -/
def clientSentIntake (principalEmail headerCiphertext rawCipher fromAddr : GoString)
    (rcpt : List GoString) : Except GoError Package := do
  pipe.checkSize rawCipher
  let sender ← pipe.recipientIdentity conditions principalEmail
  if sniff pipe.lib pipe.reader rawCipher = .cleartext then
    throw (.plain (ascii "mailpipe: IngestClientSent requires ciphertext body"))
  pipe.validateHeaderCiphertext headerCiphertext
  return {
    userID := sender.userID
    folder := folderSent
    bodyCiphertext := rawCipher
    headerCiphertext
    provenance := provenanceClientEncrypted
    source := sourceAPIClient
    headers := {}
    fromAddr
    rcpt }

/-- `IngestInternal`, up to `persist`: a message the client encrypted for a recipient's
inbox. No rule is looked at. -/
def clientInboxIntake (recipient headerCiphertext rawCipher fromAddr : GoString)
    (rcpt : List GoString) : Except GoError Package := do
  pipe.checkSize rawCipher
  let identity ← pipe.recipientIdentity conditions recipient
  if sniff pipe.lib pipe.reader rawCipher = .cleartext then
    throw (.plain (ascii "mailpipe: IngestInternal requires ciphertext body"))
  pipe.validateHeaderCiphertext headerCiphertext
  return {
    userID := identity.userID
    folder := folderInbox
    bodyCiphertext := rawCipher
    headerCiphertext
    provenance := provenanceClientEncrypted
    source := sourceAPIClient
    headers := {}
    fromAddr
    rcpt }

/-- `IngestInternalPlaintextWithHeader`, up to `persist`: a message generated by the
server itself, with the header summary it supplies. -/
def internalIntake (fromAddr recipient : GoString) (rcpt : List GoString) (rawBody : GoString)
    (headers : HeaderSummary) : Except GoError Package := do
  let identity ← pipe.recipientIdentity conditions recipient
  let (provenance, bodyCiphertext) ← pipe.materialize conditions rawBody identity.armoredPublic
  let headerCiphertext ←
    pipe.encryptHeader conditions (ascii "mailpipe: encrypt header: ") identity.armoredPublic headers
  return {
    userID := identity.userID
    folder := folderInbox
    bodyCiphertext
    headerCiphertext
    provenance
    source := sourceInternal
    headers
    fromAddr
    rcpt }

/-- `fingerprint`: the first eight bytes of the hash in hexadecimal. -/
def fingerprint (bytes : GoString) : GoString :=
  let digit (value : Nat) : UInt8 := ((ascii "0123456789abcdef")[value]?).getD 0
  ((pipe.sha256 bytes).take 8).flatMap fun byte => [digit (byte.toNat / 16), digit (byte.toNat % 16)]

/-- The compensating deletes after the manifest was inserted. Their errors are
ignored. -/
def compensate (package : Package) (messageID : Nat) (stores : Stores) : Stores :=
  let outcome := conditions.outcome
  let stores :=
    (deleteManifest outcome package.userID package.folder conditions.now messageID stores).2
  (stores.exec outcome (.deleteBlob (mailBodyKey package.userID messageID))).2

def compensateOptIn (package : Package) (messageID : Nat) (stores : Stores) : Stores :=
  let stores := (stores.exec conditions.outcome (.deleteOptInMetadata package.userID messageID)).2
  compensate conditions package messageID stores

/-- `persist` after `InsertManifest`: the opt-in projection, the ledger row, the
retention defaults and the lifecycle row. -/
def persistRecords (package : Package) (messageID : Nat) (stores : Stores) :
    Option GoError × Stores :=
  let outcome := conditions.outcome
  match stores.exec outcome (.setOptInMetadata
      { userID := package.userID
        messageID
        subject := package.headers.subject
        fromAddr := package.fromAddr
        toAddrs := package.rcpt
        sentAt := package.headers.date
        threadID := package.headers.threadID }) with
  | (some err, stores) =>
    (some (.wrap (ascii "mailpipe: opt-in metadata: ") err),
      compensate conditions package messageID stores)
  | (none, stores) =>
  match stores.exec outcome (.appendIngestLedger
      { userID := package.userID
        messageID
        source := package.source
        provenance := package.provenance
        bodyBlobRef := mailBodyKey package.userID messageID }) with
  | (some err, stores) =>
    (some (.wrap (ascii "mailpipe: ledger append: ") err),
      compensateOptIn conditions package messageID stores)
  | (none, stores) =>
  match stores.exec outcome (.ensureDefaultFolderRetention package.userID) with
  | (some err, stores) =>
    (some (.wrap (ascii "mailpipe: ensure folder retention: ") err),
      compensateOptIn conditions package messageID stores)
  | (none, stores) =>
  match upsertMessageLifecycle pipe.lib outcome
      { userID := package.userID
        messageID
        currentFolder := package.folder
        folderEnteredAt := conditions.now } stores with
  | (some err, stores) =>
    (some (.wrap (ascii "mailpipe: lifecycle append: ") err),
      compensateOptIn conditions package messageID stores)
  | (none, stores) => (none, stores)

/-- `persist` writes the blob, the manifest with its listing row, and the records.
When the manifest cannot be inserted, only the blob is deleted again; an event
that cannot be appended is not an error. -/
def persist (package : Package) (stores : Stores) : Except GoError IngestResult × Stores :=
  if !pipe.hasBlob || !pipe.hasScylla || !pipe.hasMeta then
    (.error (.plain (ascii "mailpipe: missing dependencies")), stores)
  else
    let outcome := conditions.outcome
    let stores := stores.draw
    let messageID := stores.lastID
    let bodyKey := mailBodyKey package.userID messageID
    let sizeBytes : Int := package.bodyCiphertext.length
    match stores.exec outcome (.putBlob bodyKey package.bodyCiphertext) with
    | (some err, stores) => (.error (.wrap (ascii "mailpipe: blob put: ") err), stores)
    | (none, stores) =>
    match insertManifest outcome
        { messageID
          userID := package.userID
          folder := package.folder
          bodyBlobRef := bodyKey
          bodySizeBytes := sizeBytes
          headerCiphertext := package.headerCiphertext
          provenance := package.provenance
          source := package.source
          hasAttachments := package.headers.attachments.length > 0
          createdAt := conditions.now } stores with
    | (some err, stores) =>
      (.error (.wrap (ascii "mailpipe: manifest insert: ") err),
        (stores.exec outcome (.deleteBlob bodyKey)).2)
    | (none, stores) =>
    match pipe.persistRecords conditions package messageID stores with
    | (some err, stores) => (.error err, stores)
    | (none, stores) =>
      (.ok
        { userID := package.userID
          messageID
          folder := package.folder
          bodyBlobRef := bodyKey
          provenance := package.provenance
          sizeBytes },
        (stores.exec outcome (.appendEvent
          { userID := package.userID
            eventAt := conditions.now
            kind := ascii "ingest"
            messageID
            detail := pipe.fingerprint package.bodyCiphertext })).2)

/-- `IngestExternal` accepts an inbound external SMTP message. -/
def ingestExternal (fromAddr recipient rawBody : GoString) (stores : Stores) :
    Except GoError IngestResult × Stores :=
  match pipe.externalIntake conditions fromAddr recipient rawBody with
  | .error err => (.error err, stores)
  | .ok (.dropped userID) => (.ok { userID, dropped := true }, stores)
  | .ok (.kept package) => pipe.persist conditions package stores

/-- `IngestSubmission` stores the sender's outbound copy in the sender's sent
folder. -/
def ingestSubmission (principalEmail fromAddr : GoString) (rcpt : List GoString)
    (rawBody : GoString) (stores : Stores) : Except GoError IngestResult × Stores :=
  match pipe.submissionIntake conditions principalEmail fromAddr rcpt rawBody with
  | .error err => (.error err, stores)
  | .ok package => pipe.persist conditions package stores

/-- `IngestClientSent` stores ciphertext and a header ciphertext from an authenticated
client in the sender's sent folder. -/
def ingestClientSent (principalEmail headerCiphertext rawCipher fromAddr : GoString)
    (rcpt : List GoString) (stores : Stores) : Except GoError IngestResult × Stores :=
  match pipe.clientSentIntake conditions principalEmail headerCiphertext rawCipher fromAddr rcpt with
  | .error err => (.error err, stores)
  | .ok package => pipe.persist conditions package stores

/-- `IngestInternal` stores ciphertext and a header ciphertext from an authenticated
client in the recipient's inbox. -/
def ingestInternal (recipient headerCiphertext rawCipher fromAddr : GoString)
    (rcpt : List GoString) (stores : Stores) : Except GoError IngestResult × Stores :=
  match pipe.clientInboxIntake conditions recipient headerCiphertext rawCipher fromAddr rcpt with
  | .error err => (.error err, stores)
  | .ok package => pipe.persist conditions package stores

/-- `IngestInternalPlaintextWithHeader` stores a server-authored message in the
recipient's inbox. -/
def ingestInternalPlaintextWithHeader (fromAddr recipient : GoString) (rcpt : List GoString)
    (rawBody : GoString) (headers : HeaderSummary) (stores : Stores) :
    Except GoError IngestResult × Stores :=
  match pipe.internalIntake conditions fromAddr recipient rcpt rawBody headers with
  | .error err => (.error err, stores)
  | .ok package => pipe.persist conditions package stores

end Pipe

def samplePipe : Pipe where
  hasBlob := true
  hasScylla := true
  hasMeta := true
  maxSize := 26 * 2 ^ 20
  lib := .plain
  reader := { armorDecode := fun _ => none, packets := fun _ => [] }
  grammars :=
    { decodeHeader := fun _ => none
      parseDate := fun _ => none
      parseAddressList := fun _ => none
      toJSON := fun headers => ascii "\x7b\"from\":\"" ++ headers.fromAddr ++ ascii "\"\x7d" }
  json := { conditions := fun _ => none, actions := fun _ => none }
  sha256 := id

/-- Two mailboxes, no rules, and a store in which writes of one kind may fail. -/
def sampleConditions (down : Option Op) : Conditions where
  directory :=
    { identityForExactEmail := fun email =>
        if email = ascii "alice@x" then .ok ⟨1, ascii "alice@x", ascii "KEY1"⟩
        else if email = ascii "bob@x" then .ok ⟨2, ascii "bob@x", ascii "KEY2"⟩
        else .error .notFound
      identityForAliasEmail := fun _ => .error .notFound
      identityForCatchall := fun _ => .error .notFound }
  listMailFilters := fun _ => .ok []
  userHasFolder := fun _ _ => .ok false
  encrypt := fun armoredPublic plaintext => .ok (armoredPublic ++ ascii ":" ++ plaintext)
  now := 0
  outcome := fun op =>
    if some op = down then .refused (.plain (ascii "connection refused")) else .done

def emptyStores : Stores where
  tables := {}
  outbox := ⟨[], List.nodup_nil⟩
  lastID := 0
  drawn := by simp

end ElvishMail.Mailpipe
