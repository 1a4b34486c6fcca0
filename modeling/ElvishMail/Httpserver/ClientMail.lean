import ElvishMail.Httpserver.Outgoing
import ElvishMail.Mailops.Sweep
import ElvishMail.Mailpipe.Pipe

/-!
# Mail from the browser

`internal/httpserver/api_mail.go`: `apiMailMessagesPost` delivers a message that the
browser encrypted to a local recipient and files the sender's copy;
`apiMailMessagePatch` marks a message, moves it, or stores another header for it.
The third such request is `apiMailOutboxPost`.

With each request goes the list of byte strings that it has written to a blob or to a
header column. That a recipient becomes visible to a sender is left out.
-/

namespace ElvishMail

open Go Smtp Mailmeta Mailstore Mailpipe Mailops Semantics

def Mailstore.Write.contents : Write → List GoString
  | putBlob _ body => [body]
  | insertManifestRow row => [row.headerCiphertext]
  | _ => []

namespace Mailpipe

/-- What `persist` writes of a message: its body, and its header unless the blob could not
be stored. -/
def Pipe.written (pipe : Pipe) (conditions : Conditions) :
    Except GoError Package → List GoString
  | .error _ => []
  | .ok package =>
    if !pipe.hasBlob || !pipe.hasScylla || !pipe.hasMeta then []
    else if (conditions.outcome .putBlob).fails then [package.bodyCiphertext]
    else [package.bodyCiphertext, package.headerCiphertext]

end Mailpipe

namespace Httpserver

structure MailServer extends Server where
  pipe : Pipe

/-- `mailops.New`, on the same stores. -/
def MailServer.service (server : MailServer) : Service where
  hasMeta := server.pipe.hasMeta
  hasScylla := server.pipe.hasScylla
  hasBlob := server.pipe.hasBlob
  lib := server.lib

def notFound : Refusal := .status 404 (ascii "404 page not found")

structure MessagesPostBody where
  recipient : GoString
  headerCiphertextB64 : GoString
  bodyCiphertextB64 : GoString
  senderHeaderCiphertextB64 : GoString
  senderBodyCiphertextB64 : GoString
  fromAddr : GoString
  toAddrs : List GoString
deriving DecidableEq

def MessagesPostBody.hasSentCopy (body : MessagesPostBody) : Bool :=
  !(trimSpace body.senderHeaderCiphertextB64).isEmpty ||
    !(trimSpace body.senderBodyCiphertextB64).isEmpty

structure ClientMessage where
  body : MessagesPostBody
  cipher : GoString
  headerCT : GoString
  senderHeaderCT : GoString := []
  senderCipher : GoString := []
deriving DecidableEq

/-- Decode the fields of a request; a body that is no JSON is `none`. -/
def decodeMessage : Option MessagesPostBody → Except Refusal ClientMessage
  | none => .error (.status 400 (ascii "invalid json"))
  | some body =>
    if body.recipient = [] ∨ body.bodyCiphertextB64 = [] then
      .error (.status 400 (ascii "recipient and body_ciphertext_b64 required"))
    else match base64Decode body.bodyCiphertextB64 with
      | none => .error (.status 400 (ascii "invalid body_ciphertext_b64"))
      | some cipher =>
        match base64Decode body.headerCiphertextB64 with
        | none => .error (.status 400 (ascii "invalid header_ciphertext_b64"))
        | some headerCT =>
          if !body.hasSentCopy then .ok { body, cipher, headerCT }
          else if body.senderHeaderCiphertextB64 = [] ∨ body.senderBodyCiphertextB64 = [] then
            .error
              (.status 400 (ascii "sender sent-copy ciphertext requires both header and body"))
          else match base64Decode body.senderHeaderCiphertextB64 with
            | none => .error (.status 400 (ascii "invalid sender_header_ciphertext_b64"))
            | some senderHeaderCT =>
              match base64Decode body.senderBodyCiphertextB64 with
              | none => .error (.status 400 (ascii "invalid sender_body_ciphertext_b64"))
              | some senderCipher =>
                .ok { body, cipher, headerCT, senderHeaderCT, senderCipher }

/-- What a request meets: an error of the query for the sender, what each of its two
ingests meets, and how the statements end that take the first back. -/
structure PostSituation where
  lookup : Option GoError
  sent : Conditions
  inbox : Conditions
  now : Time
  undo : Nat → Outcome GoError

structure MessagePosted where
  id : Nat
  blobRef : GoString
  sentMessageID : Option Nat
deriving DecidableEq

/-- The outcome of a request: its answer, the stores, and what it has written to them. -/
abbrev Posted := Except Refusal MessagePosted × Stores × List GoString

section Requests

variable (server : MailServer) (userID : Nat)

/-- Whether sender and recipient of a request are found. -/
def checkParties (situation : PostSituation) (body : MessagesPostBody) : Except Refusal Unit :=
  match situation.lookup with
  | some err => .error (.internal (ascii "sender identity lookup") err)
  | none =>
    match identityForUserEmail server.lib server.identities userID body.fromAddr with
    | none => .error (.status 400 (ascii "from_addr must be one of your active identities"))
    | some _ =>
      match identityForEmail server.lib server.directory body.recipient with
      | .error .notFound =>
        .error (.status 400 (ascii "recipient is not a local Elvish identity"))
      | .error (.failed err) => .error (.internal (ascii "recipient identity lookup") err)
      | .ok _ => .ok ()

def deliverMessage (situation : PostSituation) (message : ClientMessage)
    (senderCopy : Option IngestResult) (stores : Stores) : Posted :=
  let body := message.body
  let written := server.pipe.written situation.inbox (server.pipe.clientInboxIntake situation.inbox
    body.recipient message.headerCT message.cipher body.fromAddr body.toAddrs)
  match server.pipe.ingestInternal situation.inbox body.recipient message.headerCT message.cipher
      body.fromAddr body.toAddrs stores with
  | (.error err, stores) =>
    let stores := match senderCopy with
      | none => stores
      | some copy =>
        ((deletePermanent server.service copy.userID copy.messageID situation.now).run
          Mailops.Statement.answer situation.undo stores).2
    (.error (.internal (ascii "mail ingest internal") err), stores, written)
  | (.ok res, stores) =>
    (.ok ⟨res.messageID, res.bodyBlobRef, senderCopy.map IngestResult.messageID⟩, stores, written)

def apiMailMessagesPost (situation : PostSituation) (body : Option MessagesPostBody)
    (stores : Stores) : Posted :=
  match decodeMessage body with
  | .error refusal => (.error refusal, stores, [])
  | .ok message =>
    match checkParties server userID situation message.body with
    | .error refusal => (.error refusal, stores, [])
    | .ok () =>
      if message.senderCipher.length > 0 ∧ message.senderHeaderCT.length > 0 then
        let body := message.body
        let written := server.pipe.written situation.sent
          (server.pipe.clientSentIntake situation.sent body.fromAddr message.senderHeaderCT
            message.senderCipher body.fromAddr body.toAddrs)
        match server.pipe.ingestClientSent situation.sent body.fromAddr message.senderHeaderCT
            message.senderCipher body.fromAddr body.toAddrs stores with
        | (.error err, stores) =>
          (.error (.internal (ascii "mail ingest sent copy") err), stores, written)
        | (.ok copy, stores) =>
          let (answer, stores, more) :=
            deliverMessage server situation message (some copy) stores
          (answer, stores, written ++ more)
      else deliverMessage server situation message none stores

end Requests

/-- A statement of a change: one of the mailbox operations, or
`UpdateManifestHeaderCiphertext`. -/
inductive PatchStatement where
  | mail (statement : Mailops.Statement)
  | updateManifestHeaderCiphertext (messageID : Nat) (headerCiphertext : GoString)
deriving DecidableEq

def reheaded (row : ManifestRow) (headerCiphertext : GoString) : ManifestRow :=
  { row with headerCiphertext }

/-- The effect of `UpdateManifestHeaderCiphertext`; without a row it writes one. -/
def setHeader (messageID : Nat) (headerCiphertext : GoString) (stores : Stores) : Stores :=
  { stores with
    tables := { stores.tables with
      manifests := Rows.upsert ManifestRow.messageID
        (reheaded ((manifestOf stores.tables messageID).getD (.unset messageID)) headerCiphertext)
        stores.tables.manifests } }

namespace PatchStatement

abbrev Answer : PatchStatement → Type
  | mail statement => statement.Answer
  | updateManifestHeaderCiphertext .. => Option GoError

def answer (outcome : Outcome GoError) :
    (statement : PatchStatement) → Stores → statement.Answer × Stores
  | mail statement, stores => statement.answer outcome stores
  | updateManifestHeaderCiphertext messageID headerCiphertext, stores =>
    outcome.exec (setHeader messageID headerCiphertext) stores

def written : PatchStatement → List GoString
  | mail (.write write) => write.contents
  | updateManifestHeaderCiphertext _ headerCiphertext => [headerCiphertext]
  | _ => []

end PatchStatement

abbrev PatchStatements (Value : Type) : Type := Program PatchStatement PatchStatement.Answer Value

/-- Go on with the value of the first program unless it turns the request down. -/
def orRefuse {Value Result : Type} (first : PatchStatements (Except Refusal Value))
    (next : Value → PatchStatements (Except Refusal Result)) :
    PatchStatements (Except Refusal Result) :=
  first >>= fun
    | .error refusal => .done (.error refusal)
    | .ok value => next value

structure MessagePatchBody where
  read : Option Bool
  folder : Option GoString
  headerCiphertextB64 : Option GoString
deriving DecidableEq

/-- A change: the id in the path and the body, where they can be read, the time, and the
user folders as `UserHasFolder` finds them. -/
structure PatchCall where
  id : Option Nat
  body : Option MessagePatchBody
  now : Time
  folders : Except GoError (List (Nat × GoString))

structure Patched where
  headerRefreshed : Bool
  moved : Option MoveResult
  read : Option Bool
deriving DecidableEq

def patchHeader (text : GoString) : Except Refusal GoString :=
  let headerCiphertextB64 := trimSpace text
  if headerCiphertextB64 = [] then .error (.status 400 (ascii "header_ciphertext_b64 required"))
  else match base64Decode headerCiphertextB64 with
    | none => .error (.status 400 (ascii "invalid header_ciphertext_b64"))
    | some headerCiphertext => .ok headerCiphertext

section Patch

variable (service : Service) (userID id : Nat) (now : Time)

/-- Append an event of the user interface, whose error is only logged. -/
def noteEvent {Value : Type} (kind : String) (value : Value) : PatchStatements Value :=
  .ask
    (.mail (.write (.appendEvent
      { userID
        eventAt := now
        kind := ascii kind
        messageID := id
        detail := ascii "ui" })))
    fun _ => .done value

def refreshHeader : Option GoString → PatchStatements (Except Refusal Bool)
  | none => .done (.ok false)
  | some text =>
    match patchHeader text with
    | .error refusal => .done (.error refusal)
    | .ok headerCiphertext =>
      .ask (.updateManifestHeaderCiphertext id headerCiphertext) fun
        | some err => .done (.error (.internal (ascii "mail header refresh") err))
        | none => noteEvent userID id now "refresh_header" (.ok true)

def moveRefusal (err : GoError) : Refusal :=
  if (index err.text (ascii "unknown folder")).isSome then
    .status 400 (ascii "unknown folder")
  else if err.isErr errNotFound then notFound
  else .internal (ascii "mail move folder") err

def patchFolder (folders : Except GoError (List (Nat × GoString))) :
    Option GoString → PatchStatements (Except Refusal (Option MoveResult))
  | none => .done (.ok none)
  | some folder =>
    let targetFolder := trimSpace (toLower service.lib folder)
    if targetFolder = [] then .done (.error (.status 400 (ascii "folder required")))
    else
      (moveMessage service { userID, messageID := id, targetFolder, now, folders }).embed
          PatchStatement.mail >>= fun
        | .error err => .done (.error (moveRefusal err))
        | .ok moved => .done (.ok (some moved))

def patchRead : Option Bool → PatchStatements (Except Refusal (Option Bool))
  | none => .done (.ok none)
  | some read =>
    .ask (.mail (.selectFlags userID id)) fun
      | .error err => .done (.error (.internal (ascii "mail flags get") err))
      | .ok flags =>
        let flags := flags.getD { userID, messageID := id, read := false }
        .ask (.mail (.write (.insertFlags { flags with userID, messageID := id, read }))) fun
          | some err => .done (.error (.internal (ascii "mail flags set") err))
          | none =>
            noteEvent userID id now (if read then "mark_read" else "mark_unread")
              (.ok (some read))

def patchFound (folders : Except GoError (List (Nat × GoString))) :
    Option MessagePatchBody → PatchStatements (Except Refusal Patched)
  | none => .done (.error (.status 400 (ascii "invalid json")))
  | some body =>
    if body.read = none ∧ body.folder = none ∧ body.headerCiphertextB64 = none then
      .done (.error (.status 400 (ascii "read, folder, or header_ciphertext_b64 required")))
    else
      orRefuse (refreshHeader userID id now body.headerCiphertextB64) fun headerRefreshed =>
        orRefuse (patchFolder service userID id now folders body.folder) fun moved =>
          orRefuse (patchRead userID id now body.read) fun read =>
            .done (.ok { headerRefreshed, moved, read })

end Patch

def apiMailMessagePatch (service : Service) (userID : Nat) (call : PatchCall) :
    PatchStatements (Except Refusal Patched) :=
  match call.id with
  | none => .done (.error (.status 400 (ascii "invalid id")))
  | some id =>
    (getManifest userID id).embed PatchStatement.mail >>= fun
      | .error err =>
        .done (.error (if err.isErr errNotFound then notFound
          else .internal (ascii "mail manifest") err))
      | .ok _ => patchFound service userID id call.now call.folders call.body

end Httpserver

end ElvishMail
