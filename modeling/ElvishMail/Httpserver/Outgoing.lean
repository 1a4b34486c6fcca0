import ElvishMail.Go.Base64
import ElvishMail.Httpserver.Reply
import ElvishMail.Mailmeta.Identity
import ElvishMail.Maillinks.Links

/-!
# Outgoing mail of a user

`internal/httpserver`: the requests of a user that put mail into the outbox.
`apiMailOutboxPost` takes a payload that the browser prepared, and
`routeProtectedLinksAuthored` stores a protected link and may announce it in a
notice that the server writes itself, through `submitPlaintextOutboxWithContext`.

What the request meets outside (queries, blob store, clock, random identifiers) is a
`Situation`. Attachments are left out of `buildRFC5322`: a notice has none.
-/

namespace ElvishMail.Httpserver

open Go Smtp Mailmeta Maillinks

/-- A byte of a mailbox address as `validateIdentityMailboxEmailForUser` accepts it, in
either case: letters, digits, and the signs of local parts and domains. -/
def isMailboxByte (byte : UInt8) : Bool :=
  inRange 48 57 byte || inRange 65 90 byte || inRange 97 122 byte ||
    (ascii "@.-_+").contains byte

/-- The columns of `user_identity_keys` that decide whose address it is. -/
structure Identity where
  userID : Nat
  email : GoString
  isActive : Bool
  plain : email.all isMailboxByte = true
deriving DecidableEq

/-- `IdentityForUserEmail`, on the rows in the order of the query. -/
def identityForUserEmail (lib : Library) (identities : List Identity) (userID : Nat)
    (email : GoString) : Option Identity :=
  let email := toLower lib (trimSpace email)
  if email = [] then none
  else identities.find? fun row => row.userID == userID && row.email == email && row.isActive

inductive BlobWrite where
  | put (key content : GoString)
  | delete (key : GoString)
deriving DecidableEq

structure RelayKey where
  wrap : GoString → Except GoError GoString
  unwrap : GoString → Except GoString GoString
  unwrap_wrap : ∀ text cipher, wrap text = .ok cipher → unwrap cipher = .ok text

/-- Texts that the server writes itself: no byte outside ASCII and no line break. -/
def isPlainText (text : GoString) : Bool := text.all fun byte => byte.toNat < 0x80 && byte != 0x0D

structure Server where
  lib : Library
  identities : List Identity
  directory : Directory
  mailDomain : GoString
  mailDomain_plain : mailDomain.all isMailboxByte = true
  publicBaseURL : GoString
  relayKey : Option RelayKey
  jsonValid : GoString → Bool
  formatRFC1123 : Time → GoString

/-- What one request meets. The date and the first part of a message id are formatted
times and hexadecimal digits. -/
structure Situation where
  userText : GoString
  now : Time
  clock : Time
  outboxID : GoString
  sentCopyID : GoString
  rowID : Nat
  token : Except GoError GoString
  date : GoString
  date_plain : isPlainText date = true
  messageStamp : GoString
  messageStamp_plain : isPlainText messageStamp = true
  lookup : Option GoError
  blobPut : GoString → Option GoError
  createLink : Option GoError
  insertOutbox : Option GoError
  ingest : GoString → Option GoError
  requestBase : GoString

def outboxKey (userID outboxID : GoString) : GoString :=
  ascii "outbox/" ++ userID ++ ascii "/" ++ outboxID ++ ascii ".enc"

def protectedLinkKey (token : GoString) : GoString := ascii "secure-link/" ++ token ++ ascii ".enc"

/-- A request that was accepted: the row of the outbox, if one was made. -/
structure Accepted where
  row : Option OutboxRow
deriving DecidableEq

abbrev Reply := Except Refusal Accepted × List BlobWrite

def refuse (code : Nat) (text : String) : Reply := (.error (.status code (ascii text)), [])

section Requests

variable (server : Server) (situation : Situation) (userID : Nat)

structure OutboxPostBody where
  payloadCiphertextB64 : GoString
  recipientSummary : List GoString
  senderHeaderCiphertextB64 : GoString
  senderBodyCiphertextB64 : GoString
  fromAddr : GoString
deriving DecidableEq

def OutboxPostBody.hasSentCopy (body : OutboxPostBody) : Bool :=
  !(trimSpace body.senderHeaderCiphertextB64).isEmpty ||
    !(trimSpace body.senderBodyCiphertextB64).isEmpty

def sentCopyOf (body : OutboxPostBody) : Except Refusal (OutboxSentCopy × GoString) :=
  if body.senderHeaderCiphertextB64 = [] ∨ body.senderBodyCiphertextB64 = [] then
    .error (.status 400 (ascii "sender sent-copy ciphertext requires both header and body"))
  else if trimSpace body.fromAddr = [] then
    .error (.status 400 (ascii "from_addr required for sender sent copy"))
  else match situation.lookup with
    | some err => .error (.internal (ascii "sender identity lookup") err)
    | none =>
      match identityForUserEmail server.lib server.identities userID body.fromAddr with
      | none => .error (.status 400 (ascii "from_addr must be one of your active identities"))
      | some _ =>
        match base64Decode body.senderHeaderCiphertextB64 with
        | none => .error (.status 400 (ascii "invalid sender_header_ciphertext_b64"))
        | some senderHeaderCT =>
          match base64Decode body.senderBodyCiphertextB64 with
          | none => .error (.status 400 (ascii "invalid sender_body_ciphertext_b64"))
          | some senderCipher =>
            .ok
              ({ bodyBlobRef :=
                  outboxKey situation.userText (situation.sentCopyID ++ ascii "-sentcopy")
                 bodySizeBytes := senderCipher.length
                 headerCiphertext := senderHeaderCT
                 fromAddr := body.fromAddr }, senderCipher)

/-- Store the payload and insert the row; what was stored is taken back on an error. -/
def storePayload (body : OutboxPostBody) (cipher : GoString) (sentCopy : Option OutboxSentCopy) :
    Reply :=
  let key := outboxKey situation.userText situation.outboxID
  let undo := (sentCopy.map fun copy => BlobWrite.delete copy.bodyBlobRef).toList
  match situation.blobPut key with
  | some err => (.error (.internal (ascii "outbox blob put") err), undo)
  | none =>
    match situation.insertOutbox with
    | some err =>
      (.error (.internal (ascii "outbox insert") err), [.put key cipher, .delete key] ++ undo)
    | none =>
      (.ok ⟨some (insertOutboxMeta situation.now situation.rowID userID .pgp key cipher.length
        (join body.recipientSummary (ascii " ")) [] 0 sentCopy)⟩, [.put key cipher])

/-- `apiMailOutboxPost`; a body that is no JSON is `none`. -/
def apiMailOutboxPost (body : Option OutboxPostBody) : Reply :=
  match body with
  | none => refuse 400 "invalid json"
  | some body =>
    if body.payloadCiphertextB64 = [] then refuse 400 "payload_ciphertext_b64 required"
    else match base64Decode body.payloadCiphertextB64 with
      | none => refuse 400 "invalid payload_ciphertext_b64"
      | some cipher =>
        if !body.hasSentCopy then storePayload situation userID body cipher none
        else match sentCopyOf server situation userID body with
          | .error refusal => (.error refusal, [])
          | .ok (copy, content) =>
            match situation.blobPut copy.bodyBlobRef with
            | some err => (.error (.internal (ascii "outbox sent-copy blob put") err), [])
            | none =>
              let (result, writes) := storePayload situation userID body cipher (some copy)
              (result, .put copy.bodyBlobRef content :: writes)

/-- `outboxPlainBody`, without attachments. -/
structure OutboxPlainBody where
  fromAddr : GoString
  toAddrs : List GoString
  subject : GoString
  bodyText : GoString
deriving DecidableEq

def messageDomain (fromAddr : GoString) : GoString :=
  match server.lib.parseAddress fromAddr with
  | none => ascii "elvish.local"
  | some address =>
    match lastIndexByte address 0x40 with
    | none => ascii "elvish.local"
    | some place => address.drop (place + 1)

def messageID (fromAddr : GoString) : GoString :=
  situation.messageStamp ++ ascii "@" ++ messageDomain server fromAddr

def writeBodyLines (bodyText : GoString) : GoString :=
  ((replaceAll bodyText (ascii "\r\n") (ascii "\n")).splitOn 0x0A).flatMap fun line =>
    (if hasPrefix line (ascii ".") then ascii "." else []) ++ line ++ ascii "\r\n"

def buildRFC5322 (fromAddr : GoString) (toAddrs : List GoString) (subject bodyText : GoString) :
    GoString :=
  ascii "Message-ID: <" ++ messageID server situation fromAddr ++ ascii ">\r\n" ++
  ascii "Date: " ++ situation.date ++ ascii "\r\n" ++
  ascii "From: " ++ fromAddr ++ ascii "\r\n" ++
  (ascii "To: " ++ join toAddrs (ascii ", ") ++ ascii "\r\n" ++
    (if subject = [] then [] else ascii "Subject: " ++ subject ++ ascii "\r\n") ++
    ascii "MIME-Version: 1.0\r\n" ++
    ascii "X-Elvish-Send-Mode: plaintext-relay\r\n" ++
    ascii "Content-Type: text/plain; charset=utf-8\r\n" ++
    ascii "Content-Transfer-Encoding: 8bit\r\n" ++
    ascii "\r\n" ++ writeBodyLines bodyText)

def cleanAddresses : List GoString → Except GoString (List GoString)
  | [] => .ok []
  | address :: rest =>
    let address := trimSpace address
    if address = [] then cleanAddresses rest
    else if (server.lib.parseAddress address).isNone then .error address
    else (cleanAddresses rest).map (address :: ·)

def partitionLocalRecipients :
    List GoString → Except GoError (List GoString × List GoString)
  | [] => .ok ([], [])
  | recipient :: rest =>
    let recipient := toLower server.lib (trimSpace recipient)
    if recipient = [] then partitionLocalRecipients rest
    else match identityForEmail server.lib server.directory recipient with
      | .ok _ =>
        (partitionLocalRecipients rest).map fun (here, away) => (recipient :: here, away)
      | .error .notFound =>
        (partitionLocalRecipients rest).map fun (here, away) => (here, recipient :: away)
      | .error (.failed err) =>
        .error (.wrap (ascii "local recipient lookup " ++ recipient ++ ascii ": ") err)

/-- `submitPlaintextOutboxWithContext`: the row, or none when every recipient is local. -/
def submitPlaintextOutboxWithContext (body : OutboxPlainBody) (source : GoString) :
    Except GoError (Option OutboxRow) × List BlobWrite :=
  let fromAddr := trimSpace body.fromAddr
  let subject := trimSpace body.subject
  if fromAddr = [] ∨ body.toAddrs.length = 0 ∨ body.bodyText = [] then
    (.error (.plain (ascii "from_addr, to_addrs, body_text required")), [])
  else if (server.lib.parseAddress fromAddr).isNone then
    (.error (.plain (ascii "invalid from_addr")), [])
  else match cleanAddresses server body.toAddrs with
    | .error address => (.error (.plain (ascii "invalid to_addr: " ++ address)), [])
    | .ok clean =>
      if clean.length = 0 then (.error (.plain (ascii "to_addrs required")), [])
      else
        let rfc822 := buildRFC5322 server situation fromAddr clean subject body.bodyText
        match situation.lookup with
        | some err => (.error (.wrap (ascii "sender identity lookup: ") err), [])
        | none =>
          match partitionLocalRecipients server clean with
          | .error err => (.error err, [])
          | .ok (here, away) =>
            if away.length > 0 ∧ server.relayKey.isNone then
              (.error (.plain
                (ascii "plaintext outbound disabled (set ELVISH_RELAY_KEY_PATH)")), [])
            else match here.findSome? fun recipient => (situation.ingest recipient).map
                fun err => GoError.wrap (ascii "local delivery " ++ recipient ++ ascii ": ") err with
              | some err => (.error err, [])
              | none =>
                match away.length, server.relayKey with
                | 0, _ | _, none => (.ok none, [])
                | _ + 1, some relayKey =>
                  match relayKey.wrap rfc822 with
                  | .error err => (.error (.wrap (ascii "relay wrap: ") err), [])
                  | .ok cipher =>
                    let key := outboxKey situation.userText situation.outboxID
                    match situation.blobPut key with
                    | some err => (.error (.wrap (ascii "blob put: ") err), [])
                    | none =>
                      match situation.insertOutbox with
                      | some err =>
                        (.error (.wrap (ascii "outbox insert: ") err),
                          [.put key cipher, .delete key])
                      | none =>
                        (.ok (some (insertOutboxMeta situation.now situation.rowID
                          userID .plaintextRelay key cipher.length
                          (join away (ascii " ")) source 0 none)), [.put key cipher])

structure ProtectedLinkCreateBody where
  subjectHint : GoString
  recipientEmails : List GoString
  notifyRecipients : Bool
  notifyFromAddr : GoString
  ttlSeconds : Int
  maxViews : Int
  kdf : GoString
  kdfSaltB64 : GoString
  kdfParamsJSON : GoString
  wrappedMsgKeyB64 : GoString
  bodyCiphertextB64 : GoString
deriving DecidableEq

def noReply : GoString :=
  if server.mailDomain ≠ [] then ascii "no-reply@" ++ server.mailDomain
  else ascii "no-reply@elvish.local"

def noticeFrom (body : ProtectedLinkCreateBody) : GoString :=
  if trimSpace body.notifyFromAddr = [] then noReply server else trimSpace body.notifyFromAddr

/-- `protectedLinkURL`; without a configured base it is that of the request. -/
def protectedLinkURL (token : GoString) : GoString :=
  let base := if server.publicBaseURL = [] then situation.requestBase else server.publicBaseURL
  (base.reverse.dropWhile (· == 0x2F)).reverse ++ ascii "/m/" ++ token

def buildProtectedLinkNotice (subjectHint fromAddr url : GoString) (expiresAt : Time)
    (maxViews : Int) (toAddrs : List GoString) : OutboxPlainBody where
  fromAddr
  toAddrs
  subject :=
    if trimSpace subjectHint = [] then ascii "You have an encrypted message" else trimSpace subjectHint
  bodyText :=
    ascii "You have received an encrypted message from " ++ fromAddr ++ ascii ".\n\n" ++
    ascii "Open it here:\n  " ++ url ++ ascii "\n\n" ++
    ascii "The sender will share the password with you separately.\n" ++
    ascii "This link expires at " ++ server.formatRFC1123 expiresAt ++ ascii ".\n" ++
    (if maxViews > 0 then
      ascii "It can be opened up to " ++ itoa maxViews ++ ascii " time(s).\n" else []) ++
    ascii "\n--\nElvish encrypted mail.\n"

def kdfNames : List GoString :=
  [ascii "argon2id", ascii "pbkdf2-sha256", ascii "pbkdf2-sha256-600k"]

/-- The time to live in nanoseconds; the product wraps around. -/
def linkTTL (ttlSeconds : Int) : Int :=
  let ttl := Int.bmod (ttlSeconds * 1000000000) (2 ^ 64)
  if ttl ≤ 0 then 7 * 24 * 3600 * 1000000000 else ttl

def linkInput (body : ProtectedLinkCreateBody) :
    Except Refusal (CreateInput × List GoString × GoString) :=
  let kdf := toLower server.lib (trimSpace body.kdf)
  if kdf ∉ kdfNames then
    .error (.status 400 (ascii "kdf must be argon2id or pbkdf2-sha256[-600k]"))
  else match base64Decode body.kdfSaltB64 with
    | none => .error (.status 400 (ascii "invalid kdf_salt_b64"))
    | some salt =>
      if salt.length < 8 then .error (.status 400 (ascii "invalid kdf_salt_b64"))
      else match base64Decode body.wrappedMsgKeyB64 with
        | none => .error (.status 400 (ascii "invalid wrapped_msg_key_b64"))
        | some wrapped =>
          if wrapped.length < 32 then .error (.status 400 (ascii "invalid wrapped_msg_key_b64"))
          else match base64Decode body.bodyCiphertextB64 with
            | none => .error (.status 400 (ascii "invalid body_ciphertext_b64"))
            | some cipher =>
              if cipher.length < 16 then
                .error (.status 400 (ascii "invalid body_ciphertext_b64"))
              else
                let params :=
                  if body.kdfParamsJSON = [] then ascii "\x7b\x7d" else body.kdfParamsJSON
                if !server.jsonValid params then
                  .error (.status 400 (ascii "kdf_params_json must be JSON"))
                else if linkTTL body.ttlSeconds > 30 * 24 * 3600 * 1000000000 then
                  .error (.status 400 (ascii "ttl_seconds may not exceed 30 days"))
                else if body.maxViews < 0 ∨ body.maxViews > 1000 then
                  .error (.status 400 (ascii "max_views out of range"))
                else match cleanAddresses server body.recipientEmails with
                  | .error address =>
                    .error (.status 400 (ascii "invalid recipient: " ++ address))
                  | .ok clean =>
                    match situation.token with
                    | .error err => .error (.internal (ascii "protected-link token") err)
                    | .ok token =>
                      .ok
                        ({ userID
                           blobRef := protectedLinkKey token
                           bodySizeBytes := cipher.length
                           recipientSummary := join clean (ascii ", ")
                           subjectHint := trimSpace body.subjectHint
                           kdf
                           kdfSalt := salt
                           kdfParamsJSON := params
                           wrappedMsgKey := wrapped
                           ttl := linkTTL body.ttlSeconds
                           maxViews := body.maxViews }, clean, cipher)

/-- `routeProtectedLinksAuthored` for a `POST`; a notice that cannot be sent is only
logged. -/
def routeProtectedLinksAuthored (body : Option ProtectedLinkCreateBody) : Reply :=
  match body with
  | none => refuse 400 "invalid json"
  | some body =>
    match linkInput server situation userID body with
    | .error refusal => (.error refusal, [])
    | .ok (input, clean, cipher) =>
      match situation.blobPut input.blobRef with
      | some err => (.error (.internal (ascii "protected-link blob put") err), [])
      | none =>
        let created : Except GoError Row := match situation.createLink, situation.token with
          | some err, _ | _, .error err => .error err
          | none, .ok token => create input token situation.clock situation.now
        match created with
        | .error err =>
          (.error (.internal (ascii "protected-link create") err),
            [.put input.blobRef cipher, .delete input.blobRef])
        | .ok link =>
          if body.notifyRecipients && decide (clean.length > 0) then
            let notice := buildProtectedLinkNotice server body.subjectHint
              (noticeFrom server body) (protectedLinkURL server situation link.token)
              link.expiresAt link.maxViews clean
            let (sent, writes) := submitPlaintextOutboxWithContext server situation userID
              notice (ascii "protected_link_notice")
            (.ok ⟨sent.toOption.join⟩, .put input.blobRef cipher :: writes)
          else (.ok ⟨none⟩, [.put input.blobRef cipher])

end Requests

end ElvishMail.Httpserver
