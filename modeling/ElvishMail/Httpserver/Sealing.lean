import ElvishMail.Httpserver.ClientMail
import ElvishMail.Httpserver.Senders
import ElvishMail.Mailops.Placement
import ElvishMail.Mailops.Sweeping
import ElvishMail.Mailpipe.Confidentiality

/-!
# What clients store

The mail stores hold bodies and headers that the server cannot read. What a client
delivers to a local recipient is recognised as an encrypted message before it is
stored; what it queues for delivery and the header it replaces are stored as they are
decoded. So these requests store nothing but encrypted messages exactly if the client
sent nothing else.
-/

namespace ElvishMail

open Go Smtp Mailmeta Mailstore Mailpipe Mailops Openpgp Semantics

namespace Mailpipe

variable {pipe : Pipe} {conditions : Conditions} {package : Package} {stores after : Stores}

/-- Bytes that `IngestInternal` takes for an encrypted message. -/
def Sealed (pipe : Pipe) (bytes : GoString) : Prop := sniff pipe.lib pipe.reader bytes ≠ .cleartext

instance (pipe : Pipe) : DecidablePred (Sealed pipe) := fun _ => inferInstanceAs (Decidable (_ ≠ _))

theorem sealed_of_valid {headerCiphertext : GoString}
    (valid : pipe.validateHeaderCiphertext headerCiphertext = .ok ()) :
    Sealed pipe headerCiphertext := by
  unfold Pipe.validateHeaderCiphertext at valid
  split at valid
  · cases valid
  dsimp only at valid
  split at valid
  · cases valid
  next encrypted => exact encrypted

theorem FromClient.written_sealed {headerCiphertext rawCipher : GoString}
    (client : FromClient pipe headerCiphertext rawCipher package) :
    ∀ bytes ∈ pipe.written conditions (.ok package), Sealed pipe bytes := by
  have body : Sealed pipe package.bodyCiphertext := client.body ▸ client.ciphertext
  have header : Sealed pipe package.headerCiphertext := client.header ▸ sealed_of_valid client.valid
  unfold Pipe.written
  dsimp only
  split
  · simp
  split
  · simpa using body
  · simpa using And.intro body header

section Clients

variable {headerCiphertext rawCipher fromAddr : GoString} {rcpt : List GoString}
  {answer : Except GoError IngestResult}

theorem clientSent_sealed (principalEmail : GoString) :
    ∀ bytes ∈ pipe.written conditions (pipe.clientSentIntake conditions principalEmail
      headerCiphertext rawCipher fromAddr rcpt), Sealed pipe bytes := by
  cases decided : pipe.clientSentIntake conditions principalEmail headerCiphertext rawCipher
      fromAddr rcpt with
  | error err => simp [Pipe.written]
  | ok package => exact (clientSentIntake_ok decided).2.written_sealed

theorem clientInbox_sealed (recipient : GoString) :
    ∀ bytes ∈ pipe.written conditions (pipe.clientInboxIntake conditions recipient
      headerCiphertext rawCipher fromAddr rcpt), Sealed pipe bytes := by
  cases decided : pipe.clientInboxIntake conditions recipient headerCiphertext rawCipher fromAddr
      rcpt with
  | error err => simp [Pipe.written]
  | ok package => exact (clientInboxIntake_ok decided).2.written_sealed

end Clients

end Mailpipe

namespace Httpserver

section Post

variable {server : MailServer} {userID : Nat} {situation : PostSituation} {stores : Stores}

theorem deliverMessage_written {message : ClientMessage} {senderCopy : Option IngestResult} :
    ∀ bytes ∈ (deliverMessage server situation message senderCopy stores).2.2,
      Sealed server.pipe bytes := by
  unfold deliverMessage
  dsimp only
  split <;> exact clientInbox_sealed _

theorem apiMailMessagesPost_written {body : Option MessagesPostBody} :
    ∀ bytes ∈ (apiMailMessagesPost server userID situation body stores).2.2,
      Sealed server.pipe bytes := by
  unfold apiMailMessagesPost
  split
  · simp
  split
  · simp
  split
  · dsimp only
    split
    · exact clientSent_sealed _
    · intro bytes member
      rcases List.mem_append.mp member with copied | delivered
      · exact clientSent_sealed _ bytes copied
      · exact deliverMessage_written bytes delivered
  · exact deliverMessage_written

end Post

section Patch

variable {Value Result : Type} {service : Service} {userID id : Nat} {now : Time}
  {env : Nat → Outcome GoError} {stores : Stores}

def writtenBy (program : PatchStatements Value) (env : Nat → Outcome GoError) (stores : Stores) :
    List GoString :=
  (program.queries PatchStatement.answer env stores).flatMap PatchStatement.written

/-- A program none of whose statements writes a body or a header. -/
def Light (program : PatchStatements Value) : Prop :=
  program.Only fun statement => statement.written = []

theorem Light.writtenBy_eq {program : PatchStatements Value} (light : Light program) :
    writtenBy program env stores = [] :=
  List.flatMap_eq_nil_iff.mpr (Program.Only.queries PatchStatement.answer light env stores)

theorem Light.orRefuse {first : PatchStatements (Except Refusal Value)}
    {next : Value → PatchStatements (Except Refusal Result)} (light : Light first)
    (later : ∀ value, Light (next value)) : Light (orRefuse first next) := by
  refine Program.Only.bind light fun value => ?_
  cases value with
  | error refusal => trivial
  | ok value => exact later value

theorem light_of_mild {program : Statements Value}
    (mild : program.Only fun statement => Mild (.mail statement)) :
    Light (program.embed PatchStatement.mail) := by
  have written : ∀ statement : Mailops.Statement, Mild (.mail statement) →
      (PatchStatement.mail statement).written = [] := by
    intro statement mild
    cases statement with
    | write effect => cases effect <;> first | rfl | simp [Mild, mildKinds, Write.op] at mild
    | _ => rfl
  exact Program.Only.embed (mild.mono written)

theorem patchFolder_light {folders : Except GoError (List (Nat × GoString))}
    (folder : Option GoString) : Light (patchFolder service userID id now folders folder) := by
  cases folder with
  | none => trivial
  | some folder =>
    unfold patchFolder
    dsimp only
    split
    · trivial
    · refine Program.Only.bind (light_of_mild moveMessage_mild) fun moved => ?_
      cases moved <;> trivial

theorem patchRead_light (read : Option Bool) : Light (patchRead userID id now read) := by
  cases read with
  | none => trivial
  | some read =>
    refine ⟨rfl, fun found => ?_⟩
    cases found with
    | error err => trivial
    | ok flags =>
      refine ⟨rfl, fun err => ?_⟩
      cases err with
      | some err => trivial
      | none => exact ⟨rfl, fun _ => trivial⟩

theorem orRefuse_accepted {first : PatchStatements (Except Refusal Value)}
    {next : Value → PatchStatements (Except Refusal Result)} {result : Result}
    (accepted : ((orRefuse first next).run PatchStatement.answer env stores).1 = .ok result) :
    ∃ value later middle, (first.run PatchStatement.answer env stores).1 = .ok value ∧
      ((next value).run PatchStatement.answer later middle).1 = .ok result ∧
      writtenBy (orRefuse first next) env stores =
        writtenBy first env stores ++ writtenBy (next value) later middle := by
  unfold orRefuse at accepted ⊢
  rw [Program.run_bind] at accepted
  rw [writtenBy, Program.queries_bind, List.flatMap_append]
  cases ended : (first.run PatchStatement.answer env stores).1 with
  | error refusal =>
    rw [ended] at accepted
    cases accepted
  | ok value =>
    rw [ended] at accepted
    exact ⟨value, _, _, rfl, accepted, rfl⟩

def headerOf (text : Option GoString) : List GoString :=
  (text.map trimSpace).toList.filterMap base64Decode

theorem refreshHeader_written {text : Option GoString} {refreshed : Bool}
    (accepted : ((refreshHeader userID id now text).run PatchStatement.answer env stores).1 =
      .ok refreshed) :
    writtenBy (refreshHeader userID id now text) env stores = headerOf text := by
  cases text with
  | none => rfl
  | some text =>
  unfold refreshHeader patchHeader at accepted ⊢
  dsimp only at accepted ⊢
  by_cases blank : trimSpace text = []
  · rw [if_pos blank] at accepted
    cases accepted
  rw [if_neg blank] at accepted ⊢
  cases decoded : base64Decode (trimSpace text) with
  | none =>
    rw [decoded] at accepted
    cases accepted
  | some headerCiphertext =>
    rw [decoded] at accepted
    have carried : headerOf (some text) = [headerCiphertext] := by simp [headerOf, decoded]
    rw [carried]
    dsimp only at accepted ⊢
    rw [Program.run_ask] at accepted
    rw [writtenBy, Program.queries]
    cases reply : ((env 0).exec (setHeader id headerCiphertext) stores).1 with
    | some err =>
      rw [PatchStatement.answer, reply] at accepted
      cases accepted
    | none =>
      rw [PatchStatement.answer, reply]
      rfl

theorem patchFound_written {folders : Except GoError (List (Nat × GoString))}
    {body : Option MessagePatchBody} {patched : Patched}
    (accepted : ((patchFound service userID id now folders body).run PatchStatement.answer env
      stores).1 = .ok patched) :
    writtenBy (patchFound service userID id now folders body) env stores =
      headerOf (body.bind MessagePatchBody.headerCiphertextB64) := by
  cases body with
  | none => cases accepted
  | some body =>
  unfold patchFound at accepted ⊢
  dsimp only at accepted ⊢
  split at accepted
  · cases accepted
  next asked =>
  rw [if_neg asked]
  obtain ⟨refreshed, later, middle, header, -, written⟩ := orRefuse_accepted accepted
  rw [written, refreshHeader_written header]
  have light : Light (orRefuse (patchFolder service userID id now folders body.folder) fun moved =>
      orRefuse (patchRead userID id now body.read) fun read =>
        .done (.ok ({ headerRefreshed := refreshed, moved, read } : Patched))) :=
    (patchFolder_light body.folder).orRefuse fun moved =>
      (patchRead_light body.read).orRefuse fun read => trivial
  rw [light.writtenBy_eq, List.append_nil]
  rfl

def PatchCall.headers (call : PatchCall) : List GoString :=
  headerOf (call.body.bind MessagePatchBody.headerCiphertextB64)

theorem apiMailMessagePatch_written {call : PatchCall} {patched : Patched}
    (accepted : ((apiMailMessagePatch service userID call).run PatchStatement.answer env
      stores).1 = .ok patched) :
    writtenBy (apiMailMessagePatch service userID call) env stores = call.headers := by
  unfold apiMailMessagePatch at accepted ⊢
  cases found : call.id with
  | none =>
    rw [found] at accepted
    cases accepted
  | some id =>
    rw [found] at accepted
    dsimp only at accepted ⊢
    have light : Light ((getManifest userID id).embed PatchStatement.mail) :=
      Program.Only.embed (getManifest_only rfl)
    have quiet : ((((getManifest userID id).embed PatchStatement.mail).queries
        PatchStatement.answer env stores).flatMap PatchStatement.written) = [] :=
      light.writtenBy_eq
    rw [Program.run_bind] at accepted
    rw [writtenBy, Program.queries_bind, List.flatMap_append, quiet, List.nil_append]
    cases ended : (((getManifest userID id).embed PatchStatement.mail).run PatchStatement.answer
        env stores).1 with
    | error err =>
      rw [ended] at accepted
      cases accepted
    | ok mf =>
      rw [ended] at accepted
      exact patchFound_written accepted

end Patch

section Outbox

variable {server : Server} {situation : Situation} {userID : Nat}

def BlobWrite.content : BlobWrite → Option GoString
  | put _ content => some content
  | delete _ => none

def stagedHeader : Except Refusal Accepted → List GoString
  | .ok ⟨some row⟩ => if row.sentCopyBodyBlobRef = [] then [] else [row.sentCopyHeaderCiphertext]
  | _ => []

def Reply.written (reply : Reply) : List GoString :=
  reply.2.filterMap BlobWrite.content ++ stagedHeader reply.1

def OutboxPostBody.texts (body : OutboxPostBody) : List GoString :=
  if body.hasSentCopy then
    [body.senderBodyCiphertextB64, body.payloadCiphertextB64, body.senderHeaderCiphertextB64]
  else [body.payloadCiphertextB64]

def payloadContents (body : Option OutboxPostBody) : List GoString :=
  (body.toList.flatMap OutboxPostBody.texts).filterMap base64Decode

theorem apiMailOutboxPost_row {body : Option OutboxPostBody} {accepted : Accepted}
    (replied : (apiMailOutboxPost server situation userID body).1 = .ok accepted) :
    ∃ row, accepted = ⟨some row⟩ := by
  have stores {body : OutboxPostBody} {cipher : GoString} {copy : Option OutboxSentCopy}
      (replied : (storePayload situation userID body cipher copy).1 = .ok accepted) :
      ∃ row, accepted = ⟨some row⟩ := by
    unfold storePayload at replied
    dsimp only at replied
    split at replied
    · cases replied
    split at replied
    · cases replied
    cases replied
    exact ⟨_, rfl⟩
  unfold apiMailOutboxPost at replied
  split at replied
  · cases replied
  dsimp only at replied
  split at replied
  · cases replied
  split at replied
  · cases replied
  split at replied
  · exact stores replied
  split at replied
  · cases replied
  split at replied
  · cases replied
  exact stores replied

theorem apiMailOutboxPost_written {body : Option OutboxPostBody} {accepted : Accepted}
    (replied : (apiMailOutboxPost server situation userID body).1 = .ok accepted) :
    (apiMailOutboxPost server situation userID body).written = payloadContents body := by
  obtain ⟨row, rfl⟩ := apiMailOutboxPost_row replied
  cases body with
  | none => cases replied
  | some body =>
  rcases result : apiMailOutboxPost server situation userID (some body) with ⟨answer, writes⟩
  rw [result] at replied
  obtain rfl : answer = .ok ⟨some row⟩ := replied
  obtain ⟨cipher, sentCopy, decoded, made, copied⟩ := apiMailOutboxPost_accepted result
  rcases copied with ⟨bare, rfl, rfl⟩ | ⟨copied, copy, content, rfl, checked, rfl⟩
  · have unstaged : row.sentCopyBodyBlobRef = [] := by
      rw [made]
      rfl
    simp [Reply.written, BlobWrite.content, stagedHeader, unstaged, payloadContents,
      OutboxPostBody.texts, bare, decoded]
  · have staged : row.sentCopyBodyBlobRef = copy.bodyBlobRef := by
      rw [made]
      rfl
    have header : row.sentCopyHeaderCiphertext = copy.headerCiphertext := by
      rw [made]
      rfl
    have named : copy.bodyBlobRef ≠ [] := by
      rw [checked.ref]
      exact List.cons_ne_nil _ _
    simp [Reply.written, BlobWrite.content, stagedHeader, staged, header, named, payloadContents,
      OutboxPostBody.texts, copied, decoded, checked.header, checked.content]

end Outbox

/-- The requests by which a client has something stored, with what each meets. -/
inductive MailRequest where
  | messagesPost (situation : PostSituation) (body : Option MessagesPostBody)
  | outboxPost (situation : Situation) (body : Option OutboxPostBody)
  | messagePatch (call : PatchCall) (outcomes : Nat → Outcome GoError)

namespace MailRequest

variable (server : MailServer) (userID : Nat) (stores : Stores)

def accepted : MailRequest → Bool
  | messagesPost situation body => (apiMailMessagesPost server userID situation body stores).1.isOk
  | outboxPost situation body => (apiMailOutboxPost server.toServer situation userID body).1.isOk
  | messagePatch call outcomes =>
    ((apiMailMessagePatch server.service userID call).run PatchStatement.answer outcomes
      stores).1.isOk

/-- What a request writes to a blob, to a header or to a staged sender copy. -/
def written : MailRequest → List GoString
  | messagesPost situation body => (apiMailMessagesPost server userID situation body stores).2.2
  | outboxPost situation body => (apiMailOutboxPost server.toServer situation userID body).written
  | messagePatch call outcomes =>
    writtenBy (apiMailMessagePatch server.service userID call) outcomes stores

def unchecked : MailRequest → List GoString
  | messagesPost .. => []
  | outboxPost _ body => payloadContents body
  | messagePatch call _ => call.headers

def Recognised (pipe : Pipe) (request : MailRequest) : Prop :=
  ∀ bytes ∈ request.unchecked, Sealed pipe bytes

end MailRequest

theorem exists_of_isOk {Error Value : Type} {answer : Except Error Value}
    (replied : answer.isOk = true) : ∃ value, answer = .ok value := by
  cases answer with
  | error err => cases replied
  | ok value => exact ⟨value, rfl⟩

theorem written_cases {server : MailServer} {userID : Nat} {stores : Stores}
    {request : MailRequest} (accepted : request.accepted server userID stores = true) :
    request.unchecked = [] ∧
        (∀ bytes ∈ request.written server userID stores, Sealed server.pipe bytes) ∨
      request.written server userID stores = request.unchecked := by
  cases request with
  | messagesPost situation body => exact .inl ⟨rfl, apiMailMessagesPost_written⟩
  | outboxPost situation body =>
    obtain ⟨value, replied⟩ := exists_of_isOk accepted
    exact .inr (apiMailOutboxPost_written replied)
  | messagePatch call outcomes =>
    obtain ⟨value, replied⟩ := exists_of_isOk accepted
    exact .inr (apiMailMessagePatch_written replied)

/-- An accepted request has stored nothing but encrypted messages exactly if what it
brought for the outbox, or as a header in place of another, was encrypted. -/
theorem written_sealed_iff {server : MailServer} {userID : Nat} {stores : Stores}
    {request : MailRequest} (accepted : request.accepted server userID stores = true) :
    (∀ bytes ∈ request.written server userID stores, Sealed server.pipe bytes) ↔
      request.Recognised server.pipe := by
  unfold MailRequest.Recognised
  rcases written_cases accepted with ⟨checked, sealing⟩ | same
  · rw [checked]
    exact iff_of_true sealing (List.forall_mem_nil _)
  · rw [same]

def filedStores : Stores :=
  { emptyStores with tables := { manifests := [{ ManifestRow.unset 1 with userID := 1 }] } }

def filedServer : MailServer := { forgedServer with pipe := samplePipe }

def refresh (header : GoString) : MailRequest :=
  .messagePatch
    { id := some 1
      body := some { read := none, folder := none, headerCiphertextB64 := some header }
      now := 0
      folders := .ok [] }
    fun _ => .done

def encryptedHeader : GoString :=
  ascii "multipart/encrypted; boundary=b; application/pgp-encrypted; version: 1"

/-- An encrypted header is stored. -/
theorem written_sealed_refreshed :
    (refresh (base64Encode encryptedHeader)).accepted filedServer 1 filedStores = true ∧
      ∀ bytes ∈ (refresh (base64Encode encryptedHeader)).written filedServer 1 filedStores,
        Sealed samplePipe bytes := by
  have accepted : (refresh (base64Encode encryptedHeader)).accepted filedServer 1 filedStores = true := by
    decide
  refine ⟨accepted, (written_sealed_iff accepted).mpr ?_⟩
  unfold MailRequest.Recognised
  decide

/-- So is a header that anyone can read. -/
theorem plaintext_header_stored :
    ¬∀ (server : MailServer) (userID : Nat) (stores : Stores) (request : MailRequest),
      request.accepted server userID stores = true →
        ∀ bytes ∈ request.written server userID stores, Sealed server.pipe bytes := by
  intro sealing
  have stored : (refresh (ascii "U3ViamVjdDogc2FsYXJ5")).accepted filedServer 1 filedStores = true ∧
      (refresh (ascii "U3ViamVjdDogc2FsYXJ5")).written filedServer 1 filedStores =
        [ascii "Subject: salary"] ∧
      ¬Sealed samplePipe (ascii "Subject: salary") := by
    decide
  obtain ⟨accepted, written, unsealed⟩ := stored
  refine unsealed (sealing _ _ _ _ accepted _ ?_)
  rw [written]
  exact List.mem_singleton_self _

end Httpserver

end ElvishMail
