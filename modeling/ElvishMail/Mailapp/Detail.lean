import ElvishMail.Mailapp.Attribution
import ElvishMail.Mailapp.Mime
import ElvishMail.Semantics.Machine

/-!
# The open message

`MessageDetail` of `static/mail/mail-app.jsx`. The component is rendered without a
key, so there is one state for all the messages that are opened one after the
other. Its calls run until they await something; what each needs afterwards is in
its `Task`. A step of the machine is an event with the effects of the render that
follows it.
-/

namespace ElvishMail.Mailapp

open Js Keyvault Semantics

structure Message where
  id : JsString
  fromAddr : JsString
  version : JsString
  identified : id ≠ []
deriving DecidableEq

/-- What a message is decrypted to, with the sender that was recovered from it. -/
structure Envelope extends DisplayEnvelope where
  recoveredFrom : JsString
deriving DecidableEq

def envelopeHasHydratedAttachmentBytes (envelope : Envelope) : Bool :=
  envelope.attachments.all fun attachment => attachment.bytes.isSome

/-- The arguments of `verifyBodySignature`, and the message that the blob is of. -/
structure SignatureInput where
  blob : JsString
  decryptFingerprint : JsString
  fromAddr : JsString
  attachments : List Attachment
  messageId : JsString
deriving DecidableEq

/-- A call of `verifyBodySignature`: its `runID`, and whether `onTrustSigner` awaits it. -/
structure Check where
  runID : Nat
  input : SignatureInput
  trusting : Bool
deriving DecidableEq

/-- What a suspended call awaits: `decryptBody` with and without a cached envelope,
`verifyBodySignature`, or `onTrustSigner`. -/
inductive Task where
  | getEnvelope (message : Message)
  | fetchSigBlob (message : Message) (envelope : Envelope)
  | decryptSigBlob (message : Message) (envelope : Envelope) (blob : JsString)
  | fetchBlob (message : Message)
  | decryptBlob (message : Message) (blob : JsString)
  | buildCombined (check : Check)
  | decryptResult (check : Check) (bundle : Bundle)
  | nested (check : Check) (bundle : Bundle) (outer : Verification)
  | pick (check : Check) (state : SignatureState)
  | putContactKey
deriving DecidableEq

inductive Reply where
  | rejected (error : JsString)
  | resolved
  | cached (envelope : Option Envelope)
  | blob (blob : JsString)
  | decrypted (fingerprint : JsString) (envelope : Envelope)
  | bundle (bundle : Bundle)
  | result (data : JsString) (verification : Verification)
  | nested (inner : Option Verification)
deriving DecidableEq

inductive BodyView where
  | plain
  | html
deriving DecidableEq

inductive SignatureView where
  | checking
  | state (state : SignatureState)
deriving DecidableEq

/-- The props, the state and the refs of the component, and its calls in flight. For what
is shown, `bodyOf`, `errorOf` and `signatureOf` are the ids of the messages that it was
computed from. -/
structure Detail where
  message : Option Message
  unlocked : Bool
  bodyText : Option JsString := none
  bodyHtml : JsString := []
  bodyView : BodyView := .plain
  attachments : List Attachment := []
  bodyOf : Option JsString := none
  bodyErr : JsString := []
  errorOf : Option JsString := none
  signatureState : Option SignatureView := none
  signatureOf : Option JsString := none
  busy : Bool := false
  trustBusy : Bool := false
  trustErr : JsString := []
  attemptedMessage : JsString := []
  verificationRun : Nat := 0
  lastSig : Option SignatureInput := none
  tasks : List Task := []
deriving DecidableEq

namespace Detail

variable (detail : Detail)

def reset : Detail :=
  { detail with
    bodyText := none
    bodyHtml := []
    bodyView := .plain
    attachments := []
    bodyOf := none
    bodyErr := []
    errorOf := none
    signatureState := none
    signatureOf := none
    trustErr := []
    attemptedMessage := []
    verificationRun := detail.verificationRun + 1 }

def select (message : Option Message) : Detail :=
  if detail.message.map Message.id = message.map Message.id then { detail with message }
  else { detail with message }.reset

def await (task : Task) : Detail := { detail with tasks := detail.tasks ++ [task] }

/-- `onTrustSigner` is done if it awaits this call. -/
def trusted (trusting : Bool) : Detail :=
  { detail with trustBusy := detail.trustBusy && !trusting }

/-- `verifyBodySignature`, up to its first `await`. -/
def verifyBodySignature (input : SignatureInput) (trusting : Bool) : Detail :=
  if input.blob = [] ∨ input.decryptFingerprint = [] then
    { detail with signatureState := none, signatureOf := none }.trusted trusting
  else
    { detail with
      lastSig := some input
      verificationRun := detail.verificationRun + 1
      signatureState := some .checking
      signatureOf := some input.messageId }.await
        (.buildCombined { runID := detail.verificationRun + 1, input, trusting })

/-- `verifyBodySignature` sets what it has found. -/
def setSignatureState (check : Check) (state : SignatureState) : Detail :=
  { detail with
    signatureState := some (.state state)
    signatureOf := some check.input.messageId }.trusted check.trusting

/-- `verifyBodySignature` once both layers are verified. -/
def decideTrust (reader : Reader) (check : Check) (bundle : Bundle) (outer : Verification)
    (inner : Option Verification) : Detail :=
  let merged := mergeNestedSignatureVerification outer inner
  let state := trustDecision reader bundle check.input.fromAddr merged
  if state.displayTrust = .untrusted then detail.await (.pick check state)
  else detail.setSignatureState check state

/-- `onTrustSigner`, up to its first `await`, if its button is there. -/
def onTrustSigner : Option Detail :=
  match detail.signatureState with
  | some (.state state) =>
    if state.displayTrust = .untrusted ∧ state.verification.status = .verified ∧
        state.trustArmored ≠ [] ∧ state.senderEmail ≠ [] ∧ detail.trustBusy = false then
      some ({ detail with trustBusy := true, trustErr := [] }.await .putContactKey)
    else none
  | _ => none

/-- `onTrustSigner` verifies again what was verified last. -/
def verifyAgain : Detail :=
  match detail.lastSig with
  | some input => detail.verifyBodySignature input true
  | none => { detail with signatureState := none, signatureOf := none }.trusted true

/-- `decryptBody`, up to its first `await`. -/
def decryptBody : Detail :=
  match detail.message with
  | none => detail
  | some message =>
    { detail with busy := true, bodyErr := [], errorOf := none }.await
      (if message.version ≠ [] then .getEnvelope message else .fetchBlob message)

/-- `decryptBody` sets what it has read or decrypted. -/
def showEnvelope (message : Message) (envelope : Envelope) : Detail :=
  { detail with
    bodyText := some envelope.bodyText
    bodyHtml := trim envelope.bodyHtml
    bodyView := if trim envelope.bodyHtml ≠ [] then .html else .plain
    attachments := envelope.attachments
    bodyOf := some message.id }

/-- The end of `decryptBody`. -/
def settle : Detail := { detail with busy := false }

/-- `decryptBody` has caught an error. -/
def fail (message : Message) (error : JsString) : Detail :=
  { detail with
    bodyErr := error
    errorOf := some message.id
    signatureState := none
    signatureOf := none }.settle

/-- The arguments that `decryptBody` verifies the signatures with. -/
def signatureInput (message : Message) (envelope : Envelope) (blob fingerprint : JsString) :
    SignatureInput :=
  { blob
    decryptFingerprint := fingerprint
    fromAddr := if envelope.recoveredFrom ≠ [] then envelope.recoveredFrom else message.fromAddr
    attachments := envelope.attachments
    messageId := message.id }

/-- The effect that decrypts a message as soon as that is possible. -/
def autoDecrypt : Detail :=
  match detail.message with
  | none => detail
  | some message =>
    if detail.unlocked ∧ detail.busy = false ∧ detail.bodyText = none ∧
        detail.attemptedMessage ≠ message.id then
      { detail with attemptedMessage := message.id }.decryptBody
    else detail

/-- What a suspended call does when its promise is settled. -/
def resume (reader : Reader) : Task → Reply → Option Detail
  | .getEnvelope message, .cached envelope =>
    match envelope.filter envelopeHasHydratedAttachmentBytes with
    | some envelope =>
      some ((detail.showEnvelope message envelope).await (.fetchSigBlob message envelope))
    | none => some (detail.await (.fetchBlob message))
  | .fetchSigBlob message envelope, .blob blob =>
    some (detail.await (.decryptSigBlob message envelope blob))
  | .decryptSigBlob message envelope blob, .decrypted fingerprint _ =>
    some (detail.verifyBodySignature (signatureInput message envelope blob fingerprint) false).settle
  | .fetchSigBlob .., .rejected _ | .decryptSigBlob .., .rejected _ => some detail.settle
  | .fetchBlob message, .blob blob => some (detail.await (.decryptBlob message blob))
  | .decryptBlob message blob, .decrypted fingerprint envelope =>
    some ((detail.showEnvelope message envelope).verifyBodySignature
      (signatureInput message envelope blob fingerprint) false).settle
  | .getEnvelope message, .rejected error | .fetchBlob message, .rejected error |
    .decryptBlob message _, .rejected error => some (detail.fail message error)
  | .buildCombined check, .bundle bundle => some (detail.await (.decryptResult check bundle))
  | .decryptResult check bundle, .result data outer =>
    if detail.verificationRun ≠ check.runID then some (detail.trusted check.trusting)
    else if data ≠ [] then some (detail.await (.nested check bundle outer))
    else some (detail.decideTrust reader check bundle outer none)
  | .decryptResult check _, .rejected error =>
    if detail.verificationRun ≠ check.runID then some (detail.trusted check.trusting)
    else some (detail.setSignatureState check { verification := { status := .error, error } })
  | .nested check bundle outer, .nested inner =>
    some (detail.decideTrust reader check bundle outer inner)
  | .nested check bundle outer, .rejected _ =>
    some (detail.decideTrust reader check bundle outer none)
  | .pick check state, .resolved => some (detail.setSignatureState check state)
  | .putContactKey, .resolved => some detail.verifyAgain
  | .putContactKey, .rejected error => some ({ detail with trustErr := error }.trusted true)
  | _, _ => none

end Detail

inductive Event where
  | select (message : Option Message)
  | setUnlocked (unlocked : Bool)
  | setBodyView (view : BodyView)
  | decryptNow
  | trustSigner
  | resume (index : Nat) (reply : Reply)
deriving DecidableEq

def Detail.handle (reader : Reader) (detail : Detail) : Event → Option Detail
  | .select message => some (detail.select message)
  | .setUnlocked unlocked => some { detail with unlocked }
  | .setBodyView view => some { detail with bodyView := view }
  | .decryptNow =>
    if detail.bodyText = none ∧ detail.busy = false then some detail.decryptBody else none
  | .trustSigner => detail.onTrustSigner
  | .resume index reply => do
      let task ← detail.tasks[index]?
      Detail.resume { detail with tasks := detail.tasks.eraseIdx index } reader task reply

def detailMachine (reader : Reader) : Machine Detail Event where
  step := fun detail event => (detail.handle reader event).map Detail.autoDecrypt

def mounted (message : Option Message) (unlocked : Bool) : Detail :=
  ({ message, unlocked } : Detail).reset.autoDecrypt

end ElvishMail.Mailapp
