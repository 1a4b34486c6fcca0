import ElvishMail.Keyvault.Verification
import ElvishMail.Mailapp.Address

/-!
# Signer attribution

`static/mail/mail-app.jsx`: which keys a message is verified with, and when the
reader shows its signer as trusted. The keys of the viewer's identities and of the
trusted contacts come first; those that the sender attached and those of the
directory follow in the same list.
-/

namespace ElvishMail.Mailapp

open Js Keyvault

/-- What the reader asks others for: the key functions of OpenPGP.js, and the records of
the address book and of the directory, if the request for one succeeds. -/
structure Reader where
  host : Host
  verifier : Verifier
  readKeys : JsString → Except JsString (List VerificationKey)
  readKey : JsString → Option VerificationKey
  getContactKey : JsString → Option KeyRecord
  lookupKey : JsString → Option KeyRecord
  identities : List KeyRecord

/-- A message that is open in the reader. Its decryption may fail before its keys are read,
or after. -/
structure Mail where
  fromAddr : JsString
  attachmentArmoreds : List JsString
  ready : Except JsString Unit
  decrypted : Except JsString (List Signature × Nested)

/-- A key that may be offered for import, and where it is from. -/
structure Candidate where
  armored : JsString
  source : JsString
deriving DecidableEq

/-- The result of `buildCombinedVerificationArmored`. -/
structure Bundle where
  senderEmail : JsString := []
  combinedArmored : JsString := []
  localIdentity : Option KeyRecord := none
  trustedContactRecord : Option KeyRecord := none
  directoryHit : Option Candidate := none
  attachmentArmoreds : List JsString
deriving DecidableEq

def pushNew (parts : List JsString) (armored : JsString) : List JsString :=
  if armored ∈ parts then parts else parts ++ [armored]

def buildCombinedVerificationArmored (reader : Reader) (fromValue : JsString)
    (attachmentArmoredList : List JsString) : Bundle :=
  let lib := reader.host.lib
  let senderEmail := canonicalizeSenderId lib fromValue
  let attachmentArmoreds := attachmentArmoredList.filter fun armored => armored ≠ []
  if senderEmail = [] then { attachmentArmoreds }
  else
    let localIdentity := reader.identities.find? fun identity =>
      canonicalizeSenderId lib identity.email = senderEmail ∧ extractArmoredPublicKey identity ≠ []
    let trustedContactRecord :=
      if localIdentity.isSome then none
      else (reader.getContactKey senderEmail).filter fun record =>
        record.trusted ∧ extractArmoredPublicKey record ≠ []
    let directoryHit : Option Candidate :=
      (reader.lookupKey senderEmail).bind fun record =>
        if extractArmoredPublicKey record = [] then none
        else some
          { armored := extractArmoredPublicKey record
            source := if record.source ≠ [] then record.source else lit "directory lookup" }
    let parts := (localIdentity.toList ++ trustedContactRecord.toList).map extractArmoredPublicKey
    let parts := attachmentArmoreds.foldl pushNew parts
    let parts := (directoryHit.toList.map Candidate.armored).foldl pushNew parts
    { senderEmail
      combinedArmored := (lit "\n\n").intercalate (parts.filter fun part => part ≠ [])
      localIdentity
      trustedContactRecord
      directoryHit
      attachmentArmoreds }

def pickArmoredKeyForSignerFingerprint (reader : Reader) (candidates : List Candidate)
    (signerFingerprint : JsString) : Option Candidate :=
  let want := normalizeFingerprintHex reader.host.lib signerFingerprint
  if want = [] then none
  else candidates.find? fun entry =>
    match reader.readKey entry.armored with
    | none => false
    | some key =>
      let fp := normalizeFingerprintHex reader.host.lib key.fingerprint
      entry.armored ≠ [] ∧ fp ≠ [] ∧
        (fp = want ∨ (16 ≤ want.length ∧ endsWith fp (lastUnits 16 want)))

def mergeNestedSignatureVerification (outer : Verification) (inner : Option Verification) :
    Verification :=
  match inner with
  | none => outer
  | some inner =>
    if inner.signed = false then outer
    else if inner.status = .verified then
      { inner with
        signerFingerprint :=
          if inner.signerFingerprint ≠ [] then inner.signerFingerprint
          else outer.signerFingerprint
        signerKeyIDs :=
          if inner.signerKeyIDs ≠ [] then inner.signerKeyIDs else outer.signerKeyIDs }
    else if outer.status = .verified then outer
    else inner

inductive DisplayTrust where
  | na
  | trusted
  | untrusted
deriving DecidableEq

structure SignatureState where
  verification : Verification
  source : JsString := []
  senderEmail : JsString := []
  displayTrust : DisplayTrust := .na
  trustArmored : JsString := []
  trustSource : JsString := []
  trustHint : JsString := []
deriving DecidableEq

def untrustedState (reader : Reader) (bundle : Bundle) (merged : Verification)
    (senderEmail : JsString) : SignatureState :=
  let candidates :=
    bundle.attachmentArmoreds.map (Candidate.mk · (lit "message attachment")) ++
      bundle.directoryHit.toList
  let state : SignatureState := { verification := merged, senderEmail, displayTrust := .untrusted }
  match pickArmoredKeyForSignerFingerprint reader candidates merged.signerFingerprint with
  | some pick =>
    { state with
      trustArmored := pick.armored
      trustSource := pick.source
      trustHint := lit "Cryptographic signature OK using " ++ pick.source ++
        lit " key — not in your trusted contacts yet." }
  | none =>
    { state with
      trustHint := lit "Cryptographic signature OK, but the signing key is not trusted " ++
        lit "and no matching attachment or directory key was found to import." }

def trustDecision (reader : Reader) (bundle : Bundle) (fromAddr : JsString)
    (merged : Verification) : SignatureState :=
  let lib := reader.host.lib
  let senderEmail :=
    if bundle.senderEmail ≠ [] then bundle.senderEmail else canonicalizeSenderId lib fromAddr
  let trustedBy (record : Option KeyRecord) : Bool :=
    record.any fun record => fingerprintsMatch lib record.fingerprint merged.signerFingerprint
  if merged.status = .verified ∧ merged.signerFingerprint ≠ [] then
    if trustedBy bundle.localIdentity then
      { verification := merged
        source := lit "local identity"
        senderEmail
        displayTrust := .trusted }
    else if trustedBy bundle.trustedContactRecord then
      { verification := merged
        source := lit "trusted contact"
        senderEmail
        displayTrust := .trusted }
    else untrustedState reader bundle merged senderEmail
  else { verification := merged, senderEmail }

/-- `decryptForIdentityResult`, with the keys it has read. -/
def decryptForIdentityResult (reader : Reader) (combinedArmored : JsString) (mail : Mail) :
    Except JsString (List VerificationKey × List Signature × Nested) := do
  mail.ready
  let keys ← readVerificationKeys reader.readKeys combinedArmored
  let (signatures, nested) ← mail.decrypted
  return (keys, signatures, nested)

/-- `verifyBodySignature`, if no other verification is started before it is done. -/
def verifyBodySignature (reader : Reader) (mail : Mail) : SignatureState :=
  let bundle := buildCombinedVerificationArmored reader mail.fromAddr mail.attachmentArmoreds
  match decryptForIdentityResult reader bundle.combinedArmored mail with
  | .error error => { verification := { status := .error, error } }
  | .ok (keys, signatures, nested) =>
    let outer := summarizeSignatureVerification reader.host reader.verifier signatures keys
    let inner := verifyNested reader.host reader.verifier keys nested
    trustDecision reader bundle mail.fromAddr (mergeNestedSignatureVerification outer inner)

variable (reader : Reader) (mail : Mail)

/-- The keys that a message is verified with, its own signatures and those within it;
nothing if it cannot be decrypted. -/
def Mail.opened : List VerificationKey × List Signature × Nested :=
  let bundle := buildCombinedVerificationArmored reader mail.fromAddr mail.attachmentArmoreds
  match decryptForIdentityResult reader bundle.combinedArmored mail with
  | .error _ => ([], [], .absent)
  | .ok opened => opened

def Mail.keys : List VerificationKey := (mail.opened reader).1

def Mail.outer : List Signature := (mail.opened reader).2.1

def Mail.inner : List Signature := (mail.opened reader).2.2.signatures

/-- The record whose key the reader trusts for the sender of a message: the viewer's own
identity, or a trusted contact. -/
def Mail.Trusts (record : KeyRecord) : Prop :=
  let bundle := buildCombinedVerificationArmored reader mail.fromAddr mail.attachmentArmoreds
  bundle.localIdentity = some record ∨ bundle.trustedContactRecord = some record

def Mail.SignedBy (record : KeyRecord) : Prop :=
  ∃ key ∈ mail.keys reader, ∃ signature ∈ mail.outer reader ++ mail.inner reader,
    reader.verifier.verifies key signature = true ∧
      fingerprintsMatch reader.host.lib record.fingerprint
        (normalizeFingerprint reader.host key.fingerprint) = true

/-- What is shown as trusted is signed with the trusted key, and what is summarized as
verified names the key that it is verified under. -/
structure Attributed : Prop where
  trusted : (verifyBodySignature reader mail).displayTrust = .trusted →
    ∃ record, mail.Trusts reader record ∧ mail.SignedBy reader record
  outer : NamesSigner reader.host reader.verifier (mail.outer reader) (mail.keys reader)
  inner : NamesSigner reader.host reader.verifier (mail.inner reader) (mail.keys reader)

variable {reader mail}

theorem trustDecision_trusted {bundle : Bundle} {fromAddr : JsString} {merged : Verification}
    (trusted : (trustDecision reader bundle fromAddr merged).displayTrust = .trusted) :
    merged.status = .verified ∧ ∃ record,
      (bundle.localIdentity = some record ∨ bundle.trustedContactRecord = some record) ∧
      fingerprintsMatch reader.host.lib record.fingerprint merged.signerFingerprint = true := by
  unfold trustDecision at trusted
  dsimp only at trusted
  split at trusted
  next verified =>
    refine ⟨verified.1, ?_⟩
    split at trusted
    next own =>
      obtain ⟨record, found, matched⟩ := Option.any_eq_true .. |>.mp own
      exact ⟨record, .inl found, matched⟩
    split at trusted
    next contact =>
      obtain ⟨record, found, matched⟩ := Option.any_eq_true .. |>.mp contact
      exact ⟨record, .inr found, matched⟩
    next =>
      unfold untrustedState at trusted
      dsimp only at trusted
      split at trusted <;> cases trusted
  next => cases trusted

theorem merge_verified {outer : Verification} {inner : Option Verification}
    (verified : (mergeNestedSignatureVerification outer inner).status = .verified) :
    (outer.status = .verified ∧
      (mergeNestedSignatureVerification outer inner).signerFingerprint = outer.signerFingerprint) ∨
    ∃ nested, inner = some nested ∧ nested.status = .verified ∧
      (nested.signerFingerprint ≠ [] →
        (mergeNestedSignatureVerification outer inner).signerFingerprint =
          nested.signerFingerprint) := by
  unfold mergeNestedSignatureVerification at verified ⊢
  cases inner with
  | none => exact .inl ⟨verified, rfl⟩
  | some nested =>
    dsimp only at verified ⊢
    split at verified
    next unsigned =>
      rw [if_pos unsigned]
      exact .inl ⟨verified, rfl⟩
    next signed =>
      rw [if_neg signed]
      split at verified
      next settled =>
        rw [if_pos settled]
        refine .inr ⟨nested, rfl, settled, fun present => ?_⟩
        dsimp only
        rw [if_pos present]
      next unsettled =>
        rw [if_neg unsettled]
        split at verified
        next settled =>
          rw [if_pos settled]
          exact .inl ⟨settled, rfl⟩
        next => exact absurd verified unsettled

theorem verifyNested_verified {host : Host} {verifier : Verifier} {keys : List VerificationKey}
    {nested : Nested} {verification : Verification}
    (verified : verifyNested host verifier keys nested = some verification)
    (settled : verification.status = .verified) :
    verification = summarizeSignatureVerification host verifier nested.signatures keys := by
  unfold verifyNested at verified
  split at verified
  next => cases verified
  next =>
    cases nested with
    | absent => cases verified
    | malformed error =>
      cases verified
      cases settled
    | signed signatures =>
      cases verified
      rfl

theorem merge_signer {host : Host} {verifier : Verifier} {keys : List VerificationKey}
    {signatures : List Signature} {nested : Nested}
    (outer : NamesSigner host verifier signatures keys)
    (inner : NamesSigner host verifier nested.signatures keys)
    (verified : (mergeNestedSignatureVerification
      (summarizeSignatureVerification host verifier signatures keys)
      (verifyNested host verifier keys nested)).status = .verified) :
    Signer host verifier (signatures ++ nested.signatures) keys
      (mergeNestedSignatureVerification
        (summarizeSignatureVerification host verifier signatures keys)
        (verifyNested host verifier keys nested)).signerFingerprint := by
  rcases merge_verified verified with ⟨settled, same⟩ | ⟨summary, found, settled, same⟩
  · rw [same]
    obtain ⟨key, known, signature, member, verifies⟩ := outer settled
    exact ⟨key, known, signature, List.mem_append_left _ member, verifies⟩
  · have summarized := verifyNested_verified found settled
    subst summarized
    obtain ⟨key, known, signature, member, verifies, fingerprint, present⟩ := inner settled
    rw [same present]
    exact ⟨key, known, signature, List.mem_append_right _ member, verifies, fingerprint, present⟩

theorem trusted_merged (trusted : (verifyBodySignature reader mail).displayTrust = .trusted) :
    ∃ signatures nested, mail.opened reader = (mail.keys reader, signatures, nested) ∧
      (trustDecision reader
        (buildCombinedVerificationArmored reader mail.fromAddr mail.attachmentArmoreds) mail.fromAddr
        (mergeNestedSignatureVerification
          (summarizeSignatureVerification reader.host reader.verifier signatures (mail.keys reader))
          (verifyNested reader.host reader.verifier (mail.keys reader) nested))).displayTrust =
        .trusted := by
  refine ⟨(mail.opened reader).2.1, (mail.opened reader).2.2, rfl, ?_⟩
  unfold verifyBodySignature at trusted
  unfold Mail.keys Mail.opened
  dsimp only at trusted ⊢
  split at trusted
  next => cases trusted
  next keys signatures nested opened =>
    rw [opened]
    exact trusted

/-- The attribution is right exactly if in each layer the first key that any signature claims
to be of is one under which a signature of that layer verifies. -/
theorem attributed_iff (reader : Reader) (mail : Mail) : Attributed reader mail ↔
    ClaimsSigner reader.host reader.verifier (mail.outer reader) (mail.keys reader) ∧
      ClaimsSigner reader.host reader.verifier (mail.inner reader) (mail.keys reader) := by
  rw [← namesSigner_iff, ← namesSigner_iff]
  constructor
  · intro attributed
    exact ⟨attributed.outer, attributed.inner⟩
  · rintro ⟨outer, inner⟩
    refine ⟨fun trusted => ?_, outer, inner⟩
    obtain ⟨signatures, nested, opened, decided⟩ := trusted_merged trusted
    have outerEq : mail.outer reader = signatures := by rw [Mail.outer, opened]
    have innerEq : mail.inner reader = nested.signatures := by rw [Mail.inner, opened]
    obtain ⟨verified, record, trusts, matched⟩ := trustDecision_trusted decided
    rw [outerEq] at outer
    rw [innerEq] at inner
    obtain ⟨key, known, signature, member, verifies, fingerprint, -⟩ :=
      merge_signer outer inner verified
    refine ⟨record, trusts, key, known, signature, ?_, verifies, ?_⟩
    · rw [outerEq, innerEq]
      exact member
    · rw [fingerprint]
      exact matched

def keyOfBob : VerificationKey := ⟨lit "bob", lit "00112233445566778899AABBCCDDEEFF00112233"⟩

def keyOfEve : VerificationKey := ⟨lit "eve", lit "FFEEDDCCBBAA99887766554433221100FFEEDDCC"⟩

/-- The contact's record. The armored block that was saved holds both keys, and the
fingerprint is that of the first. -/
def recordOfBob : KeyRecord :=
  { email := lit "bob@x.org"
    fingerprint := keyOfBob.fingerprint
    armoredPublic := lit "keyring"
    trusted := true }

/-- A reader that knows the contact. The one signature that verifies is Eve's. -/
def readerOfRing : Reader where
  host := { lib := .plain, b64ToText := fun _ => none, depth := 1 }
  verifier :=
    { verifies := fun key signature => key = keyOfEve ∧ signature.packet = lit "eve"
      failure := fun _ => lit "Could not find signing key" }
  readKeys := fun text => if text = lit "keyring" then .ok [keyOfBob, keyOfEve] else .error []
  readKey := fun _ => none
  getContactKey := fun email => if email = lit "bob@x.org" then some recordOfBob else none
  lookupKey := fun _ => none
  identities := []

/-- A message from Eve, with her signature and one that only claims to be Bob's. -/
def mailFromEve : Mail where
  fromAddr := lit "Bob <bob@x.org>"
  attachmentArmoreds := []
  ready := .ok ()
  decrypted := .ok
    ([⟨lit "eve", lit "33221100FFEEDDCC"⟩, ⟨lit "forged", lit "CCDDEEFF00112233"⟩], .absent)

/-- Eve's message is shown as signed by Bob, whose key verifies none of its signatures. -/
theorem forged_claim_trusted :
    (verifyBodySignature readerOfRing mailFromEve).displayTrust = .trusted ∧
      (∀ record, mailFromEve.Trusts readerOfRing record →
        ¬ mailFromEve.SignedBy readerOfRing record) ∧
      ¬ Attributed readerOfRing mailFromEve := by
  have shown : (verifyBodySignature readerOfRing mailFromEve).displayTrust = .trusted := by
    decide
  have unsigned : ∀ record, mailFromEve.Trusts readerOfRing record →
      ¬ mailFromEve.SignedBy readerOfRing record := by
    intro record trusts signed
    have bob : record = recordOfBob := by
      have none : (buildCombinedVerificationArmored readerOfRing mailFromEve.fromAddr
        mailFromEve.attachmentArmoreds).localIdentity = none := by decide
      have contact : (buildCombinedVerificationArmored readerOfRing mailFromEve.fromAddr
        mailFromEve.attachmentArmoreds).trustedContactRecord = some recordOfBob := by decide
      unfold Mail.Trusts at trusts
      simpa [none, contact, eq_comm] using trusts
    subst bob
    revert signed
    unfold Mail.SignedBy
    decide
  exact ⟨shown, unsigned, fun attributed =>
    let ⟨record, trusts, signed⟩ := attributed.trusted shown
    unsigned record trusts signed⟩

end ElvishMail.Mailapp
