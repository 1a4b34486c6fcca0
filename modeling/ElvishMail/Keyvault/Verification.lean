import ElvishMail.Keyvault.Vault

/-!
# Signature summaries

`static/auth/unlock.js`: from the signatures that OpenPGP.js reports for a message
to one status and one signer. OpenPGP.js settles the promise of a signature
correctly: it is fulfilled if the signature verifies under one of the keys.
-/

namespace ElvishMail.Keyvault

open Js

structure VerificationKey where
  material : JsString
  fingerprint : JsString
deriving DecidableEq

/-- A signature, with the key id it claims to be of (empty if it names none). -/
structure Signature where
  packet : JsString
  keyID : JsString
deriving DecidableEq

/-- OpenPGP.js as far as signatures go: when one verifies under a key, and why it
otherwise does not. -/
structure Verifier where
  verifies : VerificationKey → Signature → Bool
  failure : Signature → JsString

inductive Status where
  | unsigned
  | missingPublicKey
  | verified
  | badSignature
  | error
deriving DecidableEq

structure Verification where
  status : Status
  signed : Bool := false
  signerKeyIDs : List JsString := []
  signerFingerprint : JsString := []
  error : JsString := []
deriving DecidableEq

variable (host : Host) (verifier : Verifier)

def signatureKeyIDHex (signature : Signature) : JsString := host.lib.toUpperCase signature.keyID

def signerKeyIDs (signatures : List Signature) : List JsString :=
  (signatures.map (signatureKeyIDHex host)).filter fun id => id ≠ []

def namedKey (verificationKeys : List VerificationKey) (ids : List JsString) :
    Option VerificationKey :=
  verificationKeys.find? fun key =>
    let fp := normalizeFingerprint host key.fingerprint
    fp ≠ [] ∧ (ids = [] ∨ fingerprintKeyId16 host fp ∈ ids)

def fingerprintFromVerificationKeys (verificationKeys : List VerificationKey)
    (ids : List JsString) : JsString :=
  match namedKey host verificationKeys (ids.filter fun id => id ≠ []) with
  | some key => normalizeFingerprint host key.fingerprint
  | none => []

def fulfilled (verificationKeys : List VerificationKey) (signature : Signature) : Bool :=
  verificationKeys.any fun key => verifier.verifies key signature

def summarizeSignatureVerification (signatures : List Signature)
    (verificationKeys : List VerificationKey) : Verification :=
  let ids := signerKeyIDs host signatures
  match signatures with
  | [] => { status := .unsigned }
  | first :: _ =>
    if verificationKeys = [] then
      { status := .missingPublicKey
        signed := true
        signerKeyIDs := ids
        error := lit "signing key unavailable" }
    else if signatures.any (fulfilled verifier verificationKeys) then
      { status := .verified
        signed := true
        signerKeyIDs := ids
        signerFingerprint := fingerprintFromVerificationKeys host verificationKeys ids }
    else
      { status := .badSignature
        signed := true
        signerKeyIDs := ids
        signerFingerprint := fingerprintFromVerificationKeys host verificationKeys ids
        error := verifier.failure first }

/-- `readVerificationKeys`, given the `readKeys` of OpenPGP.js. -/
def readVerificationKeys (readKeys : JsString → Except JsString (List VerificationKey))
    (armoredPublicKeys : JsString) : Except JsString (List VerificationKey) :=
  if trim armoredPublicKeys = [] then .ok [] else readKeys (trim armoredPublicKeys)

/-- The signed material within a decrypted text: none, some that cannot be read, or some
with its signatures. -/
inductive Nested where
  | absent
  | malformed (error : JsString)
  | signed (signatures : List Signature)
deriving DecidableEq

def Nested.signatures : Nested → List Signature
  | .signed signatures => signatures
  | _ => []

/-- `verifyNestedSignedPayloadAfterDecrypt`, once the text is taken apart. -/
def verifyNested (verificationKeys : List VerificationKey) (nested : Nested) :
    Option Verification :=
  if verificationKeys = [] then none
  else match nested with
    | .absent => none
    | .malformed error => some { status := .badSignature, signed := true, error }
    | .signed signatures =>
      some (summarizeSignatureVerification host verifier signatures verificationKeys)

variable (signatures : List Signature) (keys : List VerificationKey)

/-- A fingerprint is that of a key under which one of the signatures verifies. -/
def Signer (fingerprint : JsString) : Prop :=
  ∃ key ∈ keys, ∃ signature ∈ signatures, verifier.verifies key signature = true ∧
    normalizeFingerprint host key.fingerprint = fingerprint ∧ fingerprint ≠ []

def NamesSigner : Prop :=
  (summarizeSignatureVerification host verifier signatures keys).status = .verified →
    Signer host verifier signatures keys
      (summarizeSignatureVerification host verifier signatures keys).signerFingerprint

/-- One of the signatures, whether it verifies or not, claims to be of this key; without
any claim, every key that has a fingerprint will do. -/
def Claimed (key : VerificationKey) : Prop :=
  normalizeFingerprint host key.fingerprint ≠ [] ∧
    (signerKeyIDs host signatures = [] ∨
      fingerprintKeyId16 host (normalizeFingerprint host key.fingerprint) ∈
        signerKeyIDs host signatures)

/-- No signature verifies, or the first key that any of the signatures claims to be of has
the fingerprint of one under which a signature verifies. -/
def ClaimsSigner : Prop :=
  (∀ signature ∈ signatures, ∀ key ∈ keys, verifier.verifies key signature = false) ∨
    ∃ earlier key later, keys = earlier ++ key :: later ∧
      (∀ other ∈ earlier, ¬ Claimed host signatures other) ∧ Claimed host signatures key ∧
      Signer host verifier signatures keys (normalizeFingerprint host key.fingerprint)

variable {host verifier signatures keys}

theorem fulfilled_iff {signature : Signature} :
    fulfilled verifier keys signature = true ↔
      ∃ key ∈ keys, verifier.verifies key signature = true := by
  simp [fulfilled]

theorem verified_iff : (summarizeSignatureVerification host verifier signatures keys).status =
    .verified ↔ ∃ signature ∈ signatures, ∃ key ∈ keys, verifier.verifies key signature = true := by
  unfold summarizeSignatureVerification
  cases signatures with
  | nil => simp
  | cons first rest =>
    dsimp only
    split
    next empty =>
      subst empty
      simp
    split
    next some =>
      simp only [true_iff]
      obtain ⟨signature, member, settled⟩ := List.any_eq_true.mp some
      exact ⟨signature, member, fulfilled_iff.mp settled⟩
    next none =>
      simp only [reduceCtorEq, false_iff]
      rintro ⟨signature, member, verifies⟩
      exact none (List.any_eq_true.mpr ⟨signature, member, fulfilled_iff.mpr verifies⟩)

theorem signerFingerprint_of_verified
    (verified : (summarizeSignatureVerification host verifier signatures keys).status = .verified) :
    (summarizeSignatureVerification host verifier signatures keys).signerFingerprint =
      fingerprintFromVerificationKeys host keys (signerKeyIDs host signatures) := by
  unfold summarizeSignatureVerification at verified ⊢
  cases signatures with
  | nil => cases verified
  | cons first rest =>
    dsimp only at verified ⊢
    split at verified
    next => cases verified
    next some =>
      rw [if_neg some]
      split at verified
      next settled => rw [if_pos settled]
      next => cases verified

theorem fingerprint_named : fingerprintFromVerificationKeys host keys (signerKeyIDs host signatures) =
    ((namedKey host keys (signerKeyIDs host signatures)).map fun key =>
      normalizeFingerprint host key.fingerprint).getD [] := by
  have ids : (signerKeyIDs host signatures).filter (fun id => decide (id ≠ [])) =
      signerKeyIDs host signatures := by
    simp [signerKeyIDs, List.filter_filter]
  rw [fingerprintFromVerificationKeys, ids]
  cases namedKey host keys (signerKeyIDs host signatures) <;> rfl

theorem namedKey_eq_some {key : VerificationKey} :
    namedKey host keys (signerKeyIDs host signatures) = some key ↔
      ∃ earlier later, keys = earlier ++ key :: later ∧
        (∀ other ∈ earlier, ¬ Claimed host signatures other) ∧ Claimed host signatures key := by
  unfold namedKey
  rw [List.find?_eq_some_iff_append]
  simp only [decide_eq_true_eq, Bool.not_eq_true', decide_eq_false_iff_not]
  constructor
  · rintro ⟨claimed, earlier, later, split, first⟩
    exact ⟨earlier, later, split, first, claimed⟩
  · rintro ⟨earlier, later, split, first, claimed⟩
    exact ⟨claimed, earlier, later, split, first⟩

theorem namesSigner_iff :
    NamesSigner host verifier signatures keys ↔ ClaimsSigner host verifier signatures keys := by
  constructor
  · intro names
    by_cases verified :
        (summarizeSignatureVerification host verifier signatures keys).status = .verified
    · have signer := names verified
      rw [signerFingerprint_of_verified verified, fingerprint_named] at signer
      cases named : namedKey host keys (signerKeyIDs host signatures) with
      | none =>
        rw [named] at signer
        obtain ⟨_, _, _, _, _, _, present⟩ := signer
        exact absurd rfl present
      | some key =>
        rw [named] at signer
        obtain ⟨earlier, later, split, first, claimed⟩ := namedKey_eq_some.mp named
        exact .inr ⟨earlier, key, later, split, first, claimed, signer⟩
    · refine .inl fun signature member key known => ?_
      by_contra verifies
      exact verified (verified_iff.mpr ⟨signature, member, key, known, by simpa using verifies⟩)
  · intro claims verified
    rcases claims with none | ⟨earlier, key, later, split, first, claimed, signer⟩
    · obtain ⟨signature, member, key, known, verifies⟩ := verified_iff.mp verified
      rw [none signature member key known] at verifies
      cases verifies
    · have named := namedKey_eq_some.mpr ⟨earlier, later, split, first, claimed⟩
      rw [signerFingerprint_of_verified verified, fingerprint_named, named]
      exact signer

end ElvishMail.Keyvault
