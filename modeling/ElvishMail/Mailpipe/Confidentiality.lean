import ElvishMail.Mailpipe.Compensation

/-!
# No plaintext at rest

A body is stored as it came when `Sniff` takes it for ciphertext, and encrypted
otherwise. `EncryptedBody` says what ciphertext is: an OpenPGP message with
encrypted data in it, or a message whose own header declares
`multipart/encrypted`. `Sniff` looks for less than that, and `Deceives` names the
bodies for which the difference matters.
-/

namespace ElvishMail.Mailpipe

open Go Smtp Mailmeta Mailstore Openpgp Semantics

def messageLines (message : GoString) : List GoString :=
  (message.splitOn 0x0A).map fun line => trimSuffix line [0x0D]

def headerFields (message : GoString) : List GoString :=
  let joined := ((messageLines message).takeWhile (· ≠ [])).foldl
    (fun (fields : List GoString) line =>
      match fields, line with
      | field :: earlier, 0x20 :: _ | field :: earlier, 0x09 :: _ => (field ++ line) :: earlier
      | fields, _ => line :: fields) []
  joined.reverse

def fieldValue? (lib : Library) (name field : GoString) : Option GoString := do
  let colon ← indexByte field 0x3A
  if toLower lib (trimSpace (field.take colon)) = name then some (field.drop (colon + 1)) else none

/-- The type that the header of the message declares, in lower case. -/
def mediaType (lib : Library) (message : GoString) : Option GoString := do
  let value ← (headerFields message).findSome? (fieldValue? lib (ascii "content-type"))
  some (toLower lib (trimSpace (value.takeWhile (· ≠ 0x3B))))

def hasEncryptedData (reader : Reader) (packets : GoString) : Bool :=
  (reader.packets packets).any fun packet =>
    packet == .symmetricallyEncrypted || packet == .aeadEncrypted

/-- A body that is encrypted at its top level: in armor, as plain packets, or as a
message of type `multipart/encrypted`. -/
def EncryptedBody (lib : Library) (reader : Reader) (body : GoString) : Prop :=
  (∃ contents, reader.armorDecode (trimLeftBlank body) = some (ascii "PGP MESSAGE", contents) ∧
    hasEncryptedData reader contents = true) ∨
  hasEncryptedData reader (trimLeftBlank body) = true ∨
  mediaType lib body = some (ascii "multipart/encrypted")

/-- Packets that `hasOpenPGPPacket` takes for a message's although they encrypt nothing. -/
def Unsealed (packets : List PacketType) : Prop :=
  (.encryptedKey ∈ packets ∨ .compressed ∈ packets ∨ .literalData ∈ packets) ∧
    .symmetricallyEncrypted ∉ packets ∧ .aeadEncrypted ∉ packets

/-- The markers of PGP/MIME that `validatePGPMIME` looks for, anywhere in a body. -/
structure Mentions (lib : Library) (body : GoString) : Prop where
  whole : ascii "multipart/encrypted" <:+: body
  part : ascii "application/pgp-encrypted" <:+: body
  boundary : ascii "boundary=" <:+: toLower lib body
  version : ascii "version: 1" <:+: toLower lib body ∨ ascii "version:1" <:+: toLower lib body

/-- A body without an armor header that `Sniff` decides by. -/
def Unarmored (body : GoString) : Prop :=
  hasPrefix (trimLeftBlank body) (ascii "-----BEGIN PGP MESSAGE-----") = false ∧
    hasPrefix (trimLeftBlank body) (ascii "-----BEGIN PGP SIGNED MESSAGE-----") = false

/-- A body whose own header declares another type than `multipart/encrypted`, and whose
armor, where it has one, holds no encrypted data. -/
def Undeclared (lib : Library) (reader : Reader) (body : GoString) : Prop :=
  mediaType lib body ≠ some (ascii "multipart/encrypted") ∧
    ∀ contents, reader.armorDecode (trimLeftBlank body) = some (ascii "PGP MESSAGE", contents) →
      hasEncryptedData reader contents = false

/-- The plain bodies that pass for ciphertext: an OpenPGP message without encrypted data, in
armor or as plain packets, or a message that mentions the markers of PGP/MIME and whose
header says that it is something else. -/
inductive Deceives (lib : Library) (reader : Reader) (body : GoString) : Prop where
  | armored (contents : GoString)
      (starts : hasPrefix (trimLeftBlank body) (ascii "-----BEGIN PGP MESSAGE-----") = true)
      (decoded : reader.armorDecode (trimLeftBlank body) = some (ascii "PGP MESSAGE", contents))
      (unsealed : Unsealed (reader.packets contents))
      (outside : hasEncryptedData reader (trimLeftBlank body) = false)
      (undeclared : mediaType lib body ≠ some (ascii "multipart/encrypted"))
  | mentioned (unarmored : Unarmored body) (markers : Mentions lib body)
      (unencrypted : hasEncryptedData reader (trimLeftBlank body) = false)
      (undeclared : Undeclared lib reader body)
  | binary (unarmored : Unarmored body) (nonempty : trimLeftBlank body ≠ [])
      (unmentioned : ¬(ascii "multipart/encrypted" <:+: body ∧
        ascii "application/pgp-encrypted" <:+: body))
      (unsealed : Unsealed (reader.packets (trimLeftBlank body)))
      (undeclared : Undeclared lib reader body)

variable {lib : Library} {reader : Reader} {body packets : GoString}

theorem validateArmoredMessage_iff :
    validateArmoredMessage reader body = true ↔
      ∃ contents, reader.armorDecode body = some (ascii "PGP MESSAGE", contents) ∧
        hasOpenPGPPacket reader contents = true := by
  unfold validateArmoredMessage
  cases decoded : reader.armorDecode body with
  | none => simp
  | some block =>
    obtain ⟨blockType, contents⟩ := block
    by_cases kind : blockType = ascii "PGP MESSAGE" <;> simp [kind]

theorem validatePGPMIME_iff : validatePGPMIME lib body = true ↔ Mentions lib body := by
  have markers : Mentions lib body ↔
      (contains body (ascii "multipart/encrypted") = true ∧
        contains body (ascii "application/pgp-encrypted") = true) ∧
      contains (toLower lib body) (ascii "boundary=") = true ∧
        (contains (toLower lib body) (ascii "version: 1") = true ∨
          contains (toLower lib body) (ascii "version:1") = true) := by
    simp only [contains_iff]
    exact ⟨fun ⟨whole, part, boundary, version⟩ => ⟨⟨whole, part⟩, boundary, version⟩,
      fun ⟨⟨whole, part⟩, boundary, version⟩ => ⟨whole, part, boundary, version⟩⟩
  rw [markers]
  unfold validatePGPMIME
  dsimp only
  cases contains body (ascii "multipart/encrypted") <;>
    cases contains body (ascii "application/pgp-encrypted") <;>
    cases contains (toLower lib body) (ascii "boundary=") <;>
    cases contains (toLower lib body) (ascii "version: 1") <;> simp

theorem unsealed_iff :
    Unsealed (reader.packets packets) ↔
      hasOpenPGPPacket reader packets = true ∧ hasEncryptedData reader packets = false := by
  unfold Unsealed hasOpenPGPPacket hasEncryptedData
  constructor
  · rintro ⟨there, noCipher, noAead⟩
    refine ⟨?_, List.any_eq_false.mpr fun packet member => ?_⟩
    · rcases there with there | there | there <;> exact List.any_eq_true.mpr ⟨_, there, rfl⟩
    · cases packet <;> first | exact absurd member ‹_› | simp
  · rintro ⟨accepted, unencrypted⟩
    have plain := List.any_eq_false.mp unencrypted
    refine ⟨?_, fun member => plain _ member rfl, fun member => plain _ member rfl⟩
    obtain ⟨packet, member, kind⟩ := List.any_eq_true.mp accepted
    have sealed := plain packet member
    cases packet <;> simp_all

theorem not_encryptedBody_iff :
    ¬EncryptedBody lib reader body ↔
      Undeclared lib reader body ∧ hasEncryptedData reader (trimLeftBlank body) = false := by
  unfold EncryptedBody Undeclared
  constructor
  · intro unencrypted
    refine ⟨⟨fun declared => unencrypted (.inr (.inr declared)), fun contents decoded => ?_⟩, ?_⟩
    · exact Bool.eq_false_iff.mpr fun there => unencrypted (.inl ⟨contents, decoded, there⟩)
    · exact Bool.eq_false_iff.mpr fun there => unencrypted (.inr (.inl there))
  · rintro ⟨⟨undeclared, bare⟩, outside⟩ (⟨contents, decoded, there⟩ | there | declared)
    · exact Bool.false_ne_true ((bare contents decoded).symm.trans there)
    · exact Bool.false_ne_true (outside.symm.trans there)
    · exact undeclared declared

theorem sniff_unarmored (unarmored : Unarmored body) :
    (sniff lib reader body).isCiphertext =
      if contains body (ascii "multipart/encrypted") &&
        contains body (ascii "application/pgp-encrypted") then validatePGPMIME lib body
      else validateBinaryPGP reader (trimLeftBlank body) := by
  simp only [sniff, unarmored.1, unarmored.2, Bool.false_eq_true, if_false]
  split
  · cases validatePGPMIME lib body <;> rfl
  · cases validateBinaryPGP reader (trimLeftBlank body) <;> rfl

theorem validateBinaryPGP_iff :
    validateBinaryPGP reader packets = true ↔ packets ≠ [] ∧ hasOpenPGPPacket reader packets = true := by
  cases packets <;> simp [validateBinaryPGP]

theorem deceives_iff :
    Deceives lib reader body ↔
      (sniff lib reader body).isCiphertext = true ∧ ¬EncryptedBody lib reader body := by
  rw [not_encryptedBody_iff]
  constructor
  · intro deceives
    cases deceives with
    | armored contents starts decoded unsealed outside undeclared =>
      obtain ⟨accepted, unencrypted⟩ := unsealed_iff.mp unsealed
      have valid := validateArmoredMessage_iff.mpr ⟨contents, decoded, accepted⟩
      refine ⟨by simp [sniff, starts, valid, BodyKind.isCiphertext], ⟨undeclared, ?_⟩, outside⟩
      intro other same
      rw [decoded] at same
      cases same
      exact unencrypted
    | mentioned unarmored markers unencrypted undeclared =>
      refine ⟨?_, undeclared, unencrypted⟩
      rw [sniff_unarmored unarmored, contains_iff.mpr markers.whole, contains_iff.mpr markers.part]
      exact validatePGPMIME_iff.mpr markers
    | binary unarmored nonempty unmentioned unsealed undeclared =>
      obtain ⟨accepted, unencrypted⟩ := unsealed_iff.mp unsealed
      refine ⟨?_, undeclared, unencrypted⟩
      rw [sniff_unarmored unarmored, if_neg (by simpa [contains_iff] using unmentioned)]
      exact validateBinaryPGP_iff.mpr ⟨nonempty, accepted⟩
  · rintro ⟨kept, undeclared, unencrypted⟩
    cases starts : hasPrefix (trimLeftBlank body) (ascii "-----BEGIN PGP MESSAGE-----") with
    | true =>
      have valid : validateArmoredMessage reader (trimLeftBlank body) = true := by
        by_contra invalid
        simp [sniff, starts, invalid, BodyKind.isCiphertext] at kept
      obtain ⟨contents, decoded, accepted⟩ := validateArmoredMessage_iff.mp valid
      exact .armored contents starts decoded
        (unsealed_iff.mpr ⟨accepted, undeclared.2 contents decoded⟩) unencrypted undeclared.1
    | false =>
      have unarmored : Unarmored body := by
        refine ⟨starts, Bool.eq_false_iff.mpr fun signed => ?_⟩
        simp [sniff, starts, signed, BodyKind.isCiphertext] at kept
      rw [sniff_unarmored unarmored] at kept
      split at kept
      · exact .mentioned unarmored (validatePGPMIME_iff.mp kept) unencrypted undeclared
      next unmentioned =>
        obtain ⟨nonempty, accepted⟩ := validateBinaryPGP_iff.mp kept
        exact .binary unarmored nonempty (by simpa [contains_iff] using unmentioned)
          (unsealed_iff.mpr ⟨accepted, unencrypted⟩) undeclared

section Packages

variable {pipe : Pipe} {conditions : Conditions} {rawBody : GoString} {package : Package}

def Kept (pipe : Pipe) (conditions : Conditions) (rawBody stored : GoString) : Prop :=
  (sniff pipe.lib pipe.reader rawBody).isCiphertext = true ∧ stored = rawBody ∨
    ∃ armoredPublic, conditions.encrypt armoredPublic rawBody = .ok stored

theorem materialize_kept {recipientPub provenance stored : GoString}
    (decided : pipe.materialize conditions rawBody recipientPub = .ok (provenance, stored)) :
    Kept pipe conditions rawBody stored := by
  unfold Pipe.materialize at decided
  split at decided
  next ciphertext =>
    cases decided
    exact .inl ⟨ciphertext, rfl⟩
  next =>
    split at decided
    · cases decided
    next encrypted =>
      cases decided
      exact .inr ⟨recipientPub, encrypted⟩

theorem plaintextIntake_kept {source fromAddr recipient : GoString} {rcpt : List GoString}
    (decided : pipe.plaintextIntake conditions source fromAddr recipient rcpt rawBody =
      .ok (.kept package)) : Kept pipe conditions rawBody package.bodyCiphertext := by
  obtain ⟨-, -, sized⟩ := bind_eq_ok decided
  obtain ⟨identity, -, resolved⟩ := bind_eq_ok sized
  obtain ⟨decision, -, filtered⟩ := bind_eq_ok resolved
  dsimp only at filtered
  split at filtered
  · cases filtered
  · obtain ⟨⟨provenance, stored⟩, materialized, packed⟩ := bind_eq_ok filtered
    obtain ⟨header, -, packed⟩ := bind_eq_ok packed
    cases packed
    exact materialize_kept materialized

theorem externalIntake_kept {fromAddr recipient : GoString}
    (decided : pipe.externalIntake conditions fromAddr recipient rawBody = .ok (.kept package)) :
    Kept pipe conditions rawBody package.bodyCiphertext := by
  obtain ⟨-, -, sized⟩ := bind_eq_ok decided
  split at sized
  next ciphertext =>
    obtain ⟨identity, -, resolved⟩ := bind_eq_ok sized
    obtain ⟨decision, -, filtered⟩ := bind_eq_ok resolved
    split at filtered
    · cases filtered
    · obtain ⟨header, -, packed⟩ := bind_eq_ok filtered
      cases packed
      exact .inl ⟨ciphertext, rfl⟩
  · exact plaintextIntake_kept sized

theorem submissionIntake_kept {principalEmail fromAddr : GoString} {rcpt : List GoString}
    (decided : pipe.submissionIntake conditions principalEmail fromAddr rcpt rawBody = .ok package) :
    Kept pipe conditions rawBody package.bodyCiphertext := by
  obtain ⟨sender, -, resolved⟩ := bind_eq_ok decided
  obtain ⟨⟨provenance, stored⟩, materialized, packed⟩ := bind_eq_ok resolved
  obtain ⟨header, -, packed⟩ := bind_eq_ok packed
  cases packed
  exact materialize_kept materialized

theorem internalIntake_kept {fromAddr recipient : GoString} {rcpt : List GoString}
    {headers : HeaderSummary}
    (decided : pipe.internalIntake conditions fromAddr recipient rcpt rawBody headers = .ok package) :
    Kept pipe conditions rawBody package.bodyCiphertext := by
  obtain ⟨identity, -, resolved⟩ := bind_eq_ok decided
  obtain ⟨⟨provenance, stored⟩, materialized, packed⟩ := bind_eq_ok resolved
  obtain ⟨header, -, packed⟩ := bind_eq_ok packed
  cases packed
  exact materialize_kept materialized

end Packages

section Blobs

variable {pipe : Pipe} {conditions : Conditions} {package : Package} {stores after : Stores}

theorem persist_blobs {answer : Except GoError IngestResult}
    (result : pipe.persist conditions package stores = (answer, after))
    {blob : GoString × GoString} (member : blob ∈ after.tables.blobs) :
    blob ∈ stores.tables.blobs ∨ blob.2 = package.bodyCiphertext := by
  rcases persist_issued result with rfl | ⟨err, stored, put, issued⟩
  · exact .inl member
  have kept : blob ∈ stored.tables.blobs := by
    revert member
    refine issued.holds (fun tables => blob ∈ tables.blobs → blob ∈ stored.tables.blobs) id ?_
    intro write kind _ tables before
    cases write with
    | putBlob key body => simp [rowKinds, recordKinds, Write.op] at kind
    | deleteBlob key => exact fun member => before (Rows.mem_of_mem_remove member)
    | _ => exact before
  have written : (stores.draw.exec conditions.outcome (.putBlob
      (mailBodyKey package.userID (stores.lastID + 1)) package.bodyCiphertext)).2 = stored := by
    rw [put]
  revert kept
  rw [← written]
  refine Outcome.exec_holds (fun next : Stores => blob ∈ next.tables.blobs → _) _ .inl ?_
  intro member
  rcases Rows.mem_upsert member with old | rfl
  · exact .inl old
  · exact .inr rfl

end Blobs

inductive Ingest where
  | external (fromAddr recipient : GoString)
  | submission (principalEmail fromAddr : GoString) (rcpt : List GoString)
  | internal (fromAddr recipient : GoString) (rcpt : List GoString) (headers : HeaderSummary)

def Ingest.run (pipe : Pipe) (conditions : Conditions) (rawBody : GoString) (stores : Stores) :
    Ingest → Except GoError IngestResult × Stores
  | external fromAddr recipient => pipe.ingestExternal conditions fromAddr recipient rawBody stores
  | submission principalEmail fromAddr rcpt =>
    pipe.ingestSubmission conditions principalEmail fromAddr rcpt rawBody stores
  | internal fromAddr recipient rcpt headers =>
    pipe.ingestInternalPlaintextWithHeader conditions fromAddr recipient rcpt rawBody headers stores

/-- `openpgp.Encrypt` returns encrypted messages. -/
def Conditions.Encrypts (conditions : Conditions) (pipe : Pipe) : Prop :=
  ∀ armoredPublic plaintext ciphertext,
    conditions.encrypt armoredPublic plaintext = .ok ciphertext →
      EncryptedBody pipe.lib pipe.reader ciphertext

/-- The blob is an output of `openpgp.Encrypt`, or encrypted by itself. -/
def Protected (pipe : Pipe) (conditions : Conditions) (stored : GoString) : Prop :=
  (∃ armoredPublic plaintext, conditions.encrypt armoredPublic plaintext = .ok stored) ∨
    EncryptedBody pipe.lib pipe.reader stored

/-- No ingest of this message, whatever it meets, stores an unprotected blob. -/
def NoPlaintext (pipe : Pipe) (rawBody : GoString) : Prop :=
  ∀ conditions : Conditions, conditions.Encrypts pipe → ∀ (ingest : Ingest) (stores : Stores),
    ∀ blob ∈ (ingest.run pipe conditions rawBody stores).2.tables.blobs,
      blob ∈ stores.tables.blobs ∨ Protected pipe conditions blob.2

section Ingests

variable {pipe : Pipe} {conditions : Conditions} {rawBody : GoString} {stores after : Stores}

theorem run_blobs (ingest : Ingest) {blob : GoString × GoString}
    (member : blob ∈ (ingest.run pipe conditions rawBody stores).2.tables.blobs) :
    blob ∈ stores.tables.blobs ∨ Kept pipe conditions rawBody blob.2 := by
  have persisted {package : Package} (kept : Kept pipe conditions rawBody package.bodyCiphertext)
      (member : blob ∈ (pipe.persist conditions package stores).2.tables.blobs) :
      blob ∈ stores.tables.blobs ∨ Kept pipe conditions rawBody blob.2 := by
    rcases persist_blobs rfl member with old | new
    · exact .inl old
    · exact .inr (new ▸ kept)
  cases ingest with
  | external fromAddr recipient =>
    rw [Ingest.run, Pipe.ingestExternal] at member
    split at member
    · exact .inl member
    · exact .inl member
    next decided => exact persisted (externalIntake_kept decided) member
  | submission principalEmail fromAddr rcpt =>
    rw [Ingest.run, Pipe.ingestSubmission] at member
    split at member
    · exact .inl member
    next decided => exact persisted (submissionIntake_kept decided) member
  | internal fromAddr recipient rcpt headers =>
    rw [Ingest.run, Pipe.ingestInternalPlaintextWithHeader] at member
    split at member
    · exact .inl member
    next decided => exact persisted (internalIntake_kept decided) member

def declaredCiphertext : GoString := ascii "content-type:multipart/encrypted"

theorem declaredCiphertext_encrypted (lib : Library) (reader : Reader) :
    EncryptedBody lib reader declaredCiphertext := .inr (.inr rfl)

/-- An identity for every address, and a store of blobs that reports an error
after it has stored one. -/
def losingConditions : Conditions where
  directory :=
    { identityForExactEmail := fun email => .ok ⟨1, email, ascii "KEY"⟩
      identityForAliasEmail := fun _ => .error .notFound
      identityForCatchall := fun _ => .error .notFound }
  listMailFilters := fun _ => .ok []
  userHasFolder := fun _ _ => .ok false
  encrypt := fun _ _ => .ok declaredCiphertext
  now := 0
  outcome := fun _ => .lost (.plain (ascii "connection reset"))

theorem stored_as_it_came (ready : (!pipe.hasBlob || !pipe.hasScylla || !pipe.hasMeta) = false)
    (ciphertext : (sniff pipe.lib pipe.reader rawBody).isCiphertext = true) :
    (mailBodyKey 1 1, rawBody) ∈ ((Ingest.submission (ascii "a") (ascii "a") []).run pipe
      losingConditions rawBody emptyStores).2.tables.blobs := by
  have identified : pipe.recipientIdentity losingConditions (ascii "a") =
      .ok ⟨1, ascii "a", ascii "KEY"⟩ := by
    have hasMeta : pipe.hasMeta = true := by
      cases present : pipe.hasMeta <;> simp [present] at ready ⊢
    have named : normalized pipe.lib (ascii "a") = ascii "a" := rfl
    rw [Pipe.recipientIdentity, hasMeta, named]
    rfl
  have materialized : pipe.materialize losingConditions rawBody (ascii "KEY") =
      .ok (provenanceSenderPGPMime, rawBody) := by
    rw [Pipe.materialize, if_pos ciphertext]
  obtain ⟨package, decided, user, body⟩ : ∃ package, pipe.submissionIntake losingConditions (ascii "a")
      (ascii "a") [] rawBody = .ok package ∧ package.userID = 1 ∧ package.bodyCiphertext = rawBody := by
    rw [Pipe.submissionIntake, identified]
    change ∃ package, (pipe.materialize losingConditions rawBody (ascii "KEY") >>= _) = _ ∧ _
    rw [materialized]
    exact ⟨_, rfl, rfl, rfl⟩
  rw [Ingest.run, Pipe.ingestSubmission, decided]
  dsimp only
  rw [Pipe.persist, if_neg (by simp [ready]), user, body]
  exact List.mem_append_right _ (List.mem_singleton_self _)

/-- A message is safe in every ingest exactly when it does not deceive `Sniff`, that
is, when `Sniff` takes it for ciphertext only if it is encrypted. -/
theorem no_plaintext_iff (pipe : Pipe)
    (ready : (!pipe.hasBlob || !pipe.hasScylla || !pipe.hasMeta) = false) (rawBody : GoString) :
    (NoPlaintext pipe rawBody ↔ ¬Deceives pipe.lib pipe.reader rawBody) ∧
      (((sniff pipe.lib pipe.reader rawBody).isCiphertext = true →
        EncryptedBody pipe.lib pipe.reader rawBody) ↔ ¬Deceives pipe.lib pipe.reader rawBody) := by
  refine ⟨⟨?_, ?_⟩, ?_⟩
  · intro safe deceives
    obtain ⟨ciphertext, unencrypted⟩ := deceives_iff.mp deceives
    have encrypts : losingConditions.Encrypts pipe := by
      intro armoredPublic plaintext stored encrypted
      cases encrypted
      exact declaredCiphertext_encrypted pipe.lib pipe.reader
    rcases safe losingConditions encrypts _ emptyStores _ (stored_as_it_came ready ciphertext) with
      old | ⟨armoredPublic, plaintext, encrypted⟩ | encrypted
    · cases old
    · exact unencrypted (encrypts armoredPublic plaintext rawBody encrypted)
    · exact unencrypted encrypted
  · intro honest conditions encrypts ingest stores blob member
    rcases run_blobs ingest member with old | ⟨ciphertext, same⟩ | ⟨armoredPublic, encrypted⟩
    · exact .inl old
    · right
      right
      rw [same]
      by_contra unencrypted
      exact honest (deceives_iff.mpr ⟨ciphertext, unencrypted⟩)
    · exact .inr (.inl ⟨armoredPublic, rawBody, encrypted⟩)
  · rw [deceives_iff, not_and_not_right]

end Ingests

/-- An OpenPGP library for a toy format: the armor header is followed by the
packets, and a message that starts with an asterisk is encrypted. -/
def toyReader : Reader where
  armorDecode text :=
    if hasPrefix text (ascii "-----BEGIN PGP MESSAGE-----") then
      some (ascii "PGP MESSAGE", text.drop 27)
    else none
  packets text := if hasPrefix text (ascii "*") then [.encryptedKey, .symmetricallyEncrypted] else []

def toyPipe : Pipe := { samplePipe with reader := toyReader }

/-- `openpgp.Encrypt` of the toy format. -/
def toyConditions : Conditions :=
  { sampleConditions none with
    encrypt := fun _ plaintext =>
      .ok (ascii "-----BEGIN PGP MESSAGE-----*" ++ plaintext.map (· ^^^ 0x55)) }

theorem toyConditions_encrypts : toyConditions.Encrypts toyPipe := by
  intro armoredPublic plaintext stored encrypted
  cases encrypted
  exact .inl ⟨ascii "*" ++ plaintext.map (· ^^^ 0x55), rfl, rfl⟩

def quotingMessage : GoString :=
  ascii "Subject: help

Use multipart/encrypted; boundary=b, application/pgp-encrypted, Version: 1"

/-- A plain message that does not mention the markers is safe. -/
theorem no_plaintext_plain : NoPlaintext toyPipe (ascii "Subject: hi

hello") :=
  (no_plaintext_iff toyPipe rfl (ascii "Subject: hi

hello")).1.mpr fun deceives =>
    absurd (deceives_iff.mp deceives).1 (by
      rw [ascii_ofList]
      decide)

/-- The plain message is stored as it is. -/
theorem plaintext_stored :
    toyConditions.Encrypts toyPipe ∧
    sniff toyPipe.lib toyPipe.reader quotingMessage = .pgpMIME ∧
    ¬EncryptedBody toyPipe.lib toyPipe.reader quotingMessage ∧
    (toyPipe.ingestExternal toyConditions (ascii "eve@y") (ascii "alice@x") quotingMessage
      emptyStores).2.tables.blobs = [(mailBodyKey 1 1, quotingMessage)] ∧
    ¬Protected toyPipe toyConditions quotingMessage := by
  have run : sniff toyPipe.lib toyPipe.reader quotingMessage = .pgpMIME ∧
      hasEncryptedData toyPipe.reader (trimLeftBlank quotingMessage) = false ∧
      mediaType toyPipe.lib quotingMessage = none ∧
      (toyPipe.ingestExternal toyConditions (ascii "eve@y") (ascii "alice@x") quotingMessage
        emptyStores).2.tables.blobs = [(mailBodyKey 1 1, quotingMessage)] := by
    unfold quotingMessage
    repeat rw [ascii_ofList]
    decide
  obtain ⟨mime, packets, declared, blobs⟩ := run
  have unencrypted : ¬EncryptedBody toyPipe.lib toyPipe.reader quotingMessage := by
    rintro (⟨contents, decoded, -⟩ | encrypted | encrypted)
    · cases decoded
    · exact absurd (packets.symm.trans encrypted) nofun
    · exact absurd (declared.symm.trans encrypted) nofun
  refine ⟨toyConditions_encrypts, mime, unencrypted, blobs, ?_⟩
  rintro (⟨armoredPublic, plaintext, encrypted⟩ | encrypted)
  · exact unencrypted (toyConditions_encrypts armoredPublic plaintext quotingMessage encrypted)
  · exact unencrypted encrypted

end ElvishMail.Mailpipe
