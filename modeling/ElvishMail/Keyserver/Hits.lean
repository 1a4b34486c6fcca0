import ElvishMail.Go.Encoding
import ElvishMail.Go.Lowering
import ElvishMail.Openpgp.Sniff

/-!
# Keys from a key server

`normalizeToArmored`, `normalizeProtonKey` and `buildHit` of `internal/keyserver`, over
`ParseKeyDetail` and `ValidateForEncryption` of `internal/openpgp`. A binary keyring is
written again with its first key only. Armored text is passed on as it came, and its first
key alone is looked at.

The OpenPGP library's readers and writers are parameters. Errors only say that there was one.
-/

namespace ElvishMail.Keyserver

open Go Openpgp

structure Flags where
  flagsValid : Bool
  encryptCommunications : Bool
  encryptStorage : Bool
deriving DecidableEq

/-- A user ID and whether its own signature revokes it. -/
structure Identity where
  email : GoString
  revoked : Bool
deriving DecidableEq

structure SelfSignature where
  flags : Flags
  keyLifetimeSecs : Option Nat
deriving DecidableEq

/-- A public key as the library reads it; `packets` is what it writes for it. -/
structure Entity where
  fingerprint : GoString
  creationTime : Int
  identities : List Identity
  revocations : Nat
  primary : Option SelfSignature
  subkeys : List (Option Flags)
  packets : GoString
deriving DecidableEq

/-- The library: packets are read to keys, and armor is put around packets and taken off. What it
writes it reads. -/
structure OpenPGP where
  readKeyRing : GoString → Option (List Entity)
  armor : GoString → GoString
  unarmor : GoString → Option GoString
  written : ∀ {data ring entity}, readKeyRing data = some ring → entity ∈ ring →
    readKeyRing entity.packets = some [entity]
  armored : ∀ data, unarmor (trimSpace (armor data)) = some data
  begins : ∀ data, hasPrefix (trimSpace (armor data)) (ascii "-----BEGIN PGP PUBLIC KEY BLOCK-----") = true

/-- `KeyDetail`, as far as hits are made of it. -/
structure KeyDetail where
  fingerprint : GoString
  emails : List GoString
  isRevoked : Bool
  expiresAt : Option Int
  encrypt : Bool

/-- `KeyHit`, without its times. -/
structure KeyHit where
  email : GoString
  fingerprint : GoString
  armored : GoString
  source : GoString
  verifiedUIDMatch : Bool
  protonKTState : GoString := []
  addressKeysVerified : Bool := false
deriving DecidableEq

def beginMarker : GoString := ascii "-----BEGIN PGP PUBLIC KEY BLOCK-----"

def Flags.encrypts (flags : Flags) : Bool :=
  flags.flagsValid && (flags.encryptCommunications || flags.encryptStorage)

def Entity.detail (lib : Library) (entity : Entity) : KeyDetail where
  fingerprint := toUpper lib (hexEncode entity.fingerprint)
  emails := (entity.identities.filter (·.email != [])).map fun identity =>
    toLower lib (trimSpace identity.email)
  isRevoked := entity.identities.any Identity.revoked || 0 < entity.revocations
  expiresAt := do
    let secs ← (← entity.primary).keyLifetimeSecs
    if secs > 0 then some (entity.creationTime + 1000000000 * secs) else none
  encrypt := entity.primary.any (·.flags.encrypts) || entity.subkeys.any (·.any Flags.encrypts)

def validateForEncryption (now : Int) (detail : KeyDetail) : Bool :=
  !detail.isRevoked && !detail.expiresAt.any (· < now) && detail.encrypt

section Hits

variable (pgp : OpenPGP) (lib : Library) (now : Int)

def readArmoredKeyRing (text : GoString) : Option (List Entity) :=
  (pgp.unarmor text).bind pgp.readKeyRing

def parseKeyDetail (armored : GoString) : Option KeyDetail :=
  let armored := trimSpace armored
  if armored = [] then none
  else do (← (← readArmoredKeyRing pgp armored).head?).detail lib

def reArmor (raw : GoString) : Option GoString := do
  pgp.armor (← (← pgp.readKeyRing raw).head?).packets

def normalizeToArmored (body : GoString) : Option GoString :=
  let trim := trimSpace body
  if hasPrefix trim beginMarker then some trim else reArmor pgp body

def normalizeProtonKey (text : GoString) : Option GoString :=
  let text := trimSpace text
  if hasPrefix text beginMarker then some text
  else if contains text (ascii "BEGIN PGP") = false then (base64Decode text).bind (reArmor pgp)
  else some text

def buildHit (email source armored : GoString) : Option KeyHit := do
  let detail ← parseKeyDetail pgp lib armored
  if validateForEncryption now detail = false then none
  else
    let emailLow := toLower lib (trimSpace email)
    some
      { email := emailLow
        fingerprint := detail.fingerprint
        armored
        source
        verifiedUIDMatch := detail.emails.contains emailLow }

/-- The two ways to take a key: the body of a reply, or a text in a reply of Proton. -/
inductive Form where
  | body
  | proton

def Form.normalize : Form → GoString → Option GoString
  | .body => normalizeToArmored pgp
  | .proton => normalizeProtonKey pgp

def accepted (form : Form) (email source text : GoString) : Option KeyHit :=
  (form.normalize pgp text).bind (buildHit pgp lib now email source)

/-- The armored text of a hit has one key, which is the one that it tells of and was looked at. -/
def OneKey (hit : KeyHit) : Prop :=
  ∃ entity, readArmoredKeyRing pgp (trimSpace hit.armored) = some [entity] ∧
    hit.fingerprint = (entity.detail lib).fingerprint ∧
    validateForEncryption now (entity.detail lib) = true

/-- A hit tells of its only key, and where the text is the armor of a keyring, the keyring itself
makes a hit with the same key. -/
structure Faithful (form : Form) (email source text : GoString) (hit : KeyHit) : Prop where
  one : OneKey pgp lib now hit
  agrees : ∀ data other, text = pgp.armor data → hasPrefix (trimSpace data) beginMarker = false →
    accepted pgp lib now .body email source data = some other →
      other.fingerprint = hit.fingerprint ∧
        readArmoredKeyRing pgp (trimSpace other.armored) = readArmoredKeyRing pgp (trimSpace hit.armored)

def Form.passes : Form → GoString → Bool
  | .body, text => hasPrefix (trimSpace text) beginMarker
  | .proton, text => hasPrefix (trimSpace text) beginMarker || contains (trimSpace text) (ascii "BEGIN PGP")

end Hits

section Results

variable {pgp : OpenPGP} {lib : Library} {now : Int} {email source text armored data : GoString}
  {hit : KeyHit}

theorem buildHit_some (built : buildHit pgp lib now email source armored = some hit) :
    hit.armored = armored ∧ ∃ entity ring,
      readArmoredKeyRing pgp (trimSpace armored) = some (entity :: ring) ∧
      hit.fingerprint = (entity.detail lib).fingerprint ∧
      validateForEncryption now (entity.detail lib) = true := by
  obtain ⟨detail, parsed, built⟩ := Option.bind_eq_some_iff.mp built
  unfold parseKeyDetail at parsed
  dsimp only at parsed
  split at parsed
  · cases parsed
  obtain ⟨ring, read, parsed⟩ := Option.bind_eq_some_iff.mp parsed
  obtain ⟨entity, first, same⟩ := Option.bind_eq_some_iff.mp parsed
  cases same
  obtain ⟨rest, rfl⟩ := List.head?_eq_some_iff.mp first
  split at built
  · cases built
  next valid =>
    cases built
    exact ⟨rfl, entity, rest, read, rfl, Bool.not_eq_false _ ▸ valid⟩

theorem reArmor_some (written : reArmor pgp data = some armored) : ∃ entity ring,
    pgp.readKeyRing data = some (entity :: ring) ∧
      readArmoredKeyRing pgp (trimSpace armored) = some [entity] := by
  obtain ⟨ring, read, written⟩ := Option.bind_eq_some_iff.mp written
  obtain ⟨entity, first, same⟩ := Option.bind_eq_some_iff.mp written
  cases same
  obtain ⟨rest, rfl⟩ := List.head?_eq_some_iff.mp first
  refine ⟨entity, rest, read, ?_⟩
  rw [readArmoredKeyRing, pgp.armored, Option.bind_some, pgp.written read List.mem_cons_self]

theorem normalize_some {form : Form} (normal : form.normalize pgp text = some armored) :
    if form.passes text = true then armored = trimSpace text else ∃ raw, reArmor pgp raw = some armored := by
  cases form with
  | body =>
    simp only [Form.normalize, normalizeToArmored] at normal
    rw [Form.passes]
    split_ifs at normal ⊢
    · exact (Option.some.inj normal).symm
    · exact ⟨_, normal⟩
  | proton =>
    simp only [Form.normalize, normalizeProtonKey] at normal
    rw [Form.passes]
    split_ifs at normal with armor bare
    · rw [if_pos (by rw [armor, Bool.true_or])]
      exact (Option.some.inj normal).symm
    · rw [if_neg (by simp [armor, bare])]
      obtain ⟨raw, -, written⟩ := Option.bind_eq_some_iff.mp normal
      exact ⟨raw, written⟩
    · rw [if_pos (by simp [Bool.not_eq_false _ ▸ bare])]
      exact (Option.some.inj normal).symm

theorem passes_armor (form : Form) (data : GoString) : form.passes (pgp.armor data) = true := by
  have begins : hasPrefix (trimSpace (pgp.armor data)) beginMarker = true := pgp.begins data
  cases form with
  | body => exact begins
  | proton => rw [Form.passes, begins, Bool.true_or]

/-- Hits are faithful where text that is passed on has one key. -/
theorem hit_faithful_iff {form : Form} (made : accepted pgp lib now form email source text = some hit) :
    Faithful pgp lib now form email source text hit ↔
      (form.passes text = true → ∃ entity, readArmoredKeyRing pgp (trimSpace text) = some [entity]) := by
  obtain ⟨armored, normal, built⟩ := Option.bind_eq_some_iff.mp made
  obtain ⟨same, entity, ring, read, told, valid⟩ := buildHit_some built
  have kind := normalize_some normal
  split at kind
  next passed =>
    subst kind
    rw [trimSpace_trimSpace] at read
    constructor
    · rintro ⟨⟨only, one, -⟩, -⟩ -
      rw [same, trimSpace_trimSpace] at one
      exact ⟨only, one⟩
    · intro single
      obtain ⟨only, one⟩ := single passed
      cases read.symm.trans one
      have whole : readArmoredKeyRing pgp (trimSpace hit.armored) = some [entity] := by
        rw [same, trimSpace_trimSpace, one]
      refine ⟨⟨entity, whole, told, valid⟩, fun data other twin binary second => ?_⟩
      obtain ⟨rewritten, bare, rebuilt⟩ := Option.bind_eq_some_iff.mp second
      rw [Form.normalize, normalizeToArmored, if_neg (by rw [binary]; decide)] at bare
      obtain ⟨first, rest, readData, readAgain⟩ := reArmor_some bare
      rw [twin, readArmoredKeyRing, pgp.armored, Option.bind_some, readData] at one
      cases one
      obtain ⟨sameOther, key, others, readKey, toldOther, -⟩ := buildHit_some rebuilt
      cases readAgain.symm.trans readKey
      exact ⟨toldOther.trans told.symm, by rw [sameOther, readAgain, whole]⟩
  next written =>
    obtain ⟨raw, rewritten⟩ := kind
    obtain ⟨first, rest, -, readAgain⟩ := reArmor_some rewritten
    cases readAgain.symm.trans read
    refine iff_of_true ⟨⟨entity, ?_, told, valid⟩, ?_⟩ fun passed => absurd passed written
    · rw [same, readAgain]
    · rintro data other rfl
      exact absurd (passes_armor form data) written

end Results

theorem trimSpace_ends {first last : UInt8} (middle : GoString) (opens : first.toNat < 0x80)
    (closes : last.toNat < 0x80) (visible : isSpace first.toNat = false)
    (solid : isSpace last.toNat = false) :
    trimSpace (first :: middle ++ [last]) = first :: middle ++ [last] := by
  have split : runes (first :: middle ++ [last]) =
      ⟨first.toNat, [first]⟩ :: runes (middle ++ [last]) := runes_ascii opens _
  have back : runes (first :: middle ++ [last]) = runes (first :: middle) ++ [⟨last.toNat, [last]⟩] := by
    rw [runes_before_ascii closes, runes_ascii closes]
    rfl
  have front : (runes (first :: middle ++ [last])).dropWhile (fun rune => isSpace rune.value) =
      runes (first :: middle ++ [last]) := by
    rw [split, List.dropWhile_cons_of_neg (by simp [visible])]
  rw [trimSpace, front, back, List.reverse_append, List.reverse_singleton, List.singleton_append,
    List.dropWhile_cons_of_neg (by simp [solid]), List.reverse_cons, List.reverse_reverse, ← back,
    joinRunes_runes]

def byteKey (byte : UInt8) : Entity where
  fingerprint := [byte]
  creationTime := 0
  identities := []
  revocations := 0
  primary := some ⟨⟨true, true, false⟩, none⟩
  subkeys := []
  packets := [byte]

/-- Keyrings of such keys, with their packets as they are between the markers. -/
def bytePGP : OpenPGP where
  readKeyRing data := some (data.map byteKey)
  armor data := beginMarker ++ data ++ [0x2D]
  unarmor text := if hasPrefix text beginMarker then some (text.drop 36).dropLast else none
  written {data ring entity} read member := by
    cases read
    obtain ⟨byte, -, rfl⟩ := List.mem_map.mp member
    rfl
  armored data := by
    have text : beginMarker = 0x2D :: beginMarker.tail := by decide
    have whole : trimSpace (beginMarker ++ data ++ [0x2D]) = beginMarker ++ data ++ [0x2D] := by
      rw [text]
      exact trimSpace_ends _ (by decide) (by decide) (by decide) (by decide)
    have begins : hasPrefix (beginMarker ++ data ++ [0x2D]) beginMarker = true := by
      rw [hasPrefix, List.isPrefixOf_iff_prefix, List.append_assoc]
      exact List.prefix_append _ _
    rw [whole, begins, if_pos rfl, List.append_assoc, List.drop_left' (by decide), List.dropLast_concat]
  begins data := by
    have text : beginMarker = 0x2D :: beginMarker.tail := by decide
    have whole : trimSpace (beginMarker ++ data ++ [0x2D]) = beginMarker ++ data ++ [0x2D] := by
      rw [text]
      exact trimSpace_ends _ (by decide) (by decide) (by decide) (by decide)
    rw [whole, hasPrefix, List.isPrefixOf_iff_prefix, List.append_assoc]
    exact List.prefix_append _ _

def byteHit (data : GoString) : KeyHit where
  email := ascii "a@b.c"
  fingerprint := ascii "01"
  armored := bytePGP.armor data
  source := ascii "wkd_direct"
  verifiedUIDMatch := false

theorem hit_faithful_single : Faithful bytePGP .plain 0 .body (ascii "a@b.c") (ascii "wkd_direct")
    (bytePGP.armor [1]) (byteHit [1]) :=
  (hit_faithful_iff (by decide +kernel)).mpr fun _ => ⟨byteKey 1, by decide +kernel⟩

/-- Armored text with two keys is passed on with both. -/
theorem hit_two_keys :
    accepted bytePGP .plain 0 .body (ascii "a@b.c") (ascii "wkd_direct") (bytePGP.armor [1, 2]) =
        some (byteHit [1, 2]) ∧
      ¬Faithful bytePGP .plain 0 .body (ascii "a@b.c") (ascii "wkd_direct") (bytePGP.armor [1, 2])
        (byteHit [1, 2]) := by
  refine ⟨by decide +kernel, fun ⟨⟨entity, one, _⟩, _⟩ => ?_⟩
  have both : readArmoredKeyRing bytePGP (trimSpace (byteHit [1, 2]).armored) =
      some [byteKey 1, byteKey 2] := by decide +kernel
  cases both.symm.trans one

end ElvishMail.Keyserver
