import ElvishMail.Go.Runes
import ElvishMail.Smtp.Wire
import ElvishMail.Semantics.Program

/-!
# The relay key file

`internal/relaykey/keypair.go`: loading the relay key pair from its file, making one where
the file is missing or empty, and wrapping and unwrapping payloads. The OpenPGP library and
the system's files are parameters; what a program does with the file are queries.
-/

namespace ElvishMail.Relaykey

open Go Semantics
open Smtp (GoError)

structure PrivateKey where
  encrypted : Bool
  material : GoString
deriving DecidableEq

structure Entity where
  fingerprint : GoString
  identity : GoString
  privateKey : Option PrivateKey
  subkeys : List (Option PrivateKey)
deriving DecidableEq

/-- The OpenPGP library. Keys and messages are made from randomness that the caller draws. -/
structure OpenPGP where
  readArmoredKeyRing : GoString → Except GoError (List Entity)
  readKeyRing : GoString → Except GoError (List Entity)
  /-- `armorPublic`: `Serialize` under `armor.Encode`. -/
  armorPublic : Entity → Except GoError GoString
  newEntity : (name comment email : GoString) → (random : Nat) → Except GoError Entity
  /-- `SerializePrivateWithoutSigning` under `armor.Encode`. -/
  armorPrivate : Entity → Except GoError GoString
  encrypt : Entity → (random : Nat) → GoString → Except GoError GoString
  /-- `armor.Encode` of a "PGP MESSAGE". -/
  armorMessage : GoString → GoString
  armorDecode : GoString → Except GoError GoString
  /-- `ReadMessage` and reading its body. -/
  readMessage : GoString → Entity → Except GoError GoString

inductive KeyError where
  | notConfigured
  | passphraseProtected
  | noPrivateKey
  | wrapped (context : GoString) (err : GoError)
deriving DecidableEq

/-- The `Error` method. -/
def KeyError.text : KeyError → GoString
  | notConfigured => ascii "relaykey: not configured (set ELVISH_RELAY_KEY_PATH)"
  | passphraseProtected =>
    ascii "relaykey: passphrase-protected keys are not supported; export with --no-symmetric"
  | noPrivateKey => ascii "relaykey: file does not contain a private key"
  | wrapped context err => ascii "relaykey: " ++ context ++ ascii ": " ++ err.text

structure KeyPair where
  entity : Entity
  armoredPublic : GoString
  fingerprint : GoString
deriving DecidableEq

variable (pgp : OpenPGP)

def parse (raw : GoString) : Except KeyError (List Entity) :=
  match pgp.readArmoredKeyRing raw with
  | .ok el => .ok el
  | .error _ =>
    match pgp.readKeyRing raw with
    | .ok el => .ok el
    | .error err => .error (.wrapped (ascii "parse") err)

/-- `Load` from the entities on. -/
def fromEntities : List Entity → Except KeyError KeyPair
  | [] => .error .noPrivateKey
  | ent :: _ =>
    match ent.privateKey with
    | none => .error .noPrivateKey
    | some key =>
      if key.encrypted then .error .passphraseProtected
      else if ent.subkeys.any fun sub => sub.any PrivateKey.encrypted then
        .error .passphraseProtected
      else
        match pgp.armorPublic ent with
        | .error err => .error (.wrapped (ascii "armor public") err)
        | .ok armPub => .ok ⟨ent, armPub, ent.fingerprint⟩

def load (raw : GoString) : Except KeyError KeyPair :=
  if (trimSpace raw).length = 0 then .error .notConfigured
  else
    match parse pgp raw with
    | .error err => .error err
    | .ok el => fromEntities pgp el

def trimmedOr (fallback : String) (text : GoString) : GoString :=
  if trimSpace text = [] then ascii fallback else trimSpace text

def generateArmoredPrivate (uid email : GoString) (random : Nat) : Except KeyError GoString :=
  match pgp.newEntity (trimmedOr "Elvish Plaintext Relay" uid) (ascii "relaykey generated")
      (trimmedOr "relay@local" email) random with
  | .error err => .error (.wrapped (ascii "generate entity") err)
  | .ok ent =>
    match pgp.armorPrivate ent with
    | .error err => .error (.wrapped (ascii "serialize private") err)
    | .ok raw => .ok raw

def KeyPair.wrap (key : KeyPair) (random : Nat) (plaintext : GoString) : Except KeyError GoString :=
  match pgp.encrypt key.entity random plaintext with
  | .error err => .error (.wrapped (ascii "encrypt") err)
  | .ok message => .ok (pgp.armorMessage message)

def messageHeader : GoString := ascii "-----BEGIN PGP MESSAGE-----"

def KeyPair.unwrap (key : KeyPair) (ciphertext : GoString) : Except KeyError GoString :=
  let source : Except KeyError GoString :=
    if hasPrefix (trimSpace ciphertext) messageHeader then
      match pgp.armorDecode ciphertext with
      | .error err => .error (.wrapped (ascii "armor decode") err)
      | .ok body => .ok body
    else .ok ciphertext
  match source with
  | .error err => .error err
  | .ok source =>
    match pgp.readMessage source key.entity with
    | .error err => .error (.wrapped (ascii "read message") err)
    | .ok plain => .ok plain

inductive FileRead where
  | content (raw : GoString)
  | notExist (err : GoError)
  | failed (err : GoError)

/-- What a program asks of the system: its files and its randomness. -/
inductive SystemCall where
  | readFile (path : GoString)
  | mkdirAll (dir : GoString)
  | random
  | writeFile (path raw : GoString)

namespace SystemCall

abbrev Answer : SystemCall → Type
  | readFile _ => FileRead
  | mkdirAll _ => Option GoError
  | random => Nat
  | writeFile _ _ => Option GoError

end SystemCall

abbrev Calls (Value : Type) : Type := Program SystemCall SystemCall.Answer Value

/-- `LoadFromPath`, and whether its error is one on which `LoadOrGenerate` goes on. -/
def loadFromPath {Value : Type} (path : GoString)
    (next : Bool → Except KeyError KeyPair → Calls Value) : Calls Value :=
  let path := trimSpace path
  if path = [] then next true (.error .notConfigured)
  else .ask (.readFile path) fun
    | .notExist err => next true (.error (.wrapped (ascii "read " ++ path) err))
    | .failed err => next false (.error (.wrapped (ascii "read " ++ path) err))
    | .content raw => next (load pgp raw matches .error .notConfigured) (load pgp raw)

/-- What `LoadOrGenerate` returns: a key and whether it is a new one, or an error. -/
abbrev Loaded : Type := Except KeyError (KeyPair × Bool)

/-- `LoadOrGenerate` from where it writes what it has generated. -/
def writeGenerated (path raw : GoString) : Calls Loaded :=
  .ask (.writeFile path raw) fun
    | some err => .done (.error (.wrapped (ascii "write " ++ path) err))
    | none => .done ((load pgp raw).map fun kp => (kp, true))

/-- `LoadOrGenerate` from where it generates a key. -/
def generate (path uid email : GoString) : Calls Loaded :=
  .ask .random fun random =>
    match generateArmoredPrivate pgp uid email random with
    | .error err => .done (.error err)
    | .ok raw => writeGenerated pgp path raw

/-- `LoadOrGenerate` from where it found no key file, with the system's `filepath.Dir`. -/
def generateAt (dirOf : GoString → GoString) (path uid email : GoString) : Calls Loaded :=
  let dir := dirOf path
  if dir ≠ [] ∧ dir ≠ ascii "." then
    .ask (.mkdirAll dir) fun
      | some err => .done (.error (.wrapped (ascii "mkdir " ++ dir) err))
      | none => generate pgp path uid email
  else generate pgp path uid email

/-- `LoadOrGenerate` from what `LoadFromPath` returned. -/
def afterLoad (dirOf : GoString → GoString) (path uid email : GoString) (absent : Bool) :
    Except KeyError KeyPair → Calls Loaded
  | .ok kp => .done (.ok (kp, false))
  | .error err => if !absent then .done (.error err) else generateAt pgp dirOf path uid email

def loadOrGenerate (dirOf : GoString → GoString) (path uid email : GoString) : Calls Loaded :=
  let path := trimSpace path
  if path = [] then .done (.error .notConfigured)
  else loadFromPath pgp path (afterLoad pgp dirOf path uid email)

/-- What the OpenPGP library documents of the keys it makes and the messages it reads. -/
structure OpenPGP.Documented (pgp : OpenPGP) : Prop where
  /-- Keys made from different randomness are different. -/
  fresh : ∀ {name comment email random name' comment' email' random' ent},
    pgp.newEntity name comment email random = .ok ent →
    pgp.newEntity name' comment' email' random' = .ok ent → random = random'
  /-- A new key is not protected by a passphrase. -/
  unprotected : ∀ {name comment email random ent}, pgp.newEntity name comment email random = .ok ent →
    (∃ key, ent.privateKey = some key ∧ key.encrypted = false) ∧
      ∀ key, some key ∈ ent.subkeys → key.encrypted = false
  /-- A serialized key is read back, and is not blank. -/
  readsBack : ∀ {ent raw}, pgp.armorPrivate ent = .ok raw →
    pgp.readArmoredKeyRing raw = .ok [ent] ∧ trimSpace raw ≠ []
  /-- The public half of a new key can be serialized. -/
  publishes : ∀ {name comment email random ent}, pgp.newEntity name comment email random = .ok ent →
    ∃ armPub, pgp.armorPublic ent = .ok armPub
  /-- An armored message begins with its header and decodes to what was armored. -/
  armors : ∀ message, messageHeader <+: pgp.armorMessage message ∧
    pgp.armorDecode (pgp.armorMessage message) = .ok message
  /-- What is encrypted to a key is read with it. -/
  decrypts : ∀ {ent random plaintext message}, pgp.encrypt ent random plaintext = .ok message →
    pgp.readMessage message ent = .ok plaintext

variable {pgp}

theorem load_blank {raw : GoString} (blank : trimSpace raw = []) :
    load pgp raw = .error .notConfigured := by
  rw [load, blank]
  rfl

theorem parse_error {raw : GoString} {err : KeyError} (failed : parse pgp raw = .error err) :
    err ≠ .notConfigured := by
  rw [parse] at failed
  split at failed
  · cases failed
  · split at failed
    · cases failed
    · cases failed
      exact nofun

theorem fromEntities_error {el : List Entity} {err : KeyError}
    (failed : fromEntities pgp el = .error err) : err ≠ .notConfigured := by
  rcases el with _ | ⟨ent, rest⟩
  · cases failed
    exact nofun
  · rw [fromEntities] at failed
    repeat' split at failed
    all_goals
      cases failed
      try exact nofun

theorem load_notConfigured {raw : GoString} (failed : load pgp raw = .error .notConfigured) :
    trimSpace raw = [] := by
  by_contra solid
  rw [load, if_neg fun empty => solid (List.eq_nil_of_length_eq_zero empty)] at failed
  split at failed
  next err unparsed =>
    cases failed
    exact parse_error unparsed rfl
  next el _ => exact fromEntities_error failed rfl

theorem load_generated (documented : pgp.Documented) {uid email raw : GoString} {random : Nat}
    (generated : generateArmoredPrivate pgp uid email random = .ok raw) :
    trimSpace raw ≠ [] ∧ ∃ kp name comment address, load pgp raw = .ok kp ∧
      pgp.newEntity name comment address random = .ok kp.entity := by
  rw [generateArmoredPrivate] at generated
  split at generated
  · cases generated
  next ent made =>
    split at generated
    · cases generated
    next text armored =>
      cases generated
      obtain ⟨⟨⟨key, private', bare⟩, subkeys⟩, armPub, published⟩ :=
        And.intro (documented.unprotected made) (documented.publishes made)
      obtain ⟨read, solid⟩ := documented.readsBack armored
      have exposed : (ent.subkeys.any fun sub => sub.any PrivateKey.encrypted) = false := by
        rw [List.any_eq_false]
        rintro (_ | sub) member
        · exact Bool.false_ne_true
        · simp [subkeys sub member]
      refine ⟨solid, ⟨ent, armPub, ent.fingerprint⟩, _, _, _, ?_, made⟩
      rw [load, if_neg fun empty => solid (List.eq_nil_of_length_eq_zero empty)]
      simp [parse, fromEntities, read, private', bare, exposed, published]

theorem unwrap_wrap (documented : pgp.Documented) {key : KeyPair} {random : Nat}
    {plaintext ciphertext : GoString} (wrapped : key.wrap pgp random plaintext = .ok ciphertext) :
    key.unwrap pgp ciphertext = .ok plaintext := by
  rw [KeyPair.wrap] at wrapped
  split at wrapped
  · cases wrapped
  next message encrypted =>
    cases wrapped
    obtain ⟨⟨rest, armored⟩, decoded⟩ := documented.armors message
    have found : hasPrefix (trimSpace (pgp.armorMessage message)) messageHeader = true := by
      rw [← armored, hasPrefix, List.isPrefixOf_iff_prefix]
      exact prefix_trimSpace (small_of_all (by decide)) rfl rfl (by decide) (by decide)
    rw [KeyPair.unwrap, if_pos found, decoded]
    simp [documented.decrypts encrypted]

end ElvishMail.Relaykey
