import ElvishMail.Js.Strings
import ElvishMail.Semantics.Remote

/-!
# The key vault

`static/auth/unlock.js`: the unlocked account key and the identity keys, their
cache in the browser's storage, and the calls that unlock and use them. A call
runs until it awaits something; what it has computed until then is kept in a
`Task`, and `resume` is what it does next.
-/

namespace ElvishMail.Keyvault

open Js Semantics

/-- An `openpgp.PrivateKey`. -/
structure PrivateKey where
  material : JsString
  fingerprint : JsString
deriving DecidableEq

/-- An `openpgp.PublicKey`. -/
structure PublicKey where
  armored : JsString
deriving DecidableEq

structure Identity where
  email : JsString
  privateKey : PrivateKey
  publicKey : PublicKey
  armoredPub : JsString
  armoredPriv : JsString
deriving DecidableEq

/-- A cached account, and how often the vault had been locked when the call that wrote
it started. -/
structure Cached where
  sessionEmail : JsString
  accountArmoredPriv : JsString
  accountArmoredPub : JsString
  accountFingerprint : JsString
  writer : Nat
deriving DecidableEq

/-- What is kept under `PERSIST_KEY`, if it is readable, and `TRUSTED_DEVICE_KEY`. -/
structure Storage where
  account : Option Cached := none
  trusted : Bool := false
deriving DecidableEq

/-- The state of the vault and of the browser's two storages, each of which may be
unavailable. -/
structure Vault where
  accountPrivateKey : Option PrivateKey := none
  accountPublicKey : Option PublicKey := none
  accountArmoredPriv : JsString := []
  accountFingerprint : JsString := []
  identities : List (JsString × Identity) := []
  defaultIdentityFingerprint : JsString := []
  timer : Bool := false
  sessionStorage : Option Storage := some {}
  localStorage : Option Storage := some {}
deriving DecidableEq

/-- What the vault takes from its surroundings: letter case, the decoding of base64
text, and how deep `storage` and `readTrustedDeviceFlag`, which call each other,
get before the stack is exhausted. -/
structure Host where
  lib : Library
  b64ToText : JsString → Option JsString
  depth : Nat

variable (host : Host)

def normalizeEmail (email : JsString) : JsString := host.lib.toLowerCase (trim email)

def normalizeFingerprint (fp : JsString) : JsString := host.lib.toUpperCase (stripWhite fp)

def fingerprintKeyId16 (fp : JsString) : JsString := lastUnits 16 (normalizeFingerprint host fp)

def fingerprintsEquivalent (a b : JsString) : Bool :=
  let x := normalizeFingerprint host a
  let y := normalizeFingerprint host b
  if x = [] ∨ y = [] then false
  else x = y ∨ fingerprintKeyId16 host x = fingerprintKeyId16 host y

namespace Vault

/-- Which storage a call of `storage` returns that has this much stack left. The
exhausted stack is caught as any other exception. -/
def storageAt (vault : Vault) : Nat → Option Bool
  | 0 => none
  | depth + 1 =>
    let trusted := match vault.storageAt depth with
      | none => false
      | some true => (vault.localStorage.map Storage.trusted).getD false
      | some false => (vault.sessionStorage.map Storage.trusted).getD false
    if trusted then vault.localStorage.map fun _ => true
    else vault.sessionStorage.map fun _ => false

/-- `storage`: whether it is the local one, if there is one. -/
def storage (vault : Vault) : Option Bool := vault.storageAt host.depth

def readTrustedDeviceFlag (vault : Vault) : Bool :=
  match vault.storage host with
  | none => false
  | some true => (vault.localStorage.map Storage.trusted).getD false
  | some false => (vault.sessionStorage.map Storage.trusted).getD false

/-- Change the storage that `storage` returns. -/
def update (vault : Vault) (change : Storage → Storage) : Vault :=
  match vault.storage host with
  | none => vault
  | some true => { vault with localStorage := vault.localStorage.map change }
  | some false => { vault with sessionStorage := vault.sessionStorage.map change }

def clearPersistedAccountCache (vault : Vault) : Vault :=
  let clear (storage : Storage) : Storage := { storage with account := none }
  { vault with
    sessionStorage := vault.sessionStorage.map clear
    localStorage := vault.localStorage.map clear }

def clearTrustedDeviceFlag (vault : Vault) : Vault :=
  vault.update host fun storage => { storage with trusted := false }

/-- `persistAccountCache`. What is written is what the vault holds now. -/
def persistAccountCache (vault : Vault) (writer : Nat) (sessionEmail accountArmoredPub : JsString) :
    Vault :=
  if vault.accountArmoredPriv = [] ∨ accountArmoredPub = [] then vault
  else
    let entry : Cached :=
      { sessionEmail := normalizeEmail host sessionEmail
        accountArmoredPriv := vault.accountArmoredPriv
        accountArmoredPub
        accountFingerprint := vault.accountFingerprint
        writer }
    vault.update host fun storage => { storage with account := some entry }

/-- `readPersistedAccountCache`: the first usable entry; without one, both storages are
cleared. -/
def readPersistedAccountCache (vault : Vault) : Option Cached × Vault :=
  let stores :=
    if vault.readTrustedDeviceFlag host then [vault.localStorage, vault.sessionStorage]
    else [vault.sessionStorage, vault.localStorage]
  let entries := stores.filterMap fun store => store.bind Storage.account
  match entries.find? fun entry => entry.accountArmoredPriv ≠ [] ∧ entry.accountArmoredPub ≠ [] with
  | some entry => (some entry, vault)
  | none => (none, vault.clearPersistedAccountCache)

def hasIdentity (vault : Vault) (kid : JsString) : Bool :=
  kid ≠ [] ∧ vault.identities.any fun entry => entry.1 = kid

/-- `touch` starts the idle timer again. -/
def touch (vault : Vault) : Vault := { vault with timer := true }

/-- `zero`, as far as memory goes. -/
def forget (vault : Vault) : Vault :=
  { vault with
    accountPrivateKey := none
    accountPublicKey := none
    accountArmoredPriv := []
    accountFingerprint := []
    identities := []
    defaultIdentityFingerprint := []
    timer := false }

def zero (vault : Vault) (clearPersisted clearTrustedDevice : Bool) : Vault :=
  let vault := vault.forget
  if clearPersisted then
    let vault := vault.clearPersistedAccountCache
    if clearTrustedDevice then vault.clearTrustedDeviceFlag host else vault
  else vault

end Vault

/-- The account row of `GET /api/v1/account-key/me`, as far as it is read after the key
is derived. -/
structure AccountRow where
  armoredPublic : JsString
  fingerprint : JsString
deriving DecidableEq

/-- A row of `GET /api/v1/identities`. -/
structure IdentityRow where
  email : JsString
  fingerprint : JsString
  armoredPublic : JsString
  wrappedSecretArmored : JsString
  wrappedSecretB64 : JsString
  isDefault : Bool
deriving DecidableEq

/-- Who awaits `hydrateUnlockedAccount`. -/
inductive Caller where
  | unlockAccount (sessionEmail armoredPub : JsString)
  | tryRestoreAccountFromSession
deriving DecidableEq

/-- What an identity is unlocked for: nothing else, or `decryptToResult`. -/
inductive Purpose where
  | unlock
  | decrypt (fingerprint : JsString)
deriving DecidableEq

/-- What a suspended call awaits, with the local variables it still needs. -/
inductive Task where
  | deriveKEK (meRow : AccountRow) (sessionEmail : JsString)
  | aesUnwrap (meRow : AccountRow) (sessionEmail : JsString)
  | readPrivateKey (armoredPriv armoredPub expected : JsString) (caller : Caller)
  | pgpFingerprint (armoredPriv armoredPub expected : JsString) (priv : PrivateKey) (caller : Caller)
  | readPublicKey (armoredPriv fingerprint : JsString) (caller : Caller)
  | hydrated (sessionEmail armoredPub : JsString)
  | unrestored
  | fetchIdentityRows (fingerprint : JsString) (purpose : Purpose)
  | readMessage (row : IdentityRow) (purpose : Purpose)
  | decryptKey (row : IdentityRow) (purpose : Purpose)
  | readIdentityKey (row : IdentityRow) (armoredPriv : JsString) (purpose : Purpose)
  | readIdentityPublicKey (row : IdentityRow) (armoredPriv : JsString) (privateKey : PrivateKey)
      (purpose : Purpose)
  | identityFingerprint (row : IdentityRow) (armoredPriv : JsString) (privateKey : PrivateKey)
      (publicKey : PublicKey) (purpose : Purpose)
  | identityUnlocked (fingerprint : JsString)
  | decryptMessage
deriving DecidableEq

inductive Reply where
  | rejected
  | resolved
  | text (value : JsString)
  | privateKey (key : PrivateKey)
  | publicKey (key : PublicKey)
  | rows (rows : List IdentityRow)
deriving DecidableEq

/-- What is left of a call after one of its turns: the vault, and the next thing it
awaits unless it has returned. -/
abbrev Turn : Type := Vault × Option Task

/-- The wrapped private key of an identity, under either of its names. -/
def armoredWrapped (row : IdentityRow) : JsString :=
  if row.wrappedSecretArmored ≠ [] then row.wrappedSecretArmored
  else if row.wrappedSecretB64 = [] then []
  else (host.b64ToText row.wrappedSecretB64).getD []

/-- `unlockIdentity`, up to its first `await`. -/
def unlockIdentity (vault : Vault) (row : IdentityRow) (purpose : Purpose) : Turn :=
  if vault.accountPrivateKey = none ∨ armoredWrapped host row = [] then (vault, none)
  else (vault, some (.readMessage row purpose))

/-- `ensureIdentityUnlocked` once it has the rows. -/
def unlockRow (vault : Vault) (rows : List IdentityRow) (fingerprint : JsString)
    (purpose : Purpose) : Turn :=
  match rows.find? fun row => fingerprintsEquivalent host row.fingerprint fingerprint with
  | none => (vault, none)
  | some row =>
    if row.armoredPublic = [] ∨ (row.wrappedSecretB64 = [] ∧ row.wrappedSecretArmored = []) then
      (vault, none)
    else unlockIdentity host vault row purpose

def Purpose.next : Purpose → Option Task
  | .unlock => none
  | .decrypt fingerprint => some (.identityUnlocked fingerprint)

/-- `ensureIdentityUnlocked`, up to its first `await`. -/
def ensureIdentityUnlocked (vault : Vault) (fingerprint : JsString)
    (rows : Option (List IdentityRow)) (purpose : Purpose) : Turn :=
  let fpNorm := host.lib.toUpperCase fingerprint
  if vault.accountPrivateKey = none ∨ fpNorm = [] then (vault, none)
  else if vault.hasIdentity (fingerprintKeyId16 host fpNorm) then (vault, purpose.next)
  else match rows with
    | some rows => unlockRow host vault rows fpNorm purpose
    | none => (vault, some (.fetchIdentityRows fpNorm purpose))

/-- `decryptToResult`, up to its first `await`. -/
def decryptToResult (vault : Vault) (fingerprint : JsString) (rows : Option (List IdentityRow)) :
    Turn :=
  let fpNorm := host.lib.toUpperCase fingerprint
  ensureIdentityUnlocked host vault fpNorm rows (.decrypt fpNorm)

/-- `tryRestoreAccountFromSession`, up to its first `await`. -/
def tryRestoreAccountFromSession (vault : Vault) (sessionEmail : JsString) : Turn :=
  match vault.readPersistedAccountCache host with
  | (none, vault) => (vault, none)
  | (some cached, vault) =>
    let expectedEmail := normalizeEmail host sessionEmail
    if expectedEmail ≠ [] ∧ cached.sessionEmail ≠ expectedEmail then
      (vault.clearPersistedAccountCache, none)
    else
      (vault, some (.readPrivateKey cached.accountArmoredPriv cached.accountArmoredPub
        cached.accountFingerprint .tryRestoreAccountFromSession))

/-- A `hydrateUnlockedAccount` that throws. -/
def Caller.thrown : Caller → Option Task
  | .unlockAccount .. => none
  | .tryRestoreAccountFromSession => some .unrestored

/-- `hydrateUnlockedAccount` once the keys are read: the private key is assigned before
the public one is awaited. -/
def assignPrivateKey (vault : Vault) (armoredPriv expected fingerprint : JsString)
    (priv : PrivateKey) (caller : Caller) : Turn :=
  let published := normalizeFingerprint host fingerprint
  if expected ≠ [] ∧ fingerprintsEquivalent host expected published = false then
    (vault, caller.thrown)
  else if published = [] ∨ normalizeFingerprint host priv.fingerprint ≠ published then
    (vault, caller.thrown)
  else ({ vault with accountPrivateKey := some priv }, some (.readPublicKey armoredPriv published caller))

/-- The end of `hydrateUnlockedAccount`. -/
def assignAccount (vault : Vault) (armoredPriv fingerprint : JsString) (key : PublicKey)
    (caller : Caller) : Turn :=
  ({ vault with
      accountPublicKey := some key
      accountArmoredPriv := armoredPriv
      accountFingerprint := fingerprint
      identities := []
      defaultIdentityFingerprint := [] }.touch,
    match caller with
    | .unlockAccount sessionEmail armoredPub => some (.hydrated sessionEmail armoredPub)
    | .tryRestoreAccountFromSession => none)

/-- The end of `unlockIdentity`. -/
def assignIdentity (vault : Vault) (row : IdentityRow) (armoredPriv fingerprint : JsString)
    (privateKey : PrivateKey) (publicKey : PublicKey) (purpose : Purpose) : Turn :=
  let idPubFp := normalizeFingerprint host fingerprint
  if row.fingerprint ≠ [] ∧ fingerprintsEquivalent host row.fingerprint idPubFp = false then
    (vault, none)
  else if idPubFp = [] ∨ normalizeFingerprint host privateKey.fingerprint ≠ idPubFp then (vault, none)
  else
    let fpKey := fingerprintKeyId16 host idPubFp
    ({ vault with
        identities := Rows.upsert Prod.fst
          (fpKey,
            { email := row.email
              privateKey
              publicKey
              armoredPub := row.armoredPublic
              armoredPriv }) vault.identities
        defaultIdentityFingerprint :=
          if row.isDefault ∨ vault.defaultIdentityFingerprint = [] then fpKey
          else vault.defaultIdentityFingerprint }.touch,
      purpose.next)

/-- What a suspended call does when its promise is settled. A call of `unlockIdentity`
that resumes without an account key has its decryption fail; an `unlockAccount`
whose last turn is rejected found the storage full. -/
def resume (vault : Vault) (writer : Nat) : Task → Reply → Option Turn
  | .deriveKEK meRow sessionEmail, .resolved => some (vault, some (.aesUnwrap meRow sessionEmail))
  | .aesUnwrap meRow sessionEmail, .text armoredPriv =>
    some (vault, some (.readPrivateKey armoredPriv meRow.armoredPublic meRow.fingerprint
      (.unlockAccount sessionEmail meRow.armoredPublic)))
  | .readPrivateKey armoredPriv armoredPub expected caller, .privateKey priv =>
    some (vault, some (.pgpFingerprint armoredPriv armoredPub expected priv caller))
  | .pgpFingerprint armoredPriv _ expected priv caller, .text fingerprint =>
    some (assignPrivateKey host vault armoredPriv expected fingerprint priv caller)
  | .readPublicKey armoredPriv fingerprint caller, .publicKey key =>
    some (assignAccount vault armoredPriv fingerprint key caller)
  | .hydrated sessionEmail armoredPub, .resolved =>
    some (vault.persistAccountCache host writer sessionEmail armoredPub, none)
  | .unrestored, .resolved => some (vault.clearPersistedAccountCache.forget, none)
  | .fetchIdentityRows fingerprint purpose, .rows rows =>
    some (unlockRow host vault rows fingerprint purpose)
  | .readMessage row purpose, .resolved =>
    some (vault, if vault.accountPrivateKey = none then none else some (.decryptKey row purpose))
  | .decryptKey row purpose, .text armoredPriv =>
    some (vault, some (.readIdentityKey row armoredPriv purpose))
  | .readIdentityKey row armoredPriv purpose, .privateKey key =>
    some (vault, some (.readIdentityPublicKey row armoredPriv key purpose))
  | .readIdentityPublicKey row armoredPriv privateKey purpose, .publicKey key =>
    some (vault, some (.identityFingerprint row armoredPriv privateKey key purpose))
  | .identityFingerprint row armoredPriv privateKey publicKey purpose, .text fingerprint =>
    some (assignIdentity host vault row armoredPriv fingerprint privateKey publicKey purpose)
  | .identityUnlocked fingerprint, .resolved =>
    let kid := fingerprintKeyId16 host (host.lib.toUpperCase fingerprint)
    some (vault.touch, if vault.hasIdentity kid then some .decryptMessage else none)
  | .decryptMessage, .resolved => some (vault.touch, none)
  | .readPrivateKey _ _ _ caller, .rejected => some (vault, caller.thrown)
  | .pgpFingerprint _ _ _ _ caller, .rejected => some (vault, caller.thrown)
  | .readPublicKey _ _ caller, .rejected => some (vault, caller.thrown)
  | .unrestored, .rejected => none
  | .identityUnlocked _, .rejected => none
  | _, .rejected => some (vault, none)
  | _, _ => none

end ElvishMail.Keyvault
