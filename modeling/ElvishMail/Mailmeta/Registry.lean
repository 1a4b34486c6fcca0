import ElvishMail.Mailmeta.Identity
import ElvishMail.Mailmeta.Outbox
import ElvishMail.Semantics.Program
import ElvishMail.Semantics.Remote

/-!
# Users, identities and domains

The rows of `users`, `user_account_keys`, `user_identity_keys`, `mail_aliases`,
`mail_domains` and `mail_domain_allowlist`, the directory of DKIM key files, and the
statements that `internal/store`, `internal/mailmeta` and `internal/httpserver` issue on
them. A transaction is one statement.

A statement may fail, with or without effect. Columns that no modelled function reads are
left out, as is `identity_secret_blobs`, which has one row for each identity. Ids are
numbered in the order in which they are drawn.
-/

namespace ElvishMail.Mailmeta

open Go Smtp Semantics

/-- The zero `time.Time`. -/
def zeroTime : Time := -62135596800 * second

/-- A row of `users`. -/
structure UserRow where
  id : Nat
  email : GoString
deriving DecidableEq

/-- A row of `user_identity_keys`. -/
structure IdentityRow where
  id : Nat := 0
  userID : Nat
  email : GoString
  fingerprint : GoString
  armoredPublic : GoString
  primaryUID : GoString
  isDefault : Bool
  isActive : Bool
  createdAt : Time := 0
  avatarDataURL : GoString := []
  avatarColor : GoString := []
  statusBadgeEnabled : Bool := false
  expiresAt : Option Time := none
deriving DecidableEq

namespace IdentityRow

/-- `UNIQUE (user_id, fingerprint)`. -/
def print (row : IdentityRow) : Nat × GoString := (row.userID, row.fingerprint)

/-- `ORDER BY is_default DESC, created_at DESC`. -/
def before (row other : IdentityRow) : Bool :=
  (row.isDefault && !other.isDefault) ||
    (row.isDefault == other.isDefault && decide (other.createdAt < row.createdAt))

end IdentityRow

/-- A row of `mail_aliases`. -/
structure AliasRow where
  userID : Nat
  email : GoString
  identityFingerprint : GoString
  isDefault : Bool
  isActive : Bool
deriving DecidableEq

/-- A row of `mail_domains`. -/
structure DomainRow where
  domain : GoString
  ownerUserID : Option Nat
  status : GoString
  mxVerified : Bool := false
  spfVerified : Bool := false
  dkimVerified : Bool := false
  dmarcVerified : Bool := false
  verificationTXTHost : GoString
  verificationTXTValue : GoString
  catchallIdentityFP : GoString := []
  dkimSelector : GoString := []
  dkimKeyID : GoString := []
  shareMode : GoString := ascii "owner_only"
deriving DecidableEq

/-- The tables and the key directory. A domain is the primary key of its row. -/
structure Registry where
  users : List UserRow
  accountKeys : List Nat
  identities : List IdentityRow
  aliases : List AliasRow
  domains : List DomainRow
  allowlist : List (GoString × Nat)
  keyFiles : List (GoString × GoString)
  drawn : Nat
  distinct : (domains.map DomainRow.domain).Nodup

namespace Registry

def empty : Registry where
  users := []
  accountKeys := []
  identities := []
  aliases := []
  domains := []
  allowlist := []
  keyFiles := []
  drawn := 0
  distinct := List.nodup_nil

variable (registry : Registry)

def identity? (userID : Nat) (fingerprint : GoString) : Option IdentityRow :=
  registry.identities.find? fun row => row.print = (userID, fingerprint)

def domain? (domain : GoString) : Option DomainRow :=
  registry.domains.find? fun row => row.domain = domain

def ownedDomain? (userID : Nat) (domain : GoString) : Option DomainRow :=
  registry.domains.find? fun row => row.domain = domain && row.ownerUserID = some userID

def keyFile? (base : GoString) : Option GoString :=
  (Rows.find Prod.fst base registry.keyFiles).map Prod.snd

def withUser (email : GoString) : Registry :=
  { registry with
    users := registry.users ++ [⟨registry.drawn + 1, email⟩]
    drawn := registry.drawn + 1 }

def withIdentity (now : Time) (row : IdentityRow) : Registry :=
  { registry with
    identities := registry.identities ++ [{ row with id := registry.drawn + 1, createdAt := now }]
    drawn := registry.drawn + 1 }

def withAccount (now : Time) (userID : Nat) (rows : List IdentityRow) : Registry :=
  rows.foldl (fun registry row => registry.withIdentity now row)
    { registry with accountKeys := registry.accountKeys ++ [userID] }

def updateIdentities (change : IdentityRow → IdentityRow) : Registry :=
  { registry with identities := registry.identities.map change }

def withoutIdentity (userID : Nat) (fingerprint : GoString) : Registry :=
  { registry with
    identities := registry.identities.filter fun row => row.print ≠ (userID, fingerprint) }

def updateDomains (change : DomainRow → DomainRow) (keeps : ∀ row, (change row).domain = row.domain) :
    Registry :=
  { registry with
    domains := registry.domains.map change
    distinct := by
      have same : (registry.domains.map change).map DomainRow.domain =
          registry.domains.map DomainRow.domain := by
        rw [List.map_map]
        exact List.map_congr_left fun row _ => keeps row
      rw [same]
      exact registry.distinct }

/-- Without a user, and the rows that refer to it. A domain loses its owner only. -/
def withoutUser (userID : Nat) : Registry :=
  { registry.updateDomains
      (fun row => if row.ownerUserID = some userID then { row with ownerUserID := none } else row)
      (by intro row; split <;> rfl) with
    users := registry.users.filter (·.id != userID)
    accountKeys := registry.accountKeys.filter (· != userID)
    identities := registry.identities.filter (·.userID != userID)
    aliases := registry.aliases.filter (·.userID != userID)
    allowlist := registry.allowlist.filter (·.2 != userID) }

def withDomain (row : DomainRow) : Registry :=
  if taken : (registry.domains.any fun other => other.domain == row.domain) = true then registry
  else
    { registry with
      domains := registry.domains ++ [row]
      distinct := by
        rw [List.map_append, List.nodup_append]
        refine ⟨registry.distinct, List.nodup_singleton _, ?_⟩
        intro name member other last same
        rw [List.mem_singleton.mp last] at same
        obtain ⟨old, oldMember, named⟩ := List.mem_map.mp member
        exact taken (List.any_eq_true.mpr ⟨old, oldMember, beq_iff_eq.mpr (named.trans same)⟩) }

def withoutDomain (userID : Nat) (domain : GoString) : Registry :=
  { registry with
    domains := registry.domains.filter fun row =>
      !(row.domain == domain && row.ownerUserID == some userID)
    allowlist :=
      if (registry.ownedDomain? userID domain).isSome then registry.allowlist.filter (·.1 != domain)
      else registry.allowlist
    distinct := registry.distinct.sublist (List.filter_sublist.map _) }

def updateOwned (userID : Nat) (domain : GoString) (change : DomainRow → DomainRow)
    (keeps : ∀ row, (change row).domain = row.domain) : Registry :=
  registry.updateDomains
    (fun row => if row.domain = domain ∧ row.ownerUserID = some userID then change row else row)
    (by intro row; split <;> simp [keeps])

def withShareMode (domain mode : GoString) : Registry :=
  registry.updateDomains (fun row => if row.domain = domain then { row with shareMode := mode } else row)
    (by intro row; split <;> rfl)

def withAllowlist (domain : GoString) (userIDs : List Nat) : Registry :=
  { registry with
    allowlist := registry.allowlist.filter (·.1 != domain) ++ userIDs.map fun userID => (domain, userID) }

def withKeyFile (base content : GoString) : Registry :=
  { registry with keyFiles := Rows.upsert Prod.fst (base, content) registry.keyFiles }

def withoutKeyFile (base : GoString) : Registry :=
  { registry with keyFiles := Rows.remove Prod.fst base registry.keyFiles }

end Registry

structure IdentityRow.Stores (row stored : IdentityRow) : Prop where
  userID : stored.userID = row.userID
  email : stored.email = row.email
  fingerprint : stored.fingerprint = row.fingerprint
  isActive : stored.isActive = row.isActive

theorem Registry.mem_withIdentity {registry : Registry} {now : Time} {row stored : IdentityRow}
    (member : stored ∈ (registry.withIdentity now row).identities) :
    stored ∈ registry.identities ∨ row.Stores stored := by
  rcases List.mem_append.mp member with old | new
  · exact .inl old
  · rw [List.mem_singleton.mp new]
    exact .inr ⟨rfl, rfl, rfl, rfl⟩

theorem Registry.mem_withAccount {registry : Registry} {now : Time} {userID : Nat}
    {rows : List IdentityRow} {stored : IdentityRow}
    (member : stored ∈ (registry.withAccount now userID rows).identities) :
    stored ∈ registry.identities ∨ ∃ row ∈ rows, row.Stores stored := by
  unfold Registry.withAccount at member
  generalize before : ({ registry with accountKeys := registry.accountKeys ++ [userID] } : Registry) =
    keyed at member
  have same : keyed.identities = registry.identities := by rw [← before]
  rw [← same]
  clear before same
  induction rows generalizing keyed with
  | nil => exact .inl member
  | cons row rest ih =>
    rcases ih _ member with old | ⟨later, laterMember, stores⟩
    · rcases mem_withIdentity old with older | stores
      · exact .inl older
      · exact .inr ⟨row, List.mem_cons_self, stores⟩
    · exact .inr ⟨later, List.mem_cons_of_mem row laterMember, stores⟩

/-- How a write fails: on a unique key, on a row that is not there, or otherwise. -/
inductive WriteError where
  | duplicateKey
  | notFound
  | failed (err : GoError)
deriving DecidableEq

def WriteError.error : WriteError → GoError
  | .duplicateKey => .plain (ascii "duplicate key value violates unique constraint")
  | .notFound => LookupError.notFound.error
  | .failed err => err

inductive RegistryWrite where
  | deleteUser (userID : Nat)
  | storeBootstrap (userID : Nat) (rows : List IdentityRow)
  | insertIdentityKey (row : IdentityRow)
  | revokeIdentity (userID : Nat) (fingerprint : GoString)
  | deleteIdentity (userID : Nat) (fingerprint : GoString)
  | setDefaultIdentity (userID : Nat) (fingerprint : GoString)
  | insertOwnedDomain (row : DomainRow)
  | setOwnedDomainDKIM (userID : Nat) (domain selector keyRef : GoString)
  | deleteOwnedDomain (userID : Nat) (domain : GoString)
  | setDomainCatchall (userID : Nat) (domain fingerprint : GoString)
  | updateDomainVerification (userID : Nat) (domain : GoString) (mx spf dkim dmarc : Bool)
      (status : GoString)
  | setDomainShareMode (domain mode : GoString)
  | replaceDomainAllowlist (domain : GoString) (userIDs : List Nat)
  | writeKeyFile (base content : GoString)
  | removeKeyFile (base : GoString)
deriving DecidableEq

namespace RegistryWrite

/-- What keeps a write from taking effect: a constraint of the tables, or an update that
matches no row. -/
def violation (registry : Registry) : RegistryWrite → Option WriteError
  | deleteUser userID =>
    if registry.users.any (·.id == userID) then none else some .notFound
  | storeBootstrap userID rows =>
    if registry.accountKeys.contains userID || !registry.users.any (·.id == userID) ||
        !decide (rows.map IdentityRow.fingerprint).Nodup ||
        rows.any fun row => (registry.identity? userID row.fingerprint).isSome then
      some .duplicateKey
    else none
  | insertIdentityKey row =>
    if !registry.users.any (·.id == row.userID) ||
        (registry.identity? row.userID row.fingerprint).isSome then some .duplicateKey
    else none
  | revokeIdentity userID fingerprint | deleteIdentity userID fingerprint
  | setDefaultIdentity userID fingerprint =>
    if (registry.identity? userID fingerprint).isSome then none else some .notFound
  | insertOwnedDomain row =>
    if (registry.domain? row.domain).isSome then some .duplicateKey else none
  | setOwnedDomainDKIM userID domain _ _ | deleteOwnedDomain userID domain
  | setDomainCatchall userID domain _ | updateDomainVerification userID domain .. =>
    if (registry.ownedDomain? userID domain).isSome then none else some .notFound
  | setDomainShareMode domain _ =>
    if (registry.domain? domain).isSome then none else some .notFound
  | replaceDomainAllowlist domain userIDs =>
    if (userIDs.isEmpty || (registry.domain? domain).isSome) && decide userIDs.Nodup &&
        userIDs.all fun userID => registry.users.any (·.id == userID) then none
    else some .duplicateKey
  | writeKeyFile .. | removeKeyFile .. => none

def apply (now : Time) (registry : Registry) : RegistryWrite → Registry
  | deleteUser userID => registry.withoutUser userID
  | storeBootstrap userID rows => registry.withAccount now userID rows
  | insertIdentityKey row => registry.withIdentity now row
  | revokeIdentity userID fingerprint =>
    registry.updateIdentities fun row =>
      if row.print = (userID, fingerprint) then { row with isActive := false } else row
  | deleteIdentity userID fingerprint => registry.withoutIdentity userID fingerprint
  | setDefaultIdentity userID fingerprint =>
    registry.updateIdentities fun row =>
      if row.userID = userID then { row with isDefault := row.fingerprint == fingerprint } else row
  | insertOwnedDomain row => registry.withDomain row
  | setOwnedDomainDKIM userID domain selector keyRef =>
    registry.updateOwned userID domain
      (fun row => { row with dkimSelector := selector, dkimKeyID := keyRef }) fun _ => rfl
  | deleteOwnedDomain userID domain => registry.withoutDomain userID domain
  | setDomainCatchall userID domain fingerprint =>
    registry.updateOwned userID domain (fun row => { row with catchallIdentityFP := fingerprint })
      fun _ => rfl
  | updateDomainVerification userID domain mx spf dkim dmarc status =>
    registry.updateOwned userID domain
      (fun row =>
        { row with
          mxVerified := mx
          spfVerified := spf
          dkimVerified := dkim
          dmarcVerified := dmarc
          status := status })
      fun _ => rfl
  | setDomainShareMode domain mode => registry.withShareMode domain mode
  | replaceDomainAllowlist domain userIDs => registry.withAllowlist domain userIDs
  | writeKeyFile base content => registry.withKeyFile base content
  | removeKeyFile base => registry.withoutKeyFile base

end RegistryWrite

/-- What a statement meets: how it ends, the time of the database, and whether an address
is reserved for a while because an account was deleted. -/
structure Moment where
  outcome : Outcome GoError
  now : Time
  reserved : Bool

instance : Nonempty Moment := ⟨⟨.done, 0, false⟩⟩

/-- A write at a moment. One that is refused by a constraint has no effect. -/
def RegistryWrite.attempt (write : RegistryWrite) (moment : Moment) (registry : Registry) :
    Option WriteError × Registry :=
  match write.violation registry with
  | some err => (some (moment.outcome.error?.elim err .failed), registry)
  | none =>
    (moment.outcome.error?.map .failed,
      if moment.outcome.applied then write.apply moment.now registry else registry)

theorem RegistryWrite.attempt_cases (write : RegistryWrite) (moment : Moment) (registry : Registry) :
    (write.attempt moment registry).2 = registry ∨
      write.violation registry = none ∧
        (write.attempt moment registry).2 = write.apply moment.now registry := by
  unfold RegistryWrite.attempt
  cases write.violation registry with
  | some err => exact .inl rfl
  | none =>
    dsimp only
    split
    · exact .inr ⟨rfl, rfl⟩
    · exact .inl rfl

theorem RegistryWrite.attempt_done {write : RegistryWrite} {moment : Moment} {registry : Registry}
    (reported : (write.attempt moment registry).1 = none) :
    write.violation registry = none ∧
      (write.attempt moment registry).2 = write.apply moment.now registry := by
  unfold RegistryWrite.attempt at reported ⊢
  cases free : write.violation registry with
  | some err =>
    rw [free] at reported
    cases reported
  | none =>
    rw [free] at reported
    exact ⟨rfl, if_pos (Outcome.applied_of_error?_none (Option.map_eq_none_iff.mp reported))⟩

theorem RegistryWrite.attempt_refused {write : RegistryWrite} {moment : Moment} {registry : Registry}
    (honest : ∀ err, moment.outcome ≠ .lost err) {err : WriteError}
    (reported : (write.attempt moment registry).1 = some err) :
    (write.attempt moment registry).2 = registry := by
  revert reported
  unfold RegistryWrite.attempt
  cases write.violation registry with
  | some err => exact fun _ => rfl
  | none =>
    cases ended : moment.outcome with
    | done => exact nofun
    | refused err => exact fun _ => rfl
    | lost err => exact absurd ended (honest err)

inductive RegistryStatement where
  | isDeletedAddressReserved (address : GoString)
  | issueSession
  | createUserWithSRP (email : GoString)
  | activeIdentity (email : GoString)
  | activeAlias (email : GoString)
  | otherUser (email : GoString) (userID : Nat)
  | identityByID (userID id : Nat)
  | identityByFingerprint (userID : Nat) (fingerprint : GoString)
  | userByEmail (email : GoString)
  | ownedDomain (userID : Nat) (domain : GoString)
  | ownedDomains (userID : Nat)
  | domainByName (domain : GoString)
  | allowlisted (domain : GoString) (userID : Nat)
  | makeKeyDir
  | readKeyFile (base : GoString)
  | write (effect : RegistryWrite)

namespace RegistryStatement

abbrev Answer : RegistryStatement → Type
  | issueSession | makeKeyDir => Option GoError
  | createUserWithSRP _ => Except WriteError Nat
  | identityByID .. | identityByFingerprint .. => Except GoError (Option IdentityRow)
  | userByEmail _ => Except GoError (Option UserRow)
  | ownedDomain .. | domainByName _ => Except GoError (Option DomainRow)
  | ownedDomains _ => Except GoError (List DomainRow)
  | readKeyFile _ => Except GoError (Option GoString)
  | write _ => Option WriteError
  | _ => Except GoError Bool

/-- Execute a statement at a moment. The `lower` of the database is `strings.ToLower`. -/
def answer (lib : Library) (moment : Moment) :
    (statement : RegistryStatement) → Registry → statement.Answer × Registry
  | isDeletedAddressReserved _, registry => (moment.outcome.read moment.reserved, registry)
  | issueSession, registry | makeKeyDir, registry => (moment.outcome.error?, registry)
  | createUserWithSRP email, registry =>
    if registry.users.any (·.email == email) then
      (.error (moment.outcome.error?.elim .duplicateKey .failed), registry)
    else
      (match moment.outcome.error? with
        | some err => .error (.failed err)
        | none => .ok (registry.drawn + 1),
        if moment.outcome.applied then registry.withUser email else registry)
  | activeIdentity email, registry =>
    (moment.outcome.read
      (registry.identities.any fun row => toLower lib row.email == email && row.isActive), registry)
  | activeAlias email, registry =>
    (moment.outcome.read
      (registry.aliases.any fun row => toLower lib row.email == email && row.isActive), registry)
  | otherUser email userID, registry =>
    (moment.outcome.read
      (registry.users.any fun row => toLower lib row.email == email && row.id != userID), registry)
  | identityByID userID id, registry =>
    (moment.outcome.read
      (registry.identities.find? fun row => row.userID == userID && row.id == id), registry)
  | identityByFingerprint userID fingerprint, registry =>
    (moment.outcome.read (registry.identity? userID fingerprint), registry)
  | userByEmail email, registry =>
    (moment.outcome.read (registry.users.find? (·.email == email)), registry)
  | ownedDomain userID domain, registry =>
    (moment.outcome.read (registry.ownedDomain? userID domain), registry)
  | ownedDomains userID, registry =>
    (moment.outcome.read (registry.domains.filter (·.ownerUserID == some userID)), registry)
  | domainByName domain, registry => (moment.outcome.read (registry.domain? domain), registry)
  | allowlisted domain userID, registry =>
    (moment.outcome.read (registry.allowlist.contains (domain, userID)), registry)
  | readKeyFile base, registry => (moment.outcome.read (registry.keyFile? base), registry)
  | write effect, registry => effect.attempt moment registry

theorem createUserWithSRP_cases (lib : Library) (moment : Moment) (registry : Registry)
    (email : GoString) :
    (∃ err next, answer lib moment (createUserWithSRP email) registry = (.error err, next) ∧
      (next = registry ∨ next = registry.withUser email)) ∨
    answer lib moment (createUserWithSRP email) registry =
      (.ok (registry.drawn + 1), registry.withUser email) := by
  dsimp only [answer]
  split
  · exact .inl ⟨_, _, rfl, .inl rfl⟩
  · cases reported : moment.outcome.error? with
    | some err =>
      refine .inl ⟨_, _, rfl, ?_⟩
      split
      · exact .inr rfl
      · exact .inl rfl
    | none =>
      rw [if_pos (Outcome.applied_of_error?_none reported)]
      exact .inr rfl

/-- The statements that write at most these. A new user counts as none of them. -/
def Writes (may : RegistryWrite → Prop) : RegistryStatement → Prop
  | write effect => may effect
  | createUserWithSRP _ => False
  | _ => True

theorem Writes.kept {lib : Library} {may : RegistryWrite → Prop} {Holds : Registry → Prop}
    (each : ∀ effect now registry, may effect → effect.violation registry = none → Holds registry →
      Holds (effect.apply now registry))
    (moment : Moment) (statement : RegistryStatement) (registry : Registry)
    (writes : Writes may statement) (holds : Holds registry) :
    Holds (answer lib moment statement registry).2 := by
  cases statement with
  | write effect =>
    rcases effect.attempt_cases moment registry with same | ⟨free, done⟩
    · show Holds (effect.attempt moment registry).2
      rw [same]
      exact holds
    · show Holds (effect.attempt moment registry).2
      rw [done]
      exact each effect moment.now registry writes free holds
  | createUserWithSRP email => exact writes.elim
  | _ => exact holds

end RegistryStatement

abbrev Registering (Value : Type) : Type := Program RegistryStatement RegistryStatement.Answer Value

end ElvishMail.Mailmeta
