import ElvishMail.Mailmeta.Registry

/-!
# Identities in the tables

`internal/mailmeta/identity.go` on the tables of a registry: how an address finds its
identity, what counts as taken, and how identities are written.

Which of several rows a query with `LIMIT 1` takes is decided by its order and, where that
leaves it open, by the order of the rows. No result depends on the latter.
-/

namespace ElvishMail.Mailmeta

open Go Smtp Semantics

/-- `normalizeEmail`. It is not computed while a program is looked at. -/
@[irreducible]
def normalizeEmail (lib : Library) (email : GoString) : GoString := toLower lib (trimSpace email)

def identityAvatarColors : List GoString :=
  ["pink", "yellow", "red", "orange", "green", "blue", "dark-blue"].map ascii

def weightedSum : Nat → GoString → Nat
  | _, [] => 0
  | weight, byte :: rest => byte.toNat * weight + weightedSum (weight + 1) rest

/-- `NormalizeIdentityAvatarColor`: a supported colour, or one that the seed decides. -/
def normalizeIdentityAvatarColor (lib : Library) (color seed : GoString) : GoString :=
  let color := toLower lib (trimSpace color)
  if identityAvatarColors.contains color then color
  else
    let seed := normalizeEmail lib seed
    if seed = [] then ascii "blue"
    else (identityAvatarColors[weightedSum 1 seed % identityAvatarColors.length]?).getD []

namespace Registry

variable (lib : Library) (registry : Registry)

def identityForExactEmail (email : GoString) : Option IdentityRow :=
  Rows.top IdentityRow.before (registry.identities.filter fun row => row.email == email && row.isActive)

/-- The active aliases of an address, each with an active identity it stands for. -/
def aliased (email : GoString) : List (AliasRow × IdentityRow) :=
  (registry.aliases.filter fun aliasRow => aliasRow.email == email && aliasRow.isActive).flatMap
    fun aliasRow =>
      (registry.identities.filter fun row =>
        row.print = (aliasRow.userID, aliasRow.identityFingerprint) && row.isActive).map
          fun row => (aliasRow, row)

/-- `ORDER BY a.is_default DESC`, and then as for identities. -/
def aliasBefore (pair other : AliasRow × IdentityRow) : Bool :=
  (pair.1.isDefault && !other.1.isDefault) ||
    (pair.1.isDefault == other.1.isDefault && pair.2.before other.2)

def identityForAliasEmail (email : GoString) : Option IdentityRow :=
  (Rows.top aliasBefore (registry.aliased email)).map Prod.snd

def catching (domain : GoString) : List IdentityRow :=
  (registry.domains.filter fun row =>
    row.domain == domain && row.status == ascii "active" && row.mxVerified &&
      row.catchallIdentityFP != []).flatMap fun domainRow =>
    registry.identities.filter fun row =>
      domainRow.ownerUserID = some row.userID && row.fingerprint == domainRow.catchallIdentityFP &&
        row.isActive

def identityForCatchall (domain : GoString) : Option IdentityRow := (registry.catching domain).head?

/-- `IdentityForEmail` where no query fails. -/
def identityForEmail (email : GoString) : Option IdentityRow :=
  let email := normalizeEmail lib email
  if email = [] then none
  else match registry.identityForExactEmail email with
    | some row => some row
    | none =>
      match registry.identityForAliasEmail email with
      | some row => some row
      | none =>
        match indexByte email 0x40 with
        | none => none
        | some position =>
          let domain := email.drop (position + 1)
          if domain = [] then none else registry.identityForCatchall domain

def identityForUserEmail (userID : Nat) (email : GoString) : Option IdentityRow :=
  let email := normalizeEmail lib email
  if email = [] then none
  else
    Rows.top IdentityRow.before
      (registry.identities.filter fun row => row.userID == userID && row.email == email && row.isActive)

variable {registry} {row : IdentityRow} {email domain : GoString}

theorem mem_of_exact (found : registry.identityForExactEmail email = some row) :
    row ∈ registry.identities ∧ row.email = email ∧ row.isActive = true := by
  simpa using Rows.mem_of_top found

theorem mem_of_aliased (found : registry.identityForAliasEmail email = some row) :
    ∃ aliasRow ∈ registry.aliases, aliasRow.email = email ∧ aliasRow.isActive = true ∧
      row ∈ registry.identities ∧ row.isActive = true ∧
      row.print = (aliasRow.userID, aliasRow.identityFingerprint) := by
  obtain ⟨⟨aliasRow, other⟩, taken, rfl⟩ := Option.map_eq_some_iff.mp found
  obtain ⟨chosen, listed, same⟩ := List.mem_flatMap.mp (Rows.mem_of_top taken)
  obtain ⟨kept, keptMember, pair⟩ := List.mem_map.mp same
  cases pair
  have named : aliasRow ∈ registry.aliases ∧ aliasRow.email = email ∧ aliasRow.isActive = true := by
    simpa using listed
  have identity : other ∈ registry.identities ∧
      other.print = (aliasRow.userID, aliasRow.identityFingerprint) ∧ other.isActive = true := by
    simpa using keptMember
  exact ⟨aliasRow, named.1, named.2.1, named.2.2, identity.1, identity.2.2, identity.2.1⟩

theorem mem_of_catchall (found : registry.identityForCatchall domain = some row) :
    ∃ domainRow ∈ registry.domains, domainRow.domain = domain ∧ domainRow.status = ascii "active" ∧
      domainRow.mxVerified = true ∧ domainRow.ownerUserID = some row.userID ∧
      row ∈ registry.identities ∧ row.isActive = true := by
  obtain ⟨domainRow, listed, member⟩ := List.mem_flatMap.mp (List.mem_of_head? found)
  have shown : domainRow ∈ registry.domains ∧ ((domainRow.domain = domain ∧
      domainRow.status = ascii "active") ∧ domainRow.mxVerified = true) ∧
      ¬domainRow.catchallIdentityFP = [] := by
    simpa using listed
  have identity : row ∈ registry.identities ∧ (domainRow.ownerUserID = some row.userID ∧
      row.fingerprint = domainRow.catchallIdentityFP) ∧ row.isActive = true := by
    simpa using member
  exact ⟨domainRow, shown.1, shown.2.1.1.1, shown.2.1.1.2, shown.2.1.2, identity.2.1.1, identity.1,
    identity.2.2⟩

theorem identityForEmail_cases (found : registry.identityForEmail lib email = some row) :
    registry.identityForExactEmail (normalizeEmail lib email) = some row ∨
      registry.identityForAliasEmail (normalizeEmail lib email) = some row ∨
      ∃ position, indexByte (normalizeEmail lib email) 0x40 = some position ∧
        (normalizeEmail lib email).drop (position + 1) ≠ [] ∧
        registry.identityForCatchall ((normalizeEmail lib email).drop (position + 1)) = some row := by
  unfold identityForEmail at found
  dsimp only at found
  split at found
  · cases found
  · split at found
    · exact .inl (by rwa [← found])
    · split at found
      · exact .inr (.inl (by rwa [← found]))
      · split at found
        · cases found
        · next position cut =>
            split at found
            · cases found
            next filled => exact .inr (.inr ⟨position, cut, filled, found⟩)

theorem identityForEmail_active (found : registry.identityForEmail lib email = some row) :
    row ∈ registry.identities ∧ row.isActive = true := by
  rcases identityForEmail_cases lib found with exact | aliased | ⟨_, -, -, caught⟩
  · exact ⟨(mem_of_exact exact).1, (mem_of_exact exact).2.2⟩
  · obtain ⟨_, -, -, -, member, active, -⟩ := mem_of_aliased aliased
    exact ⟨member, active⟩
  · obtain ⟨_, -, -, -, -, -, member, active⟩ := mem_of_catchall caught
    exact ⟨member, active⟩

theorem identityForEmail_of_exact (some : normalizeEmail lib email ≠ [])
    (member : row ∈ registry.identities) (named : row.email = normalizeEmail lib email)
    (active : row.isActive = true) :
    ∃ found, registry.identityForEmail lib email = .some found ∧ found ∈ registry.identities ∧
      found.email = normalizeEmail lib email ∧ found.isActive = true := by
  have listed : row ∈ registry.identities.filter
      fun row => row.email == normalizeEmail lib email && row.isActive :=
    List.mem_filter.mpr ⟨member, by simp [named, active]⟩
  obtain ⟨found, exact, -⟩ : ∃ found,
      registry.identityForExactEmail (normalizeEmail lib email) = .some found ∧ found ∈ _ :=
    Rows.exists_top listed
  refine ⟨found, ?_, mem_of_exact exact⟩
  rw [identityForEmail]
  dsimp only
  rw [if_neg some, exact]

end Registry

section Statements

variable (lib : Library)

def identityByFingerprint (userID : Nat) (fingerprint : GoString) :
    Registering (Except GoError (Option IdentityRow)) :=
  let fingerprint := toUpper lib (trimSpace fingerprint)
  if fingerprint = [] then .done (.ok none)
  else .ask (.identityByFingerprint userID fingerprint) .done

def insertIdentityKey (row : IdentityRow) : Registering (Option WriteError) :=
  .ask (.write (.insertIdentityKey
    { row with
      avatarDataURL := trimSpace row.avatarDataURL
      avatarColor := normalizeIdentityAvatarColor lib row.avatarColor row.email })) .done

/-- `MailboxAddressGloballyTaken`: the address of an active identity, of an active alias, or
the login of another user. -/
def mailboxAddressGloballyTaken (ownerUserID : Nat) (email : GoString) :
    Registering (Except GoError Bool) :=
  let email := normalizeEmail lib email
  if email = [] then .done (.error (.plain (ascii "mailmeta: empty email")))
  else .ask (.activeIdentity email) fun
    | .error err => .done (.error err)
    | .ok true => .done (.ok true)
    | .ok false => .ask (.activeAlias email) fun
      | .error err => .done (.error err)
      | .ok true => .done (.ok true)
      | .ok false => .ask (.otherUser email ownerUserID) .done

variable {lib} {registry : Registry} {userID : Nat} {email : GoString}

theorem mailboxAddressGloballyTaken_ensures :
    (mailboxAddressGloballyTaken lib userID email).Ensures (RegistryStatement.answer lib) registry
      fun taken next => next = registry ∧
        (taken = .ok false → ∀ row ∈ registry.identities, row.isActive = true →
          toLower lib row.email ≠ normalizeEmail lib email) := by
  unfold mailboxAddressGloballyTaken
  dsimp only
  split
  · exact ⟨rfl, nofun⟩
  intro moment
  dsimp only [RegistryStatement.answer, Outcome.read]
  cases moment.outcome.error? with
  | some err => exact ⟨rfl, nofun⟩
  | none =>
    dsimp only
    cases held : registry.identities.any
        fun row => toLower lib row.email == normalizeEmail lib email && row.isActive with
    | true => exact ⟨rfl, nofun⟩
    | false =>
      have absent : ∀ row ∈ registry.identities, row.isActive = true →
          toLower lib row.email ≠ normalizeEmail lib email := by
        intro row member active same
        exact List.any_eq_false.mp held row member (by simp [same, active])
      intro second
      dsimp only [RegistryStatement.answer, Outcome.read]
      cases second.outcome.error? with
      | some err => exact ⟨rfl, nofun⟩
      | none =>
        dsimp only
        cases registry.aliases.any
            fun row => toLower lib row.email == normalizeEmail lib email && row.isActive with
        | true => exact ⟨rfl, nofun⟩
        | false => exact fun third => ⟨rfl, fun _ => absent⟩

end Statements

end ElvishMail.Mailmeta
