import ElvishMail.Mailmeta.Domains
import ElvishMail.Mailmeta.ReverseLookup

/-!
# The web key directory

`handleWKD` serves the key of an address by the hash of its local part. The address comes from the
`l` parameter if its local part has the hash, whatever its domain, and from the tables otherwise; the
key is that of the identity the address finds; and whether it may be published is a setting of the
user who logs in with the address.
-/

namespace ElvishMail.Httpserver.WKD

open Go Mailmeta Openpgp

structure Host where
  lib : Library
  digest : Digest
  mailDomain : GoString
  armoredToBinary : GoString → Option GoString

structure Tables where
  registry : Registry
  settings : List Settings

/-- What is asked of the key endpoint; the direct method has no domain. -/
structure KeyRequest where
  domain : GoString
  hash : GoString
  hint : GoString

def Host.effectiveMailDomain (host : Host) : GoString :=
  let configured := trimLower host.lib host.mailDomain
  if configured ≠ [] then configured else ascii "elvish.local"

section Serving

variable (host : Host) (tables : Tables) (request : KeyRequest)

def requestedDomain : GoString :=
  let domain := toLower host.lib (trimSpace request.domain)
  if domain = [] then host.effectiveMailDomain else domain

def requestedHash : GoString := toLower host.lib (trimSpace request.hash)

def hintEmail (domain hint : GoString) : GoString :=
  let email := toLower host.lib (trimSpace hint)
  if email.contains 0x40 then email else email ++ ascii "@" ++ domain

/-- A hint counts if the text in front of its first `@` has the hash. -/
def hintMatches (domain hash hint : GoString) : Bool :=
  hint != [] &&
    wkdLocalPartHash host.lib host.digest ((hintEmail host domain hint).takeWhile (· != 0x40)) == hash

def lookupWKDEmail (domain hash hint : GoString) : GoString :=
  if hintMatches host domain hash hint = true then hintEmail host domain hint
  else tables.registry.wkdReverseLookup host.lib host.digest domain hash

def userByEmail (email : GoString) : Option UserRow :=
  tables.registry.users.find? (·.email = trimLower host.lib email)

/-- `wkdServeKey`: the key that is served, if any. -/
def wkdServeKey : Option GoString :=
  let domain := requestedDomain host request
  let hash := requestedHash host request
  if domain = [] ∨ hash = [] then none
  else
    let email := lookupWKDEmail host tables domain hash request.hint
    if email = [] then none
    else match tables.registry.identityForEmail host.lib email, userByEmail host tables email with
      | some identity, some user =>
        if (getSettings tables.settings user.id).wkdPublish then
          host.armoredToBinary identity.armoredPublic
        else none
      | _, _ => none

end Serving

section Exactness

variable (host : Host) (tables : Tables) (request : KeyRequest)

/-- An address stands for an identity if it is its own or that of an active alias of it. -/
def StandsFor (registry : Registry) (email : GoString) (row : IdentityRow) : Prop :=
  row.email = email ∨ ∃ aliasRow ∈ registry.aliases, aliasRow.email = email ∧
    aliasRow.isActive = true ∧ row.print = (aliasRow.userID, aliasRow.identityFingerprint)

/-- An identity whose key a request is for: it is active, an address at the domain whose local part
has the hash stands for it, and its owner publishes his keys. -/
structure Wanted (row : IdentityRow) : Prop where
  member : row ∈ tables.registry.identities
  active : row.isActive = true
  address : ∃ localPart, wkdLocalPartHash host.lib host.digest localPart = requestedHash host request ∧
    StandsFor tables.registry (localPart ++ 0x40 :: requestedDomain host request) row
  publishes : (getSettings tables.settings row.userID).wkdPublish = true

/-- A key is served exactly if there is an identity that the request is for, and it is the key of
one. -/
def Exact : Prop :=
  (∀ key, wkdServeKey host tables request = some key →
    ∃ row, Wanted host tables request row ∧ host.armoredToBinary row.armoredPublic = some key) ∧
  ((∃ row, Wanted host tables request row) → (wkdServeKey host tables request).isSome = true)

/-- The address that a request asks for: that of its hint, if its local part has the hash, and
otherwise the first alias or else identity at the domain whose local part has it. -/
def Asks (email : GoString) : Prop :=
  let domain := requestedDomain host request
  let hash := requestedHash host request
  (hintMatches host domain hash request.hint = true ∧ email = hintEmail host domain request.hint) ∨
    (hintMatches host domain hash request.hint = false ∧
      (tables.registry.aliasesAt domain ++ tables.registry.identitiesAt domain).find?
        (localPartMatches host.lib host.digest hash) = some email)

/-- The address is the login of a user who publishes. -/
def PublishingLogin (email : GoString) : Prop :=
  ∃ user, userByEmail host tables email = some user ∧
    (getSettings tables.settings user.id).wkdPublish = true

/-- The key of the identity that mail to the address finds. -/
def mailKey (email : GoString) : Option GoString :=
  (tables.registry.identityForEmail host.lib email).bind fun row =>
    host.armoredToBinary row.armoredPublic

/-- An address of the requested domain whose local part has the hash. -/
def Requested (email : GoString) : Prop :=
  ∃ localPart, wkdLocalPartHash host.lib host.digest localPart = requestedHash host request ∧
    email = localPart ++ 0x40 :: requestedDomain host request

/-- Mail to the address asked for goes to an identity, the address is a login of a publishing user,
and no identity that the request is for has the same key. -/
structure Misleads (email : GoString) (row : IdentityRow) : Prop where
  asks : Asks host tables request email
  login : PublishingLogin host tables email
  found : tables.registry.identityForEmail host.lib email = some row
  readable : (host.armoredToBinary row.armoredPublic).isSome = true
  alone : ∀ other, Wanted host tables request other →
    host.armoredToBinary other.armoredPublic ≠ host.armoredToBinary row.armoredPublic

/-- The ways in which the key endpoint goes wrong. The first four serve the key of an identity that
the request is not for: a hint leads to a foreign address, or the domain does as a pattern; the
identity is a catch-all; or the login is of another user than the identity, whose owner does not
publish. The others serve no key though there is an identity that the request is for: no address is
asked for; it is no login, as that of an alias or at a custom domain; it is the login of a user who
does not publish; or no key is found for it. -/
inductive Astray : Prop where
  | hint {email row} (leads : Misleads host tables request email row)
      (hinted : hintMatches host (requestedDomain host request) (requestedHash host request)
        request.hint = true)
      (foreign : ¬Requested host request (normalizeEmail host.lib email))
  | pattern {email row} (leads : Misleads host tables request email row)
      (listed : email ∈ tables.registry.aliasesAt (requestedDomain host request) ++
        tables.registry.identitiesAt (requestedDomain host request))
      (foreign : ¬Requested host request (normalizeEmail host.lib email))
  | catchall {email row} (leads : Misleads host tables request email row)
      (other : ¬StandsFor tables.registry (normalizeEmail host.lib email) row)
  | stranger {email row} (leads : Misleads host tables request email row)
      (withheld : (getSettings tables.settings row.userID).wkdPublish = false)
  | unlisted {row} (wanted : Wanted host tables request row)
      (none : ∀ email, ¬Asks host tables request email)
  | unregistered {row email} (wanted : Wanted host tables request row)
      (asks : Asks host tables request email) (none : userByEmail host tables email = none)
  | withheld {row email user} (wanted : Wanted host tables request row)
      (asks : Asks host tables request email) (login : userByEmail host tables email = some user)
      (off : (getSettings tables.settings user.id).wkdPublish = false)
  | keyless {row email} (wanted : Wanted host tables request row)
      (asks : Asks host tables request email) (none : mailKey host tables email = none)

variable {host tables request} {email key : GoString}

theorem hintEmail_ne_nil {domain hint : GoString} : hintEmail host domain hint ≠ [] := by
  unfold hintEmail
  dsimp only
  split
  · intro blank
    rename_i signed
    rw [blank] at signed
    cases signed
  · simp [ascii]

theorem Asks.some (asks : Asks host tables request email) :
    email ≠ [] ∧ requestedHash host request ≠ [] := by
  have letters (localPart : GoString) : wkdLocalPartHash host.lib host.digest localPart ≠ [] := by
    intro blank
    have length := (wkdLocalPartHash_letters host.lib host.digest localPart).1
    rw [blank] at length
    cases length
  rcases asks with ⟨matched, rfl⟩ | ⟨-, found⟩
  · refine ⟨hintEmail_ne_nil, ?_⟩
    rw [hintMatches, Bool.and_eq_true, beq_iff_eq] at matched
    rw [← matched.2]
    exact letters _
  · have matched := List.find?_some found
    rw [localPartMatches] at matched
    split at matched
    · cases matched
    · cases matched
    next place last =>
      constructor
      · rintro rfl
        cases last
      · rw [← beq_iff_eq.mp matched]
        exact letters _

theorem lookupWKDEmail_eq (some : email ≠ []) :
    lookupWKDEmail host tables (requestedDomain host request) (requestedHash host request)
      request.hint = email ↔ Asks host tables request email := by
  rw [lookupWKDEmail, Asks]
  cases matched : hintMatches host (requestedDomain host request) (requestedHash host request)
      request.hint with
  | true => simp [eq_comm]
  | false =>
    rw [if_neg Bool.false_ne_true, Registry.wkdReverseLookup_eq]
    cases found : (tables.registry.aliasesAt (requestedDomain host request) ++
        tables.registry.identitiesAt (requestedDomain host request)).find?
          (localPartMatches host.lib host.digest (requestedHash host request)) with
    | none => simp [some.symm]
    | some other => simp

theorem requestedDomain_ne_nil : requestedDomain host request ≠ [] := by
  unfold requestedDomain Host.effectiveMailDomain
  dsimp only
  split
  · split
    · assumption
    · decide
  · assumption

theorem wkdServeKey_eq_some :
    wkdServeKey host tables request = some key ↔ ∃ email, Asks host tables request email ∧
      PublishingLogin host tables email ∧ mailKey host tables email = some key := by
  unfold wkdServeKey
  dsimp only
  by_cases blank : requestedHash host request = []
  · rw [if_pos (.inr blank)]
    constructor
    · intro served
      cases served
    · rintro ⟨email, asks, -⟩
      exact absurd blank asks.some.2
  rw [if_neg (not_or_intro requestedDomain_ne_nil blank)]
  generalize asked : lookupWKDEmail host tables (requestedDomain host request)
    (requestedHash host request) request.hint = email
  by_cases unknown : email = []
  · rw [if_pos unknown]
    constructor
    · intro served
      cases served
    · rintro ⟨other, asks, -⟩
      have same := (lookupWKDEmail_eq asks.some.1).mpr asks
      exact absurd ((same.symm.trans asked).trans unknown) asks.some.1
  rw [if_neg unknown]
  have asks : Asks host tables request email := (lookupWKDEmail_eq unknown).mp asked
  have only (other : GoString) (also : Asks host tables request other) : other = email :=
    ((lookupWKDEmail_eq also.some.1).mpr also).symm.trans asked
  have served : (match tables.registry.identityForEmail host.lib email, userByEmail host tables email with
      | some identity, some user =>
        if (getSettings tables.settings user.id).wkdPublish = true then
          host.armoredToBinary identity.armoredPublic
        else none
      | _, _ => none) = some key ↔
      PublishingLogin host tables email ∧ mailKey host tables email = some key := by
    rw [PublishingLogin, mailKey]
    cases tables.registry.identityForEmail host.lib email with
    | none => simp
    | some row =>
      cases userByEmail host tables email with
      | none => simp
      | some user => simp
  rw [served]
  constructor
  · intro login
    exact ⟨email, asks, login⟩
  · rintro ⟨other, also, login⟩
    rwa [only other also] at login

theorem Asks.unique {other : GoString} (asks : Asks host tables request email)
    (also : Asks host tables request other) : other = email :=
  ((lookupWKDEmail_eq also.some.1).mpr also).symm.trans ((lookupWKDEmail_eq asks.some.1).mpr asks)

theorem mailKey_eq_some : mailKey host tables email = some key ↔
    ∃ row, tables.registry.identityForEmail host.lib email = some row ∧
      host.armoredToBinary row.armoredPublic = some key := Option.bind_eq_some_iff

theorem Misleads.not_exact {row : IdentityRow} (leads : Misleads host tables request email row) :
    ¬Exact host tables request := by
  rintro ⟨sound, -⟩
  obtain ⟨key, readable⟩ := Option.isSome_iff_exists.mp leads.readable
  obtain ⟨other, wanted, same⟩ := sound key (wkdServeKey_eq_some.mpr
    ⟨email, leads.asks, leads.login, mailKey_eq_some.mpr ⟨row, leads.found, readable⟩⟩)
  exact leads.alone other wanted (same.trans readable.symm)

/-- An identity that stands for a requested address and whose owner publishes is a wanted one, so
that one which misleads fails in one of these. -/
theorem Misleads.astray {row : IdentityRow} (leads : Misleads host tables request email row) :
    Astray host tables request := by
  by_contra right
  have requested : Requested host request (normalizeEmail host.lib email) := by
    by_contra foreign
    rcases leads.asks with ⟨hinted, -⟩ | ⟨-, found⟩
    · exact right (.hint leads hinted foreign)
    · exact right (.pattern leads (List.mem_of_find?_eq_some found) foreign)
  have stands : StandsFor tables.registry (normalizeEmail host.lib email) row := by
    by_contra other
    exact right (.catchall leads other)
  have publishes : (getSettings tables.settings row.userID).wkdPublish = true := by
    by_contra off
    exact right (.stranger leads (Bool.eq_false_iff.mpr off))
  obtain ⟨member, active⟩ := Registry.identityForEmail_active host.lib leads.found
  obtain ⟨localPart, hashed, same⟩ := requested
  exact leads.alone row ⟨member, active, ⟨localPart, hashed, same ▸ stands⟩, publishes⟩ rfl

theorem Astray.not_exact (astray : Astray host tables request) : ¬Exact host tables request := by
  intro exact
  have answered {row : IdentityRow} (wanted : Wanted host tables request row) :
      ∃ email key, Asks host tables request email ∧ PublishingLogin host tables email ∧
        mailKey host tables email = some key := by
    obtain ⟨key, served⟩ := Option.isSome_iff_exists.mp (exact.2 ⟨row, wanted⟩)
    obtain ⟨email, all⟩ := wkdServeKey_eq_some.mp served
    exact ⟨email, key, all⟩
  cases astray with
  | hint leads | pattern leads | catchall leads | stranger leads => exact leads.not_exact exact
  | unlisted wanted none =>
    obtain ⟨email, -, asks, -⟩ := answered wanted
    exact none email asks
  | unregistered wanted asks none =>
    obtain ⟨email, -, also, ⟨user, login, -⟩, -⟩ := answered wanted
    rw [asks.unique also, none] at login
    cases login
  | withheld wanted asks login off =>
    obtain ⟨email, -, also, ⟨user, found, on⟩, -⟩ := answered wanted
    rw [asks.unique also, login] at found
    cases found
    exact Bool.false_ne_true (off.symm.trans on)
  | keyless wanted asks none =>
    obtain ⟨email, key, also, -, found⟩ := answered wanted
    rw [asks.unique also, none] at found
    cases found

theorem exact_of_right (right : ¬Astray host tables request) : Exact host tables request := by
  constructor
  · intro key served
    obtain ⟨email, asks, login, found⟩ := wkdServeKey_eq_some.mp served
    obtain ⟨row, mailed, readable⟩ := mailKey_eq_some.mp found
    by_contra alone
    exact right (Misleads.astray ⟨asks, login, mailed, by rw [readable]; rfl,
      fun other wanted same => alone ⟨other, wanted, same.trans readable⟩⟩)
  · rintro ⟨row, wanted⟩
    obtain ⟨email, asks⟩ : ∃ email, Asks host tables request email := by
      by_contra none
      exact right (.unlisted wanted (not_exists.mp none))
    obtain ⟨user, login⟩ := Option.ne_none_iff_exists'.mp fun none =>
      right (.unregistered wanted asks none)
    obtain ⟨key, found⟩ := Option.ne_none_iff_exists'.mp fun none => right (.keyless wanted asks none)
    have publishes : (getSettings tables.settings user.id).wkdPublish = true := by
      by_contra off
      exact right (.withheld wanted asks login (Bool.eq_false_iff.mpr off))
    exact Option.isSome_iff_exists.mpr
      ⟨key, wkdServeKey_eq_some.mpr ⟨email, asks, ⟨user, login, publishes⟩, found⟩⟩

end Exactness

/-! A user with an address at the platform and one at a domain of his own. -/

def paddedDigest : Digest where
  sum text := (text ++ List.replicate 20 0).take 20
  length text := by
    rw [List.length_take, List.length_append, List.length_replicate]
    omega

/-- A server whose keys are stored as they are served. -/
def plainHost : Host where
  lib := .plain
  digest := paddedDigest
  mailDomain := ascii "elvish.local"
  armoredToBinary := some

def aliceIdentity (email key : String) : IdentityRow where
  userID := 1
  email := ascii email
  fingerprint := ascii key
  armoredPublic := ascii key
  primaryUID := []
  isDefault := true
  isActive := true

def aliceTables : Tables where
  registry := { Registry.empty with
    users := [⟨1, ascii "alice@elvish.local"⟩]
    identities := [aliceIdentity "alice@elvish.local" "A", aliceIdentity "alice@custom.org" "C"] }
  settings := []

def aliceRequest (hint : String) : KeyRequest where
  domain := ascii "custom.org"
  hash := wkdLocalPartHash .plain paddedDigest (ascii "alice")
  hint := ascii hint

end ElvishMail.Httpserver.WKD
