import ElvishMail.Go.Calendar
import ElvishMail.Httpserver.CustomDomains
import ElvishMail.Httpserver.Leftovers
import ElvishMail.Mailops.Sweep
import ElvishMail.Semantics.Handlers

/-!
# Addresses of deleted accounts

`internal/store/account_lifecycle.go` on the table `deleted_address_reservations`, and the
ways in which a user is deleted: `purgeUserAccount`, for a request or for the sweep, and
`apiAdminUsersDelete`. The table stands beside the registry, on which users, identities and
domains are requested, and beside the mail; the programs of the other modules run on all
three, one after another.

A user whose registration is given up is deleted before he has any mail.
-/

namespace ElvishMail.Httpserver.Reservations

open Go Smtp Mailmeta Mailstore Mailops Semantics

/-- `DeletedAddressReservation`, as the lists of a user's names give it: its times are zero. -/
structure DeletedAddressReservation where
  address : GoString
  addressKind : GoString
deriving DecidableEq

/-- A row of `deleted_address_reservations`, whose key is a hash. -/
structure ReservationRow where
  addressKind : GoString
  reservedAt : Time
  expiresAt : Time
deriving DecidableEq

structure Estate where
  registry : Registry
  tables : Tables
  outbox : List OutboxRow
  links : List Maillinks.Row
  keyed : (tables.manifests.map ManifestRow.messageID).Nodup
  reservations : GoString → Option ReservationRow

/-- What the server is set up with; the hash of an address may have a key. -/
structure EstateSite extends DomainSite where
  backends : Backends
  hash : GoString → GoString

/-- What a statement meets: how it ends, and the time of the database. -/
structure Instant where
  outcome : Outcome GoError
  now : Time

def owners (registry : Registry) : List (Nat × GoString) :=
  registry.domains.filterMap fun row => row.ownerUserID.map fun owner => (owner, row.domain)

namespace Estate

variable (estate : Estate)

def premises : Premises where
  tables := estate.tables
  outbox := estate.outbox
  links := estate.links
  domains := owners estate.registry
  users := estate.registry.users.map UserRow.id
  keyed := estate.keyed

def withMail (premises : Premises) : Estate :=
  { estate with
    tables := premises.tables
    outbox := premises.outbox
    links := premises.links
    keyed := premises.keyed }

/-- The time until which an address that is deleted now is reserved: `AddDate(2, 0, 0)`. -/
def reservedUntil (now : Time) : Time := addDate (now / day) 2 0 0 * day + now % day

/-- One row of `ReserveDeletedAddresses`. -/
def reserve (site : EstateSite) (now : Time) (reservation : DeletedAddressReservation) : Estate :=
  if normalizeEmail site.lib reservation.address = [] then estate
  else
    { estate with
      reservations := Function.update estate.reservations
        (site.hash (normalizeEmail site.lib reservation.address))
        (some ⟨trimSpace reservation.addressKind, now, reservedUntil now⟩) }

def isReserved (site : EstateSite) (now : Time) (address : GoString) : Bool :=
  (estate.reservations (site.hash address)).any fun row => now < row.expiresAt

end Estate

section Names

variable (lib : Library) (registry : Registry) (userID : Nat)

def firsts (rows : List DeletedAddressReservation) : List DeletedAddressReservation :=
  rows.foldl (fun seen row => if seen.any (·.address == row.address) then seen else seen ++ [row]) []

def listUserOwnedAddresses : List DeletedAddressReservation :=
  let primary := (registry.users.filter (·.id == userID)).map UserRow.email
  let identities := (registry.identities.filter (·.userID == userID)).map IdentityRow.email
  let aliases := (registry.aliases.filter (·.userID == userID)).map AliasRow.email
  let named (kind : String) (addresses : List GoString) : List DeletedAddressReservation :=
    (addresses.map fun address => ⟨normalizeEmail lib address, ascii kind⟩).filter (·.address ≠ [])
  firsts (named "primary" primary ++ named "identity" identities ++ named "alias" aliases)

def listUserOwnedDomains : List DeletedAddressReservation :=
  (((registry.domains.filter (·.ownerUserID == some userID)).map DomainRow.domain).map
    fun domain => ⟨normalizeEmail lib domain, ascii "custom_domain"⟩).filter (·.address ≠ [])

/-- The name is an address or a domain of the user. -/
def Holds (name : GoString) : Prop :=
  name ≠ [] ∧
    ((∃ row ∈ registry.users, row.id = userID ∧ normalizeEmail lib row.email = name) ∨
      (∃ row ∈ registry.identities, row.userID = userID ∧ normalizeEmail lib row.email = name) ∨
      (∃ row ∈ registry.aliases, row.userID = userID ∧ normalizeEmail lib row.email = name) ∨
      ∃ row ∈ registry.domains, row.ownerUserID = some userID ∧ normalizeEmail lib row.domain = name)

instance (name : GoString) : Decidable (Holds lib registry userID name) :=
  inferInstanceAs (Decidable (_ ∧ _))

end Names

/-- The statements: those of requests, those of purges, and those on the reservations. -/
inductive EstateQuery where
  | registry (statement : RegistryStatement)
  | purge (userID : Nat) (statement : PurgeStatement)
  | listUserOwnedAddresses (userID : Nat)
  | listUserOwnedDomains (userID : Nat)
  | reserveDeletedAddresses (reservations : List DeletedAddressReservation) (now : Time)

namespace EstateQuery

abbrev Answer : EstateQuery → Type
  | registry statement => statement.Answer
  | purge _ statement => statement.Answer
  | listUserOwnedAddresses _ | listUserOwnedDomains _ => Except GoError (List DeletedAddressReservation)
  | reserveDeletedAddresses .. => Option GoError

def onRegistry (userID : Nat) (registry : Registry) : PurgeStatement → Registry
  | .deleteOwnedDomain domain => registry.withoutDomain userID domain
  | .deleteUser => registry.withoutUser userID
  | _ => registry

def reserved (site : EstateSite) (estate : Estate) (now : Time) : RegistryStatement → Bool
  | .isDeletedAddressReserved address => estate.isReserved site now address
  | _ => false

def answer (site : EstateSite) (instant : Instant) :
    (query : EstateQuery) → Estate → query.Answer × Estate
  | registry statement, estate =>
    let moment := ⟨instant.outcome, instant.now, reserved site estate instant.now statement⟩
    let (reply, after) := statement.answer site.lib moment estate.registry
    (reply, { estate with registry := after })
  | purge userID statement, estate =>
    let (reply, premises) := statement.answer userID instant.outcome estate.premises
    let after :=
      if instant.outcome.applied then onRegistry userID estate.registry statement else estate.registry
    (reply, { estate.withMail premises with registry := after })
  | listUserOwnedAddresses userID, estate =>
    (instant.outcome.read (Reservations.listUserOwnedAddresses site.lib estate.registry userID), estate)
  | listUserOwnedDomains userID, estate =>
    (instant.outcome.read (Reservations.listUserOwnedDomains site.lib estate.registry userID), estate)
  | reserveDeletedAddresses reservations now, estate =>
    instant.outcome.exec
      (fun estate => reservations.foldl (fun estate row => estate.reserve site now row) estate) estate

end EstateQuery

abbrev EstateProgram (Value : Type) : Type := Program EstateQuery EstateQuery.Answer Value

section Deleting

variable (site : EstateSite)

def runPurge (userID : Nat) (program : PurgeStatements (Option GoError)) :
    EstateProgram (Option GoError) :=
  program.handle fun statement => .ask (.purge userID statement) .done

/-- `ReserveDeletedAddresses`: nothing is asked for no names. -/
def reserveDeletedAddresses (reservations : List DeletedAddressReservation) (now : Time) :
    EstateProgram (Option GoError) :=
  if reservations.length = 0 then .done none
  else .ask (.reserveDeletedAddresses reservations now) .done

/-- `purgeUserAccount` with the reservations that it writes. -/
def purgeUserAccount (userID : Nat) (folders : Except GoError (List GoString)) (now : Time) :
    EstateProgram (Option GoError) :=
  .ask (.listUserOwnedAddresses userID) fun
    | .error err => .done (some err)
    | .ok reservations => .ask (.listUserOwnedDomains userID) fun
        | .error err => .done (some err)
        | .ok domainReservations =>
          (reserveDeletedAddresses (reservations ++ domainReservations) now).check
            (runPurge userID ((deleteUserProtectedLinks site.backends).check
              (purgeMail site.backends userID folders)))

/-- `apiAdminUsersDelete`; an id that cannot be parsed is `none`. -/
def apiAdminUsersDelete (gate : Option Refusal) (adminID : Nat) (userID : Option Nat) :
    EstateProgram (Option Refusal) :=
  match gate, userID with
  | some refusal, _ => .done (some refusal)
  | none, none => .done (some (.status 400 (ascii "invalid user id")))
  | none, some userID =>
    if adminID = userID then .done (some (.status 400 (ascii "cannot delete yourself")))
    else .ask (.purge userID .deleteUser) fun
      | some .notFound =>
        .done (some (.internal (ascii "delete user") (.plain (ascii "store: not found"))))
      | some (.failed err) => .done (some (.internal (ascii "delete user") err))
      | none =>
        if site.backends.hasSessions then .ask (.purge userID .deleteUserSessions) fun _ => .done none
        else .done none

def runRequest (request : SiteRequest) : EstateProgram (Option Refusal) :=
  (request.handle site.toDomainSite).handle fun statement => .ask (.registry statement) .done

/-- What happens: a request about accounts or domains, a purge, an administrator's deletion,
the sweep of old reservations, or something with the mail. -/
inductive Event where
  | request (request : SiteRequest) (instants : Nat → Instant)
  | purge (userID : Nat) (folders : Except GoError (List GoString)) (now : Time)
      (instants : Nat → Instant)
  | adminDelete (gate : Option Refusal) (adminID : Nat) (userID : Option Nat)
      (instants : Nat → Instant)
  | deleteExpired (now : Time) (outcome : Outcome GoError)
  | mail (premises : Premises)

/-- `DeleteExpiredDeletedAddressReservations`. -/
def deleteExpired (now : Time) (estate : Estate) : Estate :=
  { estate with
    reservations := fun key => (estate.reservations key).filter fun row => now < row.expiresAt }

def step (estate : Estate) : Event → Option Estate
  | .request request instants =>
    some ((runRequest site request).run (EstateQuery.answer site) instants estate).2
  | .purge userID folders now instants =>
    some ((purgeUserAccount site userID folders now).run (EstateQuery.answer site) instants estate).2
  | .adminDelete gate adminID userID instants =>
    some ((apiAdminUsersDelete site gate adminID userID).run (EstateQuery.answer site) instants
      estate).2
  | .deleteExpired now outcome => some (outcome.exec (deleteExpired now) estate).2
  | .mail premises => some (estate.withMail premises)

def estates : Machine Estate Event := ⟨step site⟩

end Deleting

end ElvishMail.Httpserver.Reservations
