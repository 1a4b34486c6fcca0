import ElvishMail.Httpserver.DomainKeys

/-!
# Custom domains

`internal/httpserver/api_custom_domains.go` and `api_admin_domains.go`: users and
administrators add, verify and delete domains, set who catches their mail, and share them.

What DNS says at the time of a verification comes with the request, as do its random
token and key. The DNS guidance and the lists of issues in the replies are left out.
-/

namespace ElvishMail.Httpserver

open Go Smtp Mailmeta Semantics

structure Drawn where
  token : GoString
  key : Except GoError GoString

structure DomainChecks where
  ownership : Bool
  mx : Bool
  spf : Bool
  dkim : Bool
  dmarc : Bool
deriving DecidableEq

namespace DomainChecks

/-- `Ready` of the delivery checks. -/
def ready (checks : DomainChecks) : Bool := checks.mx && checks.spf && checks.dkim && checks.dmarc

def status (checks : DomainChecks) : GoString :=
  if checks.ownership && checks.ready then ascii "active" else ascii "pending"

end DomainChecks

def domainRefusal (label : GoString) : WriteError → Refusal
  | .notFound => .status 404 (ascii "domain not found")
  | err => .internal label err.error

section Requests

variable (site : DomainSite)

/-- The end of both requests that add a domain, the labels of which start differently. -/
def insertDomain (label : GoString) (userID : Nat) (domain : GoString) (drawn : Drawn) :
    Registering (Except Refusal GoString) := do
  let host := ascii "_elvish-verify." ++ domain
  let value := ascii "elvish-domain-verify=" ++ drawn.token
  match ← insertOwnedDomain site.lib userID domain host value with
  | some .duplicateKey => return .error (.status 409 (ascii "domain already registered"))
  | some err => return .error (.internal (label ++ ascii "domain add") err.error)
  | none =>
    match ← ensureCustomDomainDKIM site userID domain drawn.key with
    | none => return .ok domain
    | some err =>
      let _ ← deleteOwnedDomain site.lib userID domain
      return .error (.internal (label ++ ascii "domain dkim provision") err)

/-- `apiCustomDomainsAdd`: the name of the new domain. -/
def apiCustomDomainsAdd (userID : Nat) (body : Option GoString) (drawn : Drawn) :
    Registering (Except Refusal GoString) :=
  match body with
  | none => .done (.error (.status 400 (ascii "invalid json")))
  | some raw =>
    match normalizeDNSDomain site.lib raw with
    | .error err => .done (.error (.status 400 err.text))
    | .ok domain => do
        match ← isDeletedAddressReserved site.toSite domain with
        | .error err => return .error (.internal (ascii "domain reservation check") err)
        | .ok true =>
          return .error (.status 409 (ascii "domain is reserved after account deletion"))
        | .ok false => insertDomain site [] userID domain drawn

structure AdminDomainAddBody where
  domain : GoString
  ownerEmail : GoString
deriving DecidableEq

def userByEmail (lib : Library) (email : GoString) : Registering (Except GoError (Option UserRow)) :=
  .ask (.userByEmail (trimLower lib email)) .done

def apiAdminDomainsAdd (body : Option AdminDomainAddBody) (drawn : Drawn) :
    Registering (Except Refusal GoString) :=
  match body with
  | none => .done (.error (.status 400 (ascii "invalid json")))
  | some body =>
    match normalizeDNSDomain site.lib body.domain with
    | .error err => .done (.error (.status 400 err.text))
    | .ok domain => do
        match ← isDeletedAddressReserved site.toSite domain with
        | .error err => return .error (.internal (ascii "admin domain reservation check") err)
        | .ok true =>
          return .error (.status 409 (ascii "domain is reserved after account deletion"))
        | .ok false =>
          let ownerEmail := trimLower site.lib body.ownerEmail
          if ownerEmail = [] then return .error (.status 400 (ascii "owner_email required"))
          else
            match ← userByEmail site.lib ownerEmail with
            | .error err => return .error (.internal (ascii "admin domain owner lookup") err)
            | .ok none => return .error (.status 404 (ascii "owner user not found"))
            | .ok (some owner) => insertDomain site (ascii "admin ") owner.id domain drawn

def deleteOwnedDomainFiles (label : GoString) (userID : Nat) (domain : GoString) :
    Registering (Option Refusal) := do
  match ← deleteOwnedDomain site.lib userID domain with
  | some err => return some (domainRefusal label err)
  | none =>
    removeCustomDomainDKIMFiles site domain
    return none

def apiCustomDomainsDelete (userID : Nat) (domain : GoString) : Registering (Option Refusal) :=
  deleteOwnedDomainFiles site (ascii "domain delete") userID domain

def ownerUserID (row : DomainRow) : Nat := row.ownerUserID.getD 0

/-- `GetCustomDomainByName`, which reads the name like an address. -/
def getCustomDomainByName (lib : Library) (domain : GoString) :
    Registering (Except GoError (Option DomainRow)) :=
  .ask (.domainByName (normalizeEmail lib domain)) .done

def withAdminDomain (name : GoString) (next : DomainRow → Registering (Option Refusal)) :
    Registering (Option Refusal) := do
  match ← getCustomDomainByName site.lib name with
  | .error err => return some (.internal (ascii "admin domain load") err)
  | .ok none => return some (.status 404 (ascii "domain not found"))
  | .ok (some row) => next row

def apiAdminDomainsDelete (name : GoString) : Registering (Option Refusal) :=
  withAdminDomain site name fun row =>
    deleteOwnedDomainFiles site (ascii "admin domain delete") (ownerUserID row) row.domain

def saveVerification (label : GoString) (userID : Nat) (domain : GoString) (checks : DomainChecks) :
    Registering (Option Refusal) := do
  match ← updateDomainVerification site.lib userID domain checks.mx checks.spf checks.dkim checks.dmarc
      checks.status with
  | some err => return some (.internal label err.error)
  | none => return none

def apiCustomDomainsVerify (userID : Nat) (domain : GoString) (key : Except GoError GoString)
    (checks : DomainChecks) : Registering (Option Refusal) :=
  .ask (.ownedDomains userID) fun
    | .error err => .done (some (.internal (ascii "domains list") err))
    | .ok list =>
      match list.find? (·.domain == domain) with
      | none => .done (some (.status 404 (ascii "domain not found")))
      | some _ => do
          match ← ensureCustomDomainDKIM site userID domain key with
          | some err => return some (.internal (ascii "domain dkim provision") err)
          | none => saveVerification site (ascii "domain verify save") userID domain checks

def ensureCustomDomainDKIMForDomainName (domain : GoString) (key : Except GoError GoString) :
    Registering (Option GoError) := do
  match ← getCustomDomainByName site.lib domain with
  | .error err => return some err
  | .ok none => return some LookupError.notFound.error
  | .ok (some row) => ensureCustomDomainDKIM site (ownerUserID row) domain key

def apiAdminDomainsVerify (name : GoString) (key : Except GoError GoString) (checks : DomainChecks) :
    Registering (Option Refusal) :=
  withAdminDomain site name fun row => do
    match ← ensureCustomDomainDKIMForDomainName site row.domain key with
    | some err => return some (.internal (ascii "admin domain dkim provision") err)
    | none =>
      saveVerification site (ascii "admin domain verify save") (ownerUserID row) row.domain checks

/-- `SetDomainCatchall` as a request ends with it. -/
def saveCatchall (userID : Nat) (domain fingerprint : GoString) : Registering (Option Refusal) := do
  match ← setDomainCatchall site.lib userID domain fingerprint with
  | some err => return some (domainRefusal (ascii "catchall") err)
  | none => return none

/-- `apiCustomDomainsCatchall`; without a selector the catch-all is removed. -/
def apiCustomDomainsCatchall (userID : Nat) (domain : GoString) (body : Option (Option GoString)) :
    Registering (Option Refusal) :=
  match body with
  | none => .done (some (.status 400 (ascii "invalid json")))
  | some selector =>
    let raw := trimSpace (selector.getD [])
    if raw = [] then saveCatchall site userID domain []
    else do
      match ← resolveIdentitySelector site.toSite userID raw with
      | .error .notFound => return some (.status 404 (ascii "identity not found"))
      | .error (.failed err) => return some (.internal (ascii "catchall identity resolve") err)
      | .ok fingerprint =>
        match ← identityByFingerprint site.lib userID fingerprint with
        | .error err => return some (.internal (ascii "catchall identity lookup") err)
        | .ok none => return some (.status 404 (ascii "identity not found"))
        | .ok (some identity) =>
          if identity.isActive = false then
            return some (.status 400 (ascii "identity must be active for catch-all delivery"))
          else saveCatchall site userID domain fingerprint

structure AdminDomainSharingBody where
  shareMode : GoString
  allowlistUserIDs : List GoString
deriving DecidableEq

def parseAllowlist (body : AdminDomainSharingBody) : Option (List Nat) :=
  body.allowlistUserIDs.mapM fun raw => site.parseUUID (trimSpace raw)

def apiAdminDomainsPatchSharing (name : GoString) (body : Option AdminDomainSharingBody) :
    Registering (Option Refusal) :=
  match normalizeDNSDomain site.lib name with
  | .error err => .done (some (.status 400 err.text))
  | .ok domain =>
    match body with
    | none => .done (some (.status 400 (ascii "invalid json")))
    | some body =>
      let mode := trimLower site.lib body.shareMode
      if validShareMode site.lib mode = false then
        .done (some (.status 400 (ascii "invalid share_mode")))
      else if mode = shareModeAllowlist ∧ body.allowlistUserIDs = [] then
        .done (some (.status 400
          (ascii "allowlist_user_ids required when share_mode is allowlist")))
      else match parseAllowlist site body with
        | none => .done (some (.status 400 (ascii "invalid allowlist_user_ids entry")))
        | some userIDs => do
            match ← setDomainShareMode site.lib domain mode with
            | some err => return some (domainRefusal (ascii "domain share_mode") err)
            | none =>
              match ← replaceDomainAllowlist site.lib domain
                  (if mode = shareModeAllowlist then userIDs else []) with
              | some err => return some (.internal (ascii "domain allowlist") err.error)
              | none => return none

/-- A request about custom domains. A name is an element of the path. -/
inductive DomainRequest where
  | add (userID : Nat) (body : Option GoString) (drawn : Drawn)
  | delete (userID : Nat) (name : GoString)
  | verify (userID : Nat) (name : GoString) (key : Except GoError GoString) (checks : DomainChecks)
  | catchall (userID : Nat) (name : GoString) (body : Option (Option GoString))
  | adminAdd (body : Option AdminDomainAddBody) (drawn : Drawn)
  | adminDelete (name : GoString)
  | adminVerify (name : GoString) (key : Except GoError GoString) (checks : DomainChecks)
  | adminSharing (name : GoString) (body : Option AdminDomainSharingBody)

/-- `handleCustomDomainsAPI` goes on with the domain that a path names. -/
def onNamed (name : GoString) (next : GoString → Registering (Option Refusal)) :
    Registering (Option Refusal) :=
  match normalizeDNSDomain site.lib name with
  | .error err => .done (some (.status 400 err.text))
  | .ok domain => next domain

/-- `handleAdminDomainsAPI` goes on with the name in lower case. -/
def onAdminNamed (name : GoString) (next : GoString → Registering (Option Refusal)) :
    Registering (Option Refusal) :=
  let name := trimLower site.lib name
  if name = [] then .done (some (.status 404 (ascii "404 page not found"))) else next name

def DomainRequest.handle : DomainRequest → Registering (Option Refusal)
  | add userID body drawn => do return refusal? (← apiCustomDomainsAdd site userID body drawn)
  | delete userID name => onNamed site name (apiCustomDomainsDelete site userID)
  | verify userID name key checks =>
    onNamed site name fun domain => apiCustomDomainsVerify site userID domain key checks
  | catchall userID name body =>
    onNamed site name fun domain => apiCustomDomainsCatchall site userID domain body
  | adminAdd body drawn => do return refusal? (← apiAdminDomainsAdd site body drawn)
  | adminDelete name => onAdminNamed site name (apiAdminDomainsDelete site)
  | adminVerify name key checks =>
    onAdminNamed site name fun name => apiAdminDomainsVerify site name key checks
  | adminSharing name body =>
    onAdminNamed site name fun name => apiAdminDomainsPatchSharing site name body

inductive SiteRequest where
  | account (request : AccountRequest)
  | domain (request : DomainRequest)

def SiteRequest.handle : SiteRequest → Registering (Option Refusal)
  | account request => request.handle site.toSite
  | domain request => request.handle site

def tenancy : Machine Registry (SiteRequest × (Nat → Moment)) where
  step registry action :=
    some ((action.1.handle site).run (RegistryStatement.answer site.lib) action.2 registry).2

end Requests

end ElvishMail.Httpserver
