import ElvishMail.Go.Base64
import ElvishMail.Httpserver.Reply
import ElvishMail.Mailmeta.Domains
import ElvishMail.Mailmeta.Identities

/-!
# Accounts and their identities

`internal/httpserver`: the requests that create, revoke and delete identities.
`apiRegister` and `apiAccountKeyBootstrap` store an account key with the identities that
the browser sends along, `apiIdentitiesPost` adds one more. A request is a program of
statements, and requests are handled one after another.

Wrapped secrets are checked but not kept, and whether a new user is an administrator
makes no difference here. Rate limits, captcha and the switch for registrations are one
answer that comes with a request.
-/

namespace ElvishMail.Httpserver

open Go Smtp Mailmeta Semantics

/-- What a server is set up with. The parsers are those of OpenPGP keys, of which the
short fingerprint is returned, of UUIDs and of RFC 3339 times. -/
structure Site where
  lib : Library
  mailDomain : GoString
  fingerprint16 : GoString → Option GoString
  parseUUID : GoString → Option Nat
  parseTime : GoString → Option Time

def failing (text : String) : Option GoError := some (.plain (ascii text))

def Site.effectiveMailDomain (site : Site) : GoString :=
  let configured := trimLower site.lib site.mailDomain
  if configured = [] then ascii "elvish.local" else configured

def composeCanonicalEmail (lib : Library) (username domain : GoString) : GoString :=
  username ++ ascii "@" ++ trimLower lib domain

def isUsernameByte (byte : UInt8) : Bool :=
  inRange 97 122 byte || inRange 48 57 byte || (ascii "_-.").contains byte

def normalizeAndValidateUsername (lib : Library) (raw : GoString) : Option GoString :=
  let name := trimLower lib raw
  if name.length < 3 ∨ name.length > 64 ∨ (index name (ascii "..")).isSome ∨
      name.all isUsernameByte = false ∨ name.head? = some 0x2E ∨ name.getLast? = some 0x2E then none
  else some name

def isLowerAlnum (byte : UInt8) : Bool := inRange 97 122 byte || inRange 48 57 byte

def isDisposableGeneratedLocalPart (name : GoString) : Bool :=
  decide (10 ≤ name.length) && hasPrefix name (ascii "d_") && (name.drop 2).all isLowerAlnum

def validatePlusTagLocal (lib : Library) (tag : GoString) : Option GoError :=
  let tag := toLower lib (trimSpace tag)
  if tag.length < 1 ∨ tag.length > 30 then failing "plus tag must be 1-30 characters"
  else if tag.all (fun byte => isLowerAlnum byte || byte == 0x5F || byte == 0x2D) then none
  else failing "plus tag may only contain letters, digits, hyphens, and underscores"

def errReservedForDisposable : GoString :=
  ascii "this local part is reserved for disposable addresses; " ++
    ascii "set expires_at or choose a different address"

def validateLocalPart (lib : Library) (name : GoString) (isDisposable : Bool) : Option GoError :=
  if isDisposable then
    if isDisposableGeneratedLocalPart name then none else failing "invalid disposable address format"
  else match indexByte name 0x2B with
    | some position =>
      if name.count 0x2B ≠ 1 then failing "plus address must contain exactly one \"+\""
      else if (normalizeAndValidateUsername lib (name.take position)).isNone then
        failing "invalid base local part before \"+\""
      else validatePlusTagLocal lib (name.drop (position + 1))
    | none =>
      if (normalizeAndValidateUsername lib name).isNone then
        failing "invalid local part (use 3-64 letters, digits, dots, hyphens, or underscores)"
      else if isDisposableGeneratedLocalPart name then some (.plain errReservedForDisposable)
      else none

/-- An address cut at its last `@`, both parts of which must not be empty. -/
def splitMailbox (email : GoString) : Option (GoString × GoString) :=
  match lastIndexByte email 0x40 with
  | none => none
  | some position =>
    if position = 0 ∨ position = email.length - 1 then none
    else some (email.take position, email.drop (position + 1))

/-- The error for a domain that is neither the platform's nor usable. -/
def errDomainNotAllowed : GoString :=
  ascii "domain not allowed for your mailbox " ++
    ascii "(use your host domain or an active, MX-verified custom domain)"

section Requests

variable (site : Site)

def onPlatform (domain : GoString) : Bool :=
  let platform := normalizeEmail site.lib site.effectiveMailDomain
  platform != [] && domain == platform

def validateIdentityMailboxEmailForUser (userID : Nat) (email : GoString) (expiresAt : Option Time) :
    Registering (Option GoError) :=
  let email := trimLower site.lib email
  match splitMailbox email with
  | none => .done (failing "invalid mailbox address")
  | some (name, domain) =>
    let isDisposable := expiresAt.any (· != zeroTime)
    if onPlatform site domain then
      .done (validateLocalPart site.lib name isDisposable)
    else do
      match ← userMayUseDomainForMailbox site.lib userID domain with
      | .error err => return some err
      | .ok false => return some (.plain errDomainNotAllowed)
      | .ok true => return validateLocalPart site.lib name isDisposable

def isDeletedAddressReserved (address : GoString) : Registering (Except GoError Bool) :=
  let address := normalizeEmail site.lib address
  if address = [] then .done (.ok false) else .ask (.isDeletedAddressReserved address) .done

structure BootstrapIdentityBody where
  email : GoString
  armoredPublic : GoString
  primaryUID : GoString
  wrappedSecretB64 : GoString
  isDefault : Bool
deriving DecidableEq

/-- `accountKeyBootstrap`, as far as it is checked. -/
structure AccountKeyBootstrap where
  armoredPublic : GoString
  wrappedSecretB64 : GoString
  kdf : GoString
  kdfSaltB64 : GoString
  identities : List BootstrapIdentityBody
deriving DecidableEq

def parseBootstrapIdentity (userID : Nat) (first : Bool) (body : BootstrapIdentityBody) :
    Except GoString IdentityRow :=
  if body.email = [] ∨ body.armoredPublic = [] ∨ body.wrappedSecretB64 = [] then
    .error (ascii "identity entry missing fields")
  else match site.fingerprint16 body.armoredPublic with
    | none => .error (ascii "invalid identity armored_public")
    | some fingerprint =>
      if (base64Decode body.wrappedSecretB64).isNone then
        .error (ascii "invalid identity wrapped_secret_b64")
      else .ok
        { userID
          email := normalizeEmail site.lib body.email
          fingerprint
          armoredPublic := body.armoredPublic
          primaryUID := body.primaryUID
          isActive := true
          isDefault := body.isDefault || first
          avatarColor := normalizeIdentityAvatarColor site.lib [] body.email }

def parseBootstrapIdentities (userID : Nat) : Bool → List BootstrapIdentityBody →
    Except GoString (List IdentityRow)
  | _, [] => .ok []
  | first, body :: rest =>
    match parseBootstrapIdentity site userID first body with
    | .error text => .error text
    | .ok row =>
      match parseBootstrapIdentities userID false rest with
      | .error text => .error text
      | .ok rows => .ok (row :: rows)

/-- `parseAccountKeyBootstrap`: the fingerprint of the account key and the identities. -/
def parseAccountKeyBootstrap (userID : Nat) (body : AccountKeyBootstrap) :
    Except GoString (GoString × List IdentityRow) :=
  if body.armoredPublic = [] ∨ body.wrappedSecretB64 = [] ∨ body.kdf = [] ∨ body.kdfSaltB64 = [] then
    .error (ascii "armored_public, wrapped_secret_b64, kdf, kdf_salt_b64 required")
  else if !(["argon2id", "pbkdf2-sha256", "pbkdf2-sha256-600k"].map ascii).contains body.kdf then
    .error (ascii "kdf must be argon2id or pbkdf2-sha256[-600k]")
  else match base64Decode body.wrappedSecretB64, base64Decode body.kdfSaltB64 with
    | none, _ => .error (ascii "invalid wrapped_secret_b64")
    | some _, none => .error (ascii "invalid kdf_salt_b64")
    | some _, some salt =>
      if salt.length < 16 then .error (ascii "kdf_salt_b64 must be at least 16 bytes")
      else match site.fingerprint16 body.armoredPublic with
        | none => .error (ascii "invalid armored_public")
        | some fingerprint =>
          match parseBootstrapIdentities site userID true body.identities with
          | .error text => .error text
          | .ok [] => .error (ascii "at least one identity is required")
          | .ok rows => .ok (fingerprint, rows)

/-- `ensureBootstrapIdentitiesAvailable`: whether none of the addresses is reserved. -/
def ensureBootstrapIdentitiesAvailable : List IdentityRow → Registering (Except GoError Bool)
  | [] => .done (.ok true)
  | row :: rest => do
      match ← isDeletedAddressReserved site row.email with
      | .error err => return .error err
      | .ok true => return .ok false
      | .ok false => ensureBootstrapIdentitiesAvailable rest

def storedIdentity (row : IdentityRow) : IdentityRow :=
  { row with
    avatarDataURL := trimSpace row.avatarDataURL
    avatarColor := normalizeIdentityAvatarColor site.lib row.avatarColor row.email }

def storeParsedAccountBootstrap (userID : Nat) (rows : List IdentityRow) :
    Registering (Option WriteError) :=
  .ask (.write (.storeBootstrap userID (rows.map (storedIdentity site)))) .done

/-- `apiAccountKeyBootstrap`: the fingerprint and the number of identities that are shown. -/
def apiAccountKeyBootstrap (userID : Nat) :
    Option AccountKeyBootstrap → Registering (Except Refusal (GoString × Nat))
  | none => .done (.error (.status 400 (ascii "invalid json")))
  | some body =>
    match parseAccountKeyBootstrap site userID body with
    | .error text => .done (.error (.status 400 text))
    | .ok (fingerprint, rows) => do
        match ← ensureBootstrapIdentitiesAvailable site rows with
        | .error err => return .error (.internal (ascii "account key bootstrap reservation check") err)
        | .ok false =>
          return .error (.status 409 (ascii "identity address is reserved after account deletion"))
        | .ok true =>
          match ← storeParsedAccountBootstrap site userID rows with
          | some err => return .error (.internal (ascii "account key bootstrap") err.error)
          | none => return .ok (fingerprint, rows.length)

/-- `regBody`, as far as it is checked. -/
structure RegBody where
  username : GoString
  srpSaltB64 : GoString
  srpVerifierB64 : GoString
  srpGroup : GoString
  srpHash : GoString
  accountKey : Option AccountKeyBootstrap
deriving DecidableEq

/-- Whether `decodeB64Field` accepts a field. -/
def decodesField (text : GoString) : Bool := (base64Decode (trimSpace text)).any (· != [])

/-- Whether `ParseGroup` accepts the parameters. -/
def parsesGroup (groupName hashName : GoString) : Bool :=
  (groupName == [] || groupName == ascii "rfc5054-2048") && (hashName == [] || hashName == ascii "sha256")

def errUsernameRequired : GoString :=
  ascii "username required (3" ++ encodeRune 0x2013 ++ ascii "64 chars, letters/digits/._-)"

/-- What is checked before a user is created: the name and the account key of the request. -/
def checkRegBody (body : RegBody) : Except Refusal (GoString × AccountKeyBootstrap) :=
  match normalizeAndValidateUsername site.lib body.username with
  | none => .error (.status 400 errUsernameRequired)
  | some name =>
    match body.accountKey with
    | none => .error (.status 400
        (ascii "browser-generated srp_salt_b64, srp_verifier_b64, and account_key are required"))
    | some accountKey =>
      if trimSpace body.srpSaltB64 = [] ∨ trimSpace body.srpVerifierB64 = [] then
        .error (.status 400
          (ascii "browser-generated srp_salt_b64, srp_verifier_b64, and account_key are required"))
      else .ok (name, accountKey)

/-- Give up a registration: the user is deleted again, if that works. -/
def abandon (userID : Nat) (refusal : Refusal) : Registering (Except Refusal Nat) :=
  .ask (.write (.deleteUser userID)) fun _ => .done (.error refusal)

def finishRegister (userID : Nat) (accountKey : AccountKeyBootstrap) :
    Registering (Except Refusal Nat) :=
  match parseAccountKeyBootstrap site userID accountKey with
  | .error text => abandon userID (.status 400 text)
  | .ok (_, rows) => do
      match ← ensureBootstrapIdentitiesAvailable site rows with
      | .error err => abandon userID (.internal (ascii "register bootstrap reservation check") err)
      | .ok false =>
        abandon userID (.status 409 (ascii "identity address is reserved after account deletion"))
      | .ok true =>
        match ← storeParsedAccountBootstrap site userID rows with
        | some err => abandon userID (.internal (ascii "register bootstrap account key") err.error)
        | none => .ask .issueSession fun
            | some err => .done (.error (.internal (ascii "register issue session") err))
            | none => .done (.ok userID)

/-- `apiRegister`: the id of the new user. -/
def apiRegister (gate : Option Refusal) (body : Option RegBody) : Registering (Except Refusal Nat) :=
  match gate, body with
  | some refusal, _ => .done (.error refusal)
  | none, none => .done (.error (.status 400 (ascii "invalid json")))
  | none, some body =>
    match checkRegBody site body with
    | .error refusal => .done (.error refusal)
    | .ok (name, accountKey) => do
        let email := composeCanonicalEmail site.lib name site.effectiveMailDomain
        match ← isDeletedAddressReserved site email with
        | .error err => return .error (.internal (ascii "register reservation check") err)
        | .ok true => return .error (.status 409 (ascii "username is reserved after account deletion"))
        | .ok false =>
          if decodesField body.srpSaltB64 = false then
            return .error (.status 400 (ascii "invalid srp_salt_b64"))
          if decodesField body.srpVerifierB64 = false then
            return .error (.status 400 (ascii "invalid srp_verifier_b64"))
          if parsesGroup body.srpGroup body.srpHash = false then
            return .error (.status 400 (ascii "unsupported srp parameters"))
          .ask (.createUserWithSRP (trimLower site.lib email)) fun
            | .error .duplicateKey => .done (.error (.status 409 (ascii "username already taken")))
            | .error err =>
              .done (.error (.internal (ascii "register create srp user") err.error))
            | .ok userID => finishRegister site userID accountKey

structure IdentityPostBody where
  email : GoString
  armoredPublic : GoString
  primaryUID : GoString
  wrappedSecretB64 : GoString
  isDefault : Bool
  expiresAt : GoString
  avatarDataURL : GoString
  avatarColor : GoString
  statusBadgeEnabled : Bool
deriving DecidableEq

def avatarTypes : List GoString :=
  ["data:image/png;base64", "data:image/jpeg;base64", "data:image/gif;base64",
    "data:image/webp;base64"].map ascii

def normalizeAvatarDataURL (raw : GoString) : Except GoString GoString :=
  let raw := trimSpace raw
  if raw = [] then .ok []
  else if hasPrefix (toLower site.lib raw) (ascii "data:image/") = false then
    .error (ascii "avatar_data_url must be a data:image URL")
  else match indexByte raw 0x2C with
    | none => .error (ascii "avatar_data_url is malformed")
    | some position =>
      let header := raw.take position
      let payload := raw.drop (position + 1)
      if trimSpace payload = [] then .error (ascii "avatar_data_url is malformed")
      else if (avatarTypes.any fun start => hasPrefix (toLower site.lib header) start) = false then
        .error (ascii "avatar_data_url must be png, jpeg, gif, or webp")
      else match base64Decode payload with
        | none => .error (ascii "avatar_data_url base64 is invalid")
        | some decoded =>
          if decoded = [] then .error (ascii "avatar_data_url image is empty")
          else if decoded.length > 256 * 1024 then
            .error (ascii "avatar_data_url image exceeds 256 KB")
          else .ok (header ++ ascii "," ++ payload)

/-- The end of life of an identity, if the request names one. -/
def parseExpiresAt (text : GoString) : Except GoString (Option Time) :=
  if trimSpace text = [] then .ok none
  else match site.parseTime (trimSpace text) with
    | none => .error (ascii "invalid expires_at (RFC3339)")
    | some time => .ok (some time)

def postedIdentity (userID : Nat) (email : GoString) (body : IdentityPostBody) :
    Except GoString IdentityRow :=
  if (base64Decode body.wrappedSecretB64).isNone then .error (ascii "invalid wrapped_secret_b64")
  else match site.fingerprint16 body.armoredPublic with
    | none => .error (ascii "invalid armored_public")
    | some fingerprint =>
      match normalizeAvatarDataURL site body.avatarDataURL with
      | .error text => .error text
      | .ok avatarDataURL => .ok
          { userID
            email
            fingerprint
            armoredPublic := body.armoredPublic
            primaryUID := body.primaryUID
            isActive := true
            isDefault := body.isDefault
            avatarDataURL
            avatarColor := normalizeIdentityAvatarColor site.lib body.avatarColor email
            statusBadgeEnabled := body.statusBadgeEnabled }

/-- The end of `apiIdentitiesPost`, after the address was found to be free. -/
def finishIdentitiesPost (userID : Nat) (email : GoString) (expiresAt : Option Time)
    (body : IdentityPostBody) : Registering (Except Refusal GoString) :=
  match postedIdentity site userID email body with
  | .error text => .done (.error (.status 400 text))
  | .ok row => do
      match ← insertIdentityKey site.lib { row with expiresAt } with
      | some err => return .error (.internal (ascii "identity insert") err.error)
      | none => return .ok row.fingerprint

/-- `apiIdentitiesPost`: the fingerprint of the new identity. -/
def apiIdentitiesPost (userID : Nat) :
    Option IdentityPostBody → Registering (Except Refusal GoString)
  | none => .done (.error (.status 400 (ascii "invalid json")))
  | some body =>
    if body.email = [] ∨ body.armoredPublic = [] ∨ body.wrappedSecretB64 = [] then
      .done (.error (.status 400 (ascii "email, armored_public, wrapped_secret_b64 required")))
    else
      let email := normalizeEmail site.lib body.email
      match parseExpiresAt site body.expiresAt with
      | .error text => .done (.error (.status 400 text))
      | .ok expiresAt => do
          match ← validateIdentityMailboxEmailForUser site userID email expiresAt with
          | some err => return .error (.status 400 err.text)
          | none =>
            match ← isDeletedAddressReserved site email with
            | .error err => return .error (.internal (ascii "identity reservation check") err)
            | .ok true =>
              return .error (.status 409 (ascii "address is reserved after account deletion"))
            | .ok false =>
              match ← mailboxAddressGloballyTaken site.lib userID email with
              | .error err =>
                return .error (.internal (ascii "identity address availability") err)
              | .ok true => return .error (.status 409 (ascii "address already in use"))
              | .ok false => finishIdentitiesPost site userID email expiresAt body

/-- `resolveIdentitySelector`: an identity is named by its id or its fingerprint. -/
def resolveIdentitySelector (userID : Nat) (selector : GoString) :
    Registering (Except LookupError GoString) :=
  let selector := trimSpace selector
  if selector = [] then .done (.error .notFound)
  else match site.parseUUID selector with
    | none => .done (.ok (toUpper site.lib selector))
    | some id => .ask (.identityByID userID id) fun
        | .error err => .done (.error (.failed err))
        | .ok none => .done (.error .notFound)
        | .ok (some row) => .done (.ok (toUpper site.lib (trimSpace row.fingerprint)))

def onSelected (userID : Nat) (selector : GoString) (change : GoString → RegistryWrite)
    (refuse : WriteError → Refusal) : Registering (Option Refusal) := do
  match ← resolveIdentitySelector site userID selector with
  | .error .notFound => return some (.status 404 (ascii "identity not found"))
  | .error (.failed err) => return some (.internal (ascii "identity resolve") err)
  | .ok fingerprint => .ask (.write (change fingerprint)) fun err => .done (err.map refuse)

def missing (label : GoString) : WriteError → Refusal
  | .notFound => .status 404 (ascii "identity not found")
  | err => .internal label err.error

/-- `DELETE` on an identity. -/
def apiIdentityDelete (userID : Nat) (selector : GoString) : Registering (Option Refusal) :=
  onSelected site userID selector (.deleteIdentity userID ·)
    fun err => .internal (ascii "identity delete") err.error

/-- `default` of an identity. -/
def apiIdentityDefault (userID : Nat) (selector : GoString) : Registering (Option Refusal) :=
  onSelected site userID selector (.setDefaultIdentity userID ·) (missing (ascii "identity set default"))

/-- `apiIdentityRevoke`, with the certificate of the body. -/
def apiIdentityRevoke (userID : Nat) (selector : GoString) :
    Option GoString → Registering (Option Refusal)
  | none => do
      match ← resolveIdentitySelector site userID selector with
      | .error .notFound => return some (.status 404 (ascii "identity not found"))
      | .error (.failed err) => return some (.internal (ascii "identity resolve") err)
      | .ok _ => return some (.status 400 (ascii "invalid json"))
  | some certificate => do
      match ← resolveIdentitySelector site userID selector with
      | .error .notFound => return some (.status 404 (ascii "identity not found"))
      | .error (.failed err) => return some (.internal (ascii "identity resolve") err)
      | .ok fingerprint =>
        if trimSpace certificate = [] then
          return some (.status 400 (ascii "revocation_certificate required"))
        else
          .ask (.write (.revokeIdentity userID fingerprint)) fun err =>
            .done (err.map (missing (ascii "identity revoke")))

inductive AccountRequest where
  | register (gate : Option Refusal) (body : Option RegBody)
  | bootstrap (userID : Nat) (body : Option AccountKeyBootstrap)
  | post (userID : Nat) (body : Option IdentityPostBody)
  | revoke (userID : Nat) (selector : GoString) (certificate : Option GoString)
  | delete (userID : Nat) (selector : GoString)
  | default (userID : Nat) (selector : GoString)

def refusal? {Value : Type} : Except Refusal Value → Option Refusal
  | .error refusal => some refusal
  | .ok _ => none

def AccountRequest.handle : AccountRequest → Registering (Option Refusal)
  | register gate body => do return refusal? (← apiRegister site gate body)
  | bootstrap userID body => do return refusal? (← apiAccountKeyBootstrap site userID body)
  | post userID body => do return refusal? (← apiIdentitiesPost site userID body)
  | revoke userID selector certificate => apiIdentityRevoke site userID selector certificate
  | delete userID selector => apiIdentityDelete site userID selector
  | default userID selector => apiIdentityDefault site userID selector

/-- The registry under requests, the statements of each of which meet moments in turn. -/
def accounts : Machine Registry (AccountRequest × (Nat → Moment)) where
  step registry action :=
    some ((action.1.handle site).run (RegistryStatement.answer site.lib) action.2 registry).2

end Requests

end ElvishMail.Httpserver
