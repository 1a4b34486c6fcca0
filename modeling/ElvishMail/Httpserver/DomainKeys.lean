import ElvishMail.Httpserver.Accounts
import ElvishMail.Mailworker.Payload

/-!
# DKIM keys of custom domains

`internal/httpserver/custom_domain_dkim.go`: each custom domain has a private key in a file
that is named after it, and its row says under which selector the key is used. A key is
generated when a domain is added, or later when it is verified and has none.

What a run draws at random, a key or a token, comes with the request. The directory is the
one that `customDomainDKIMDir` gives, and the status of the platform's own key is the one
that is found at the time.
-/

namespace ElvishMail.Httpserver

open Go Smtp Mailmeta Semantics
open Mailworker (Signer filepathBase)

/-- `adminDKIMKeyStatus`. -/
structure DKIMKeyStatus where
  path : GoString := []
  selector : GoString := []
  domain : GoString := []
  dnsName : GoString := []
  present : Bool := false
  configured : Bool := false
  publicTXT : GoString := []
  error : GoString := []
deriving DecidableEq

structure DomainSite extends Site where
  customDomainDKIMDir : GoString
  newRSASignerFromPEM : GoString → Except GoError Signer
  publicKeyTXT : Signer → Except GoError GoString
  dkimDomain : GoString
  dkimKeyStatus : DKIMKeyStatus

section Names

variable (lib : Library)

def validDNSName (raw : GoString) : Bool :=
  let raw := trimLower lib raw
  raw != [] && decide (raw.length ≤ 253) && (raw.splitOnP (· == 0x2E)).all validLabel

def normalizeDNSDomain (raw : GoString) : Except GoError GoString :=
  let raw := trimDots (trimLower lib raw)
  if raw = [] then .error (.plain (ascii "domain required"))
  else if validDNSName lib raw = false ∨ raw.contains 0x2E = false then
    .error (.plain (ascii "domain must be a valid DNS name"))
  else .ok raw

def customDomainDKIMKeyBasename (domain : GoString) : Except GoError GoString :=
  match normalizeDNSDomain lib domain with
  | .error err => .error err
  | .ok domain =>
    let base := domain ++ ascii ".pem"
    if filepathBase base = base then .ok base
    else .error (.plain (ascii "invalid dkim key basename"))

/-- `secretFileUnderDir`: the file of a directory that a name stands for. A name without a
separator that is not `..` stays in the directory. -/
def secretFileUnderDir (dir base : GoString) : Except GoError GoString :=
  let raw := trimSpace base
  if raw = [] ∨ raw = ascii "." ∨ (index raw (ascii "..")).isSome ∨ raw.contains 0x2F then
    .error (.plain (ascii "invalid secret basename"))
  else if dir = [] ∨ dir = ascii "." then .error (.plain (ascii "secret directory required"))
  else if filepathBase raw = [] ∨ filepathBase raw = ascii "." then
    .error (.plain (ascii "invalid secret basename"))
  else .ok (filepathBase raw)

def defaultAdminDKIMSelector : GoString := ascii "mail"

def newSelector : GoString :=
  let selector := trimLower lib defaultAdminDKIMSelector
  if selector = [] then ascii "mail" else selector

end Names

section Keys

variable (site : DomainSite)

/-- The part of `ensureCustomDomainDKIM` that makes a key. -/
def provisionCustomDomainDKIM (userID : Nat) (domain : GoString) (key : Except GoError GoString) :
    Registering (Option GoError) :=
  .ask .makeKeyDir fun
    | some err => .done (some (.wrap (ascii "dkim domains dir: ") err))
    | none =>
      match customDomainDKIMKeyBasename site.lib domain with
      | .error err => .done (some err)
      | .ok base =>
        match secretFileUnderDir site.customDomainDKIMDir base with
        | .error err => .done (some err)
        | .ok file =>
          match key with
          | .error err => .done (some (.wrap (ascii "dkim generate: ") err))
          | .ok pem => .ask (.write (.writeKeyFile file pem)) fun
              | some err => .done (some (.wrap (ascii "dkim write: ") err.error))
              | none => do
                  match ← setOwnedDomainDKIM site.lib userID domain (newSelector site.lib) base with
                  | none => return none
                  | some err => .ask (.write (.removeKeyFile file)) fun _ => .done (some err.error)

/-- `ensureCustomDomainDKIM`, with the key that it generates if it comes to that. -/
def ensureCustomDomainDKIM (userID : Nat) (domain : GoString) (key : Except GoError GoString) :
    Registering (Option GoError) :=
  if site.customDomainDKIMDir = [] then .done (failing "server root not set")
  else
    let domain := trimLower site.lib domain
    if domain = [] then .done (failing "empty domain")
    else do
      match ← getDomainDKIMByName site.lib domain with
      | .error err => return some err
      | .ok none => return some LookupError.notFound.error
      | .ok (some (selector, keyRef)) =>
        if keyRef ≠ [] ∧ selector ≠ [] then return none
        else provisionCustomDomainDKIM site userID domain key

def removeCustomDomainDKIMFiles (domain : GoString) : Registering Unit :=
  if site.customDomainDKIMDir = [] then .done ()
  else match customDomainDKIMKeyBasename site.lib domain with
    | .error _ => .done ()
    | .ok base =>
      match secretFileUnderDir site.customDomainDKIMDir base with
      | .error _ => .done ()
      | .ok file => .ask (.write (.removeKeyFile file)) fun _ => .done ()

def unprovisionedStatus (domain : GoString) : DKIMKeyStatus :=
  if site.lib.equalFold domain (trimLower site.lib site.dkimDomain) then site.dkimKeyStatus
  else
    { domain
      selector := newSelector site.lib
      error := ascii "per-domain DKIM not provisioned" }

def keyFileStatus (domain selector file : GoString) (read : Except GoError (Option GoString)) :
    DKIMKeyStatus :=
  let path := site.customDomainDKIMDir ++ ascii "/" ++ file
  let failed (error : GoString) : DKIMKeyStatus := { path, selector, domain, error }
  match read with
  | .error err => failed err.text
  | .ok none => failed (ascii "open " ++ path ++ ascii ": no such file or directory")
  | .ok (some raw) =>
    match site.newRSASignerFromPEM raw with
    | .error err => failed err.text
    | .ok signer =>
      match site.publicKeyTXT signer with
      | .error err => failed err.text
      | .ok txt =>
        { path
          selector
          domain
          present := true
          configured := true
          publicTXT := trimSpace txt
          dnsName :=
            if selector ≠ [] ∧ domain ≠ [] then selector ++ ascii "._domainkey." ++ domain
            else [] }

def storedKeyStatus (domain selector keyRef : GoString) : Registering DKIMKeyStatus :=
  match customDomainDKIMKeyBasename site.lib domain with
  | .error err => .done { domain, error := err.text }
  | .ok wantBase =>
    let safeRef := filepathBase keyRef
    if safeRef ≠ keyRef ∨ safeRef ≠ wantBase then
      .done { domain, error := ascii "invalid dkim key reference" }
    else .ask (.readKeyFile safeRef) fun read =>
      .done (keyFileStatus site domain selector safeRef read)

def dkimKeyStatusForDomain (domain : GoString) : Registering DKIMKeyStatus :=
  let domain := trimLower site.lib domain
  if domain = [] then .done { domain, error := ascii "empty domain" }
  else if site.customDomainDKIMDir = [] then .done (unprovisionedStatus site domain)
  else do
    match ← getDomainDKIMByName site.lib domain with
    | .error _ | .ok none => return unprovisionedStatus site domain
    | .ok (some (selector, keyRef)) =>
      if keyRef ≠ [] ∧ selector ≠ [] then storedKeyStatus site domain selector keyRef
      else return unprovisionedStatus site domain

end Keys

end ElvishMail.Httpserver
