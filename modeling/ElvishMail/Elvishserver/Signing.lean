import ElvishMail.Httpserver.DomainEffects

/-!
# Signing mail

The server makes the keys of custom domains, and a worker of the same process signs outgoing
mail with them. `resolveDKIM` goes by the row of a domain. A key file is read once: from there
on its key stays in a map of the worker, of which the server knows nothing.

Requests and deliveries take turns as a whole. The platform's own key is configured once.
-/

namespace ElvishMail.Elvishserver

open Go Smtp Mailmeta Mailworker Httpserver Semantics

/-- The platform's own key: its settings, as `main` trims them, and what reading its file
gives. -/
structure PlatformKey where
  selector : GoString
  domain : GoString
  path : GoString
  file : Except GoError (Option GoString)
  domain_trimmed : trimSpace domain = domain
  path_trimmed : trimSpace path = path

/-- The signer that `main` starts the worker with. -/
def PlatformKey.signer (site : DomainSite) (key : PlatformKey) : Option Signer :=
  if key.selector = [] ∨ key.domain = [] ∨ key.path = [] then none
  else match key.file with
    | .error _ | .ok none => none
    | .ok (some raw) => (site.newRSASignerFromPEM raw).toOption

/-- `dkimKeyStatus`, of settings that went through `WithDKIMConfig`. -/
def dkimKeyStatus (site : DomainSite) (key : PlatformKey) : DKIMKeyStatus :=
  let selector := trimSpace (toLower site.lib (trimSpace key.selector))
  let domain := trimSpace (toLower site.lib (trimSpace key.domain))
  let path := trimSpace key.path
  let dnsName :=
    if selector ≠ [] ∧ domain ≠ [] then selector ++ ascii "._domainkey." ++ domain else []
  let status : DKIMKeyStatus := { path, selector, domain, dnsName }
  if path = [] then { status with error := ascii "path not configured" }
  else match key.file with
    | .error err => { status with error := err.text }
    | .ok none => status
    | .ok (some raw) =>
      let status := { status with present := true }
      match site.newRSASignerFromPEM raw with
      | .error err => { status with error := err.text }
      | .ok signer =>
        let status := { status with configured := domain != [] && selector != [] }
        match site.publicKeyTXT signer with
        | .error err => { status with error := err.text }
        | .ok txt => { status with publicTXT := txt }

/-- A site with a worker. Both have the same key directory and the same settings. -/
structure MailSite extends DomainSite where
  platform : PlatformKey
  configured : dkimDomain = toLower lib (trimSpace platform.domain)
  reported : toDomainSite.dkimKeyStatus = Elvishserver.dkimKeyStatus toDomainSite platform
  directory : trimSpace customDomainDKIMDir ≠ []

/-- The tables and key files, and the signers that the worker keeps. -/
structure Signing where
  registry : Registry
  dkimSigners : List (GoString × Signer)

structure Lookups where
  query : Outcome GoError
  read : Outcome GoError

def signerKey (domain ref : GoString) : GoString := domain ++ 0x00 :: ref

namespace Signing

variable (site : MailSite) (state : Signing) (lookups : Lookups)

/-- `cachedDomainSigner`, with the map that it leaves. -/
def cachedDomainSigner (domain ref : GoString) : Option Signer × List (GoString × Signer) :=
  match Rows.find Prod.fst (signerKey domain ref) state.dkimSigners with
  | some entry => (some entry.2, state.dkimSigners)
  | none =>
    match lookups.read.read (state.registry.keyFile? ref) with
    | .error _ | .ok none => (none, state.dkimSigners)
    | .ok (some raw) =>
      match site.newRSASignerFromPEM raw with
      | .error _ => (none, state.dkimSigners)
      | .ok signer =>
        (some signer, state.dkimSigners ++ [(signerKey domain ref, signer)])

def dkim : DKIM where
  signer := site.platform.signer site.toDomainSite
  selector := site.platform.selector
  domain := site.platform.domain
  domainsDir := site.customDomainDKIMDir
  getDomainDKIMByName domain :=
    match ((getDomainDKIMByName site.lib domain).run (RegistryStatement.answer site.lib)
        (fun _ => ⟨lookups.query, 0, false⟩) state.registry).1 with
    | .error _ => none
    | .ok found => found
  cachedDomainSigner domain ref := (state.cachedDomainSigner site lookups domain ref).1

end Signing

/-- The key file under which `resolveDKIM` asks for a signer of a domain, and the selector. -/
def storedKey (lib : Library) (dkim : DKIM) (dom : GoString) : Option (GoString × GoString) :=
  if trimSpace dkim.domainsDir = [] then none
  else match dkim.getDomainDKIMByName dom with
    | none => none
    | some (sel, ref) =>
      let safeRef := filepathBase (trimSpace ref)
      let want := trimSpace (toLower lib dom) ++ ascii ".pem"
      if ref ≠ [] ∧ sel ≠ [] ∧ safeRef = ref ∧ safeRef = want then
        some (safeRef, trimSpace (toLower lib sel))
      else none

theorem resolveDKIM_eq (lib : Library) (dkim : DKIM) (fromAddr : GoString)
    (named : domainFromFromAddress lib fromAddr ≠ []) :
    resolveDKIM lib dkim fromAddr =
      match (storedKey lib dkim (domainFromFromAddress lib fromAddr)).bind fun found =>
          (dkim.cachedDomainSigner (domainFromFromAddress lib fromAddr) found.1).map fun signer =>
            (signer, found.2) with
      | some (signer, sel) => (some signer, sel, domainFromFromAddress lib fromAddr)
      | none =>
        if dkim.signer.isSome ∧ dkim.selector ≠ [] ∧ dkim.domain ≠ [] ∧
            lib.equalFold (domainFromFromAddress lib fromAddr) dkim.domain then
          (dkim.signer, dkim.selector, dkim.domain)
        else (none, [], []) := by
  unfold resolveDKIM storedKey
  dsimp only
  rw [if_neg named]
  by_cases off : trimSpace dkim.domainsDir = []
  · rw [if_pos off, if_pos off]
    rfl
  · rw [if_neg off, if_neg off]
    cases dkim.getDomainDKIMByName (domainFromFromAddress lib fromAddr) with
    | none => rfl
    | some found =>
      obtain ⟨sel, ref⟩ := found
      dsimp only
      by_cases usable : ref ≠ [] ∧ sel ≠ [] ∧ filepathBase (trimSpace ref) = ref ∧
        filepathBase (trimSpace ref) =
          trimSpace (toLower lib (domainFromFromAddress lib fromAddr)) ++ ascii ".pem"
      · rw [if_pos usable, if_pos usable]
        rfl
      · rw [if_neg usable, if_neg usable]
        rfl

/-- A request is handled, or mail from an address is delivered. -/
inductive SigningAction where
  | request (request : SiteRequest) (moments : Nat → Moment)
  | deliver (fromAddr : GoString) (lookups : Lookups)

namespace Signing

variable (site : MailSite)

def delivered (state : Signing) (fromAddr : GoString) (lookups : Lookups) :
    List (GoString × Signer) :=
  let dom := domainFromFromAddress site.lib fromAddr
  if dom = [] then state.dkimSigners
  else match storedKey site.lib (state.dkim site lookups) dom with
    | none => state.dkimSigners
    | some (ref, _) => (state.cachedDomainSigner site lookups dom ref).2

/-- What `dkimKeyStatusForDomain` reports where no lookup of it fails. -/
def keyStatus (state : Signing) (domain : GoString) : DKIMKeyStatus :=
  ((dkimKeyStatusForDomain site.toDomainSite domain).run (RegistryStatement.answer site.lib)
    (fun _ => ⟨.done, 0, false⟩) state.registry).1

end Signing

def signing (site : MailSite) : Machine Signing SigningAction where
  step state action :=
    match action with
    | .request request moments =>
      some { state with
        registry := ((request.handle site.toDomainSite).run (RegistryStatement.answer site.lib)
          moments state.registry).2 }
    | .deliver fromAddr lookups =>
      some { state with dkimSigners := state.delivered site fromAddr lookups }

end ElvishMail.Elvishserver
