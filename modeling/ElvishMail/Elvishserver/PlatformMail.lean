import ElvishMail.Elvishserver.Publication

/-!
# The platform's own mail

Mail from the platform's domain is signed with the platform's key as long as nobody adds that
domain as a custom one. `resolveDKIM` prefers any row of the name, whoever owns it and whether
or not it was ever verified, and a row has a key from the moment it is added.
-/

namespace ElvishMail.Elvishserver

open Go Smtp Mailmeta Mailworker Httpserver Semantics
open RegistryStatement (Writes)

def Unnaming : RegistryWrite → Prop
  | .insertOwnedDomain _ => False
  | _ => True

section Names

variable {site : DomainSite} {registry next : Registry} {name : GoString}

theorem absent_updateDomains {change : DomainRow → DomainRow}
    (keeps : ∀ row, (change row).domain = row.domain) (absent : registry.domain? name = none) :
    (registry.updateDomains change keeps).domain? name = none := by
  rw [Registry.domain?_updateDomains, absent]
  rfl

theorem absent_sameDomains (same : SameDomains registry next) (absent : registry.domain? name = none) :
    next.domain? name = none := by
  rw [Registry.domain?, same.domains]
  exact absent

theorem absent_apply (effect : RegistryWrite) (now : Time) (registry : Registry)
    (unnaming : Unnaming effect) (_ : effect.violation registry = none)
    (absent : registry.domain? name = none) : (effect.apply now registry).domain? name = none := by
  cases effect with
  | insertOwnedDomain row => exact unnaming.elim
  | storeBootstrap userID rows => exact absent_sameDomains sameDomains_withAccount absent
  | deleteUser userID => exact absent_updateDomains (by intro row; split <;> rfl) absent
  | setOwnedDomainDKIM userID domain selector keyRef =>
    exact absent_updateDomains (by intro row; split <;> rfl) absent
  | setDomainCatchall userID domain fingerprint =>
    exact absent_updateDomains (by intro row; split <;> rfl) absent
  | updateDomainVerification userID domain mx spf dkim dmarc status =>
    exact absent_updateDomains (by intro row; split <;> rfl) absent
  | setDomainShareMode domain mode =>
    exact absent_updateDomains (by intro row; split <;> rfl) absent
  | deleteOwnedDomain userID domain =>
    refine List.find?_eq_none.mpr fun row member => ?_
    exact List.find?_eq_none.mp absent row (List.mem_of_mem_filter member)
  | _ => exact absent

theorem unnaming_of_keyWrite {domain : GoString} {effect : RegistryWrite}
    (key : KeyWrite site domain effect) : Unnaming effect := by
  cases effect with
  | insertOwnedDomain row => exact key.elim
  | _ => exact trivial

theorem absent_leaves {Value : Type} {program : Registering Value}
    (only : program.Only (Writes Unnaming)) (absent : registry.domain? name = none) :
    Leaves site.toSite program registry fun _ later => later.domain? name = none :=
  only.ensures _ (RegistryStatement.Writes.kept absent_apply) absent

theorem absent_insert {label raw domain : GoString} {userID : Nat} {drawn : Drawn}
    (accepted : normalizeDNSDomain site.lib raw = .ok domain)
    (other : trimLower site.lib domain ≠ name) (absent : registry.domain? name = none) :
    Leaves site.toSite (insertDomain site label userID domain drawn) registry
      fun _ later => later.domain? name = none := by
  refine @insertDomain_leaves site registry (fun later => later.domain? name = none) label userID raw
    domain drawn (fun later => later.domain? name = none) accepted absent (fun _ => id)
    (fun row named _ _ _ _ => ?_) fun effect now middle allowed free holds => ?_
  · unfold Registry.withDomain
    split
    · exact absent
    · unfold Registry.domain? at absent ⊢
      dsimp only
      rw [List.find?_append, absent, Option.none_or]
      exact List.find?_eq_none.mpr fun added member same => by
        rw [List.mem_singleton.mp member, named] at same
        exact other (of_decide_eq_true same)
  · refine absent_apply effect now middle ?_ free holds
    rcases allowed with key | rfl
    · exact unnaming_of_keyWrite key
    · exact trivial

theorem absent_handle {request : SiteRequest} (spared : ¬Adds site name request)
    (absent : registry.domain? name = none) :
    Leaves site.toSite (request.handle site) registry fun _ later => later.domain? name = none := by
  have keys {domain : GoString} : ∀ effect, KeyWrite site domain effect → Unnaming effect :=
    fun _ => unnaming_of_keyWrite
  cases request with
  | account request =>
    refine (handle_leaves request).weaken fun _ later effect => ?_
    rcases effect.sameDomains with same | ⟨middle, gone, same, rfl⟩
    · exact absent_sameDomains same absent
    · exact absent_updateDomains (by intro row; split <;> rfl) (absent_sameDomains same absent)
  | domain request =>
    cases request with
    | add userID body drawn =>
      apply leaves_refusal
      refine apiCustomDomainsAdd_leaves absent fun label raw domain given accepted => ?_
      cases given
      refine absent_insert accepted (fun same => spared ?_) absent
      exact same ▸ pathDomain?_accepted accepted
    | adminAdd body drawn =>
      apply leaves_refusal
      refine apiAdminDomainsAdd_leaves absent fun label owner body domain given accepted => ?_
      cases given
      refine absent_insert accepted (fun same => spared ?_) absent
      exact same ▸ pathDomain?_accepted accepted
    | delete userID path =>
      exact onNamed_leaves absent fun domain accepted =>
        absent_leaves (deleteOwnedDomainFiles_only keys trivial) absent
    | verify userID path key checks =>
      exact onNamed_leaves absent fun domain accepted =>
        absent_leaves (apiCustomDomainsVerify_only keys trivial) absent
    | catchall userID path body =>
      exact onNamed_leaves absent fun domain accepted =>
        absent_leaves (apiCustomDomainsCatchall_only fun _ _ => trivial) absent
    | adminDelete path =>
      refine @onAdminNamed_leaves site _ _ path _ absent ?_
      exact withAdminDomain_leaves absent fun row found =>
        absent_leaves (deleteOwnedDomainFiles_only keys trivial) absent
    | adminVerify path key checks =>
      refine @onAdminNamed_leaves site _ _ path
        (fun name => apiAdminDomainsVerify site name key checks) absent ?_
      exact withAdminDomain_leaves absent fun row found =>
        absent_leaves (verifyFound_only keys trivial) absent
    | adminSharing path body =>
      refine @onAdminNamed_leaves site _ _ path
        (fun name => apiAdminDomainsPatchSharing site name body) absent ?_
      refine apiAdminDomainsPatchSharing_leaves.weaken fun _ later effect => ?_
      cases effect with
      | nothing => exact absent
      | mode named given parsed => exact absent_updateDomains (by intro row; split <;> rfl) absent
      | both named given parsed => exact absent_updateDomains (by intro row; split <;> rfl) absent

end Names

def Spares (site : MailSite) (name : GoString) : SigningAction → Prop
  | .request request _ => ¬Adds site.toDomainSite name request
  | .deliver .. => True

theorem absent_run {site : MailSite} {start final : Signing} {name : GoString}
    (absent : start.registry.domain? name = none)
    (runs : (signing site).Runs (fun _ action => Spares site name action) start final) :
    final.registry.domain? name = none := by
  refine runs.invariant (fun state => state.registry.domain? name = none) absent ?_
  intro state action next holds spared taken
  cases action with
  | request request moments =>
    obtain rfl := (Option.some.inj taken).symm
    exact (absent_handle spared holds).run moments
  | deliver fromAddr lookups =>
    obtain rfl := (Option.some.inj taken).symm
    exact holds

theorem resolveDKIM_platform {site : MailSite} {state : Signing} {fromAddr : GoString}
    {lookups : Lookups} {signer : Signer}
    (equal : site.lib.equalFold (domainFromFromAddress site.lib fromAddr) site.platform.domain = true)
    (signs : site.platform.signer site.toDomainSite = some signer)
    (absent : state.registry.domain?
      (trimLower site.lib (domainFromFromAddress site.lib fromAddr)) = none) :
    resolveDKIM site.lib (state.dkim site lookups) fromAddr =
      (some signer, site.platform.selector, site.platform.domain) := by
  by_cases empty : domainFromFromAddress site.lib fromAddr = []
  · unfold resolveDKIM
    dsimp only
    rw [if_pos empty]
    exact Prod.ext signs rfl
  · have unstored : storedKey site.lib (state.dkim site lookups)
        (domainFromFromAddress site.lib fromAddr) = none := by
      cases stored : storedKey site.lib (state.dkim site lookups)
        (domainFromFromAddress site.lib fromAddr) with
      | none => rfl
      | some found =>
        obtain ⟨row, rowFound, -⟩ := storedKey_some stored
        rw [absent] at rowFound
        cases rowFound
    have given : site.platform.selector ≠ [] ∧ site.platform.domain ≠ [] := by
      unfold PlatformKey.signer at signs
      split at signs
      · cases signs
      next given => exact ⟨fun none => given (.inl none), fun none => given (.inr (.inl none))⟩
    rw [resolveDKIM_eq _ _ _ empty, unstored]
    dsimp only [Option.bind_none]
    rw [if_pos ⟨Option.isSome_iff_exists.mpr ⟨signer, signs⟩, given.1, given.2, equal⟩]
    exact Prod.ext signs rfl

/-- In every run in which nobody adds the platform's domain, its mail is signed by the
platform. -/
theorem platform_signs {site : MailSite} {start final : Signing} {fromAddr : GoString}
    {lookups : Lookups} {signer : Signer}
    (equal : site.lib.equalFold (domainFromFromAddress site.lib fromAddr) site.platform.domain = true)
    (signs : site.platform.signer site.toDomainSite = some signer)
    (absent : start.registry.domain?
      (trimLower site.lib (domainFromFromAddress site.lib fromAddr)) = none)
    (runs : (signing site).Runs (fun _ action =>
      Spares site (trimLower site.lib (domainFromFromAddress site.lib fromAddr)) action) start final) :
    resolveDKIM site.lib (final.dkim site lookups) fromAddr =
      (some signer, site.platform.selector, site.platform.domain) :=
  resolveDKIM_platform equal signs (absent_run absent runs)

theorem platform_signs_beside_alice :
    ∃ signer, MailSite.sample.platform.signer MailSite.sample.toDomainSite = some signer ∧
      resolveDKIM .plain (aliceSends.dkim .sample ⟨.done, .done⟩) (ascii "noreply@elvish.local") =
        (some signer, ascii "mail", ascii "elvish.local") := by
  refine ⟨_, rfl, ?_⟩
  refine @platform_signs .sample ⟨.empty, []⟩ aliceSends (ascii "noreply@elvish.local")
    ⟨.done, .done⟩ _ (by decide) rfl rfl (Machine.after_runs _ ⟨?_, trivial, trivial⟩)
  show ¬pathDomain? Library.plain (ascii "A.example") = some _
  decide +kernel

/-- Somebody adds the platform's domain, and does not verify it. -/
def taken : Signing :=
  (signing .sample).after
    [.request (.domain (.add 1 (some (ascii "elvish.local")) ⟨ascii "00", .ok (ascii "K1")⟩))
      (smoothly 1)] ⟨.empty, []⟩

/-- From there on mail of the platform is signed with the key that was made for the request. -/
theorem platform_domain_taken :
    (signing .sample).Runs (fun _ _ => True) ⟨.empty, []⟩ taken ∧
      (taken.registry.domain? (ascii "elvish.local")).map DomainRow.status =
        some (ascii "pending") ∧
      ((resolveDKIM .plain (Signing.dkim .sample ⟨.empty, []⟩ ⟨.done, .done⟩)
        (ascii "noreply@elvish.local")).1.map fun signer => signer [] [] []) =
          some (.ok (ascii "P")) ∧
      ((resolveDKIM .plain (taken.dkim .sample ⟨.done, .done⟩)
        (ascii "noreply@elvish.local")).1.map fun signer => signer [] [] []) =
          some (.ok (ascii "K1")) := by
  refine ⟨Machine.after_runs _ (Machine.permits_of_forall (fun _ _ => trivial) _ _), ?_, ?_, ?_⟩
  · decide +kernel
  · decide
  · decide +kernel

end ElvishMail.Elvishserver
