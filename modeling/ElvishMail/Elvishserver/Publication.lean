import ElvishMail.Elvishserver.KeyAgreement
import ElvishMail.Httpserver.Entitlement

/-!
# The published key signs

In every run in which no key is made for a domain while the worker holds a signer of it, mail
of a custom domain that is signed is signed with the key that `dkimKeyStatusForDomain`
reports. The platform's own domain is special: where somebody has added it too, mail of it
falls back on the platform's key as soon as a lookup of its own key fails.

Without that restriction the property is lost by deleting a domain and adding it again.
-/

namespace ElvishMail.Elvishserver

open Go Smtp Mailmeta Mailworker Httpserver Semantics

section Lookups

variable {site : MailSite} {state : Signing} {lookups : Lookups} {dom ref sel name : GoString}
  {signer : Signer}

theorem getDomainDKIMByName_some
    (found : (state.dkim site lookups).getDomainDKIMByName dom = some (sel, ref)) :
    ∃ row, state.registry.domain? (trimLower site.lib dom) = some row ∧
      sel = trimLower site.lib row.dkimSelector ∧ ref = trimSpace row.dkimKeyID := by
  dsimp only [Signing.dkim, getDomainDKIMByName, Program.run_ask, RegistryStatement.answer,
    Outcome.read] at found
  cases reported : lookups.query.error? with
  | some err => simp only [reported, Program.run, reduceCtorEq] at found
  | none =>
    simp only [reported, Program.run] at found
    obtain ⟨row, rowFound, same⟩ := Option.map_eq_some_iff.mp found
    obtain ⟨selector, file⟩ := Prod.mk.inj same
    exact ⟨row, rowFound, selector.symm, file.symm⟩

theorem storedKey_some (found : storedKey site.lib (state.dkim site lookups) dom = some (ref, sel)) :
    ∃ row, state.registry.domain? (trimLower site.lib dom) = some row ∧
      keyed site.lib row = true ∧ trimSpace row.dkimKeyID = ref ∧
      ref = pemFile (trimLower site.lib dom) ∧ filepathBase ref = ref := by
  unfold storedKey at found
  split at found
  · cases found
  · split at found
    · cases found
    next selector keyRef looked =>
      obtain ⟨row, rowFound, rfl, rfl⟩ := getDomainDKIMByName_some looked
      dsimp only at found
      split at found
      next usable =>
        obtain ⟨rfl, rfl⟩ := Prod.mk.inj (Option.some.inj found)
        obtain ⟨filled, selected, safe, wanted⟩ := usable
        rw [trimSpace_trimSpace] at safe wanted ⊢
        refine ⟨row, rowFound, ?_, safe.symm, ?_, by rw [safe, safe]⟩
        · simp [keyed, filled, selected]
        · rw [wanted, pemFile, trimLower]
      · cases found

theorem zero_not_mem_plain (plain : name.all isDomainByte = true) : (0x00 : UInt8) ∉ pemFile name := by
  intro member
  have byte := List.all_eq_true.mp (pemFile_plain plain) _ member
  exact absurd byte (by decide)

theorem signerKey_injective {other : GoString} {otherDom : GoString}
    (plain : name.all isDomainByte = true) (otherPlain : other.all isDomainByte = true)
    (same : signerKey dom (pemFile name) = signerKey otherDom (pemFile other)) : name = other := by
  apply pemFile_injective
  rcases List.append_eq_append_iff.mp same with ⟨between, -, rest⟩ | ⟨between, -, rest⟩
  · cases between with
    | nil => exact (List.cons.inj rest).2
    | cons first later =>
      refine absurd ?_ (zero_not_mem_plain plain)
      rw [(List.cons.inj rest).2]
      exact List.mem_append_right _ List.mem_cons_self
  · cases between with
    | nil => exact (List.cons.inj rest).2.symm
    | cons first later =>
      refine absurd ?_ (zero_not_mem_plain otherPlain)
      rw [(List.cons.inj rest).2]
      exact List.mem_append_right _ List.mem_cons_self

theorem cachedDomainSigner_cases {signers : List (GoString × Signer)}
    (found : state.cachedDomainSigner site lookups dom ref = (some signer, signers)) :
    (signerKey dom ref, signer) ∈ state.dkimSigners ∧ signers = state.dkimSigners ∨
      (∃ raw, state.registry.keyFile? ref = some raw ∧ site.newRSASignerFromPEM raw = .ok signer) ∧
        signers = state.dkimSigners ++ [(signerKey dom ref, signer)] := by
  unfold Signing.cachedDomainSigner at found
  split at found
  next entry kept =>
    cases found
    obtain ⟨member, key⟩ := Rows.mem_of_find kept
    rw [← key]
    exact .inl ⟨member, rfl⟩
  · rcases Outcome.read_cases lookups.read (state.registry.keyFile? ref) with read | ⟨err, read⟩
    · rw [read] at found
      cases file : state.registry.keyFile? ref with
      | none =>
        rw [file] at found
        cases found
      | some raw =>
        rw [file] at found
        dsimp only at found
        cases parsed : site.newRSASignerFromPEM raw with
        | error err =>
          rw [parsed] at found
          cases found
        | ok made =>
          rw [parsed] at found
          cases found
          exact .inr ⟨⟨raw, rfl, parsed⟩, rfl⟩
    · rw [read] at found
      cases found

theorem cachedDomainSigner_none {signers : List (GoString × Signer)}
    (found : state.cachedDomainSigner site lookups dom ref = (none, signers)) :
    signers = state.dkimSigners := by
  unfold Signing.cachedDomainSigner at found
  split at found
  · cases found
  · split at found
    · exact (Prod.mk.inj found).2.symm
    · exact (Prod.mk.inj found).2.symm
    · split at found
      · exact (Prod.mk.inj found).2.symm
      · cases found

theorem Sound.inFile (sound : Sound site.toDomainSite state.dkimSigners state.registry)
    (stored : storedKey site.lib (state.dkim site lookups) dom = some (ref, sel))
    (found : (state.cachedDomainSigner site lookups dom ref).1 = some signer) :
    ∃ raw, state.registry.keyFile? ref = some raw ∧ site.newRSASignerFromPEM raw = .ok signer := by
  obtain ⟨row, rowFound, has, -, rfl, -⟩ := storedKey_some stored
  have plain : (trimLower site.lib dom).all isDomainByte = true := by
    obtain ⟨member, named⟩ := Registry.mem_of_domain? rowFound
    rw [← named]
    exact (sound.named row member).plain
  rcases cachedDomainSigner_cases (Prod.ext found rfl) with ⟨kept, -⟩ | ⟨read, -⟩
  · obtain ⟨other, name, key, namePlain, backed⟩ := sound.backed _ kept
    obtain rfl := signerKey_injective plain namePlain key
    exact backed row rowFound has
  · exact read

theorem Sound.deliver (sound : Sound site.toDomainSite state.dkimSigners state.registry)
    (fromAddr : GoString) :
    Sound site.toDomainSite (state.delivered site fromAddr lookups) state.registry := by
  unfold Signing.delivered
  dsimp only
  split
  · exact sound
  · split
    · exact sound
    next ref sel stored =>
      cases found : state.cachedDomainSigner site lookups
        (domainFromFromAddress site.lib fromAddr) ref with
      | mk signer? signers =>
        cases signer? with
        | none =>
          rw [cachedDomainSigner_none found]
          exact sound
        | some signer =>
          rcases cachedDomainSigner_cases found with ⟨-, rfl⟩ | ⟨read, rfl⟩
          · exact sound
          · obtain ⟨row, rowFound, -, -, rfl, -⟩ := storedKey_some stored
            obtain ⟨member, named⟩ := Registry.mem_of_domain? rowFound
            refine ⟨sound.named, fun entry entryMember => ?_⟩
            rcases List.mem_append.mp entryMember with old | new
            · exact sound.backed entry old
            · rw [List.mem_singleton.mp new]
              refine ⟨_, _, rfl, ?_, fun _ _ _ => read⟩
              rw [← named]
              exact (sound.named row member).plain

end Lookups

section Status

variable {site : MailSite} {state : Signing} {dom : GoString} {row : DomainRow}

theorem keyStatus_eq (named : WellNamed (trimLower site.lib dom))
    (found : state.registry.domain? (trimLower site.lib dom) = some row) :
    state.keyStatus site dom =
      if keyed site.lib row = true then
        ((storedKeyStatus site.toDomainSite (trimLower site.lib dom)
          (trimLower site.lib row.dkimSelector) (trimSpace row.dkimKeyID)).run
            (RegistryStatement.answer site.lib) (fun _ => ⟨.done, 0, false⟩) state.registry).1
      else unprovisionedStatus site.toDomainSite (trimLower site.lib dom) := by
  have reads : trimLower site.lib (trimLower site.lib dom) = trimLower site.lib dom :=
    trimLower_domain named.plain
  have filled : trimLower site.lib dom ≠ [] := by
    intro empty
    have dotted := named.dotted
    rw [empty] at dotted
    cases dotted
  have directory : site.customDomainDKIMDir ≠ [] := by
    intro none
    exact site.directory (by rw [none]; rfl)
  unfold Signing.keyStatus dkimKeyStatusForDomain
  dsimp only
  rw [if_neg filled, if_neg directory, getDomainDKIMByName, Program.ask_bind, Program.run_ask, reads]
  dsimp only [RegistryStatement.answer, Outcome.read_done]
  rw [found]
  dsimp only [Option.map_some]
  by_cases has : keyed site.lib row = true
  · have usable : trimSpace row.dkimKeyID ≠ [] ∧ trimLower site.lib row.dkimSelector ≠ [] := by
      simpa [keyed] using has
    rw [if_pos has, Program.pure_bind]
    dsimp only
    rw [if_pos usable]
  · have unusable : ¬(trimSpace row.dkimKeyID ≠ [] ∧ trimLower site.lib row.dkimSelector ≠ []) := by
      simpa [keyed] using has
    rw [if_neg has, Program.pure_bind]
    dsimp only
    rw [if_neg unusable]
    rfl

theorem keyStatus_stored (named : WellNamed (trimLower site.lib dom))
    (found : state.registry.domain? (trimLower site.lib dom) = some row)
    (has : keyed site.lib row = true) {ref raw txt : GoString} {signer : Signer}
    (names : trimSpace row.dkimKeyID = ref) (same : ref = pemFile (trimLower site.lib dom))
    (safe : filepathBase ref = ref) (file : state.registry.keyFile? ref = some raw)
    (parsed : site.newRSASignerFromPEM raw = .ok signer) (shown : site.publicKeyTXT signer = .ok txt) :
    (state.keyStatus site dom).publicTXT = trimSpace txt := by
  subst same
  rw [keyStatus_eq named found, if_pos has, names, storedKeyStatus,
    customDomainDKIMKeyBasename_eq named safe]
  dsimp only
  rw [safe, if_neg (by simp), Program.run_ask]
  dsimp only [RegistryStatement.answer, Outcome.read_done, Program.run_done]
  rw [file, keyFileStatus]
  dsimp only
  rw [parsed]
  dsimp only
  rw [shown]

theorem dkimKeyStatus_publicTXT {key : PlatformKey} {signer : Signer} {txt : GoString}
    (signs : key.signer site.toDomainSite = some signer)
    (shown : site.publicKeyTXT signer = .ok txt) :
    (dkimKeyStatus site.toDomainSite key).publicTXT = txt := by
  unfold PlatformKey.signer at signs
  split at signs
  · cases signs
  next given =>
    simp only [not_or] at given
    have path : trimSpace key.path ≠ [] := by
      rw [key.path_trimmed]
      exact given.2.2
    unfold dkimKeyStatus
    dsimp only
    rw [if_neg path]
    split at signs
    · cases signs
    · cases signs
    next raw file =>
      cases parsed : site.newRSASignerFromPEM raw with
      | error err =>
        rw [parsed] at signs
        cases signs
      | ok made =>
        rw [parsed] at signs
        cases signs
        dsimp only
        rw [shown]

end Status

/-- Letter case and white space around a name make no difference to `strings.EqualFold`. -/
def FoldsCase (lib : Library) : Prop :=
  ∀ name other, lib.equalFold name other = true →
    lib.equalFold (trimLower lib name) (trimLower lib other) = true

/-- No key is made for a domain that has a signer in the cache. -/
def Fresh (site : MailSite) (state : Signing) : SigningAction → Prop
  | .request request _ => ∀ name, MakesKey site.toDomainSite state.registry name request →
      holds state.dkimSigners name = false
  | .deliver .. => True

/-- Mail of the platform's own domain, where that is also a custom domain with a key, finds
that key. -/
def FindsKey (site : MailSite) (state : Signing) (fromAddr : GoString) (lookups : Lookups) : Prop :=
  let dom := domainFromFromAddress site.lib fromAddr
  site.lib.equalFold dom site.platform.domain = true →
    (state.registry.domain? (trimLower site.lib dom)).any (keyed site.lib) = true →
      ((storedKey site.lib (state.dkim site lookups) dom).bind fun found =>
        (state.cachedDomainSigner site lookups dom found.1).1).isSome = true

/-- If mail of a custom domain is signed, then with the key that is reported for the domain. -/
def AsPublished (site : MailSite) (state : Signing) (fromAddr : GoString) (lookups : Lookups) :
    Prop :=
  let dom := domainFromFromAddress site.lib fromAddr
  (state.registry.domain? (trimLower site.lib dom)).isSome = true →
    ∀ signer, (resolveDKIM site.lib (state.dkim site lookups) fromAddr).1 = some signer →
      ∃ txt, site.publicKeyTXT signer = .ok txt ∧
        trimSpace (state.keyStatus site dom).publicTXT = trimSpace txt

section Runs

variable {site : MailSite} {state start final : Signing} {fromAddr : GoString} {lookups : Lookups}

theorem Sound.run (sound : Sound site.toDomainSite start.dkimSigners start.registry)
    (runs : (signing site).Runs (Fresh site) start final) :
    Sound site.toDomainSite final.dkimSigners final.registry := by
  refine runs.invariant (fun state => Sound site.toDomainSite state.dkimSigners state.registry)
    sound ?_
  intro state action next holds fresh taken
  cases action with
  | request request moments =>
    obtain rfl := (Option.some.inj taken).symm
    exact (holds.handle fresh).run moments
  | deliver fromAddr lookups =>
    obtain rfl := (Option.some.inj taken).symm
    exact holds.deliver fromAddr

theorem equalFold_platform (settles : site.lib.Settles) (folds : FoldsCase site.lib)
    {dom : GoString}
    (equal : site.lib.equalFold dom site.platform.domain = true) :
    site.lib.equalFold (trimLower site.lib dom) (trimLower site.lib site.dkimDomain) = true := by
  have reads : trimLower site.lib site.dkimDomain = trimLower site.lib site.platform.domain := by
    rw [site.configured, site.platform.domain_trimmed, trimLower, toLower_toLower settles, trimLower]
  rw [reads]
  exact folds _ _ equal

theorem Sound.asPublished (settles : site.lib.Settles) (folds : FoldsCase site.lib)
    (publishes : ∀ pem signer, site.newRSASignerFromPEM pem = .ok signer →
      ∃ txt, site.publicKeyTXT signer = .ok txt)
    (sound : Sound site.toDomainSite state.dkimSigners state.registry)
    (finds : FindsKey site state fromAddr lookups) : AsPublished site state fromAddr lookups := by
  intro custom signer signs
  obtain ⟨row, rowFound⟩ := Option.isSome_iff_exists.mp custom
  obtain ⟨member, name⟩ := Registry.mem_of_domain? rowFound
  have named := name ▸ sound.named row member
  have filled : domainFromFromAddress site.lib fromAddr ≠ [] := by
    intro empty
    have dotted := named.dotted
    rw [empty, trimLower, toLower_nil] at dotted
    cases dotted
  rw [resolveDKIM_eq _ _ _ filled] at signs
  split at signs
  next found sel own =>
    -- a key of the domain's own
    cases signs
    obtain ⟨⟨ref, selector⟩, stored, mapped⟩ := Option.bind_eq_some_iff.mp own
    obtain ⟨made, looked, same⟩ := Option.map_eq_some_iff.mp mapped
    cases same
    obtain ⟨raw, file, parsed⟩ := sound.inFile stored looked
    obtain ⟨other, otherFound, has, names, pem, safe⟩ := storedKey_some stored
    obtain ⟨txt, shown⟩ := publishes raw signer parsed
    refine ⟨txt, shown, ?_⟩
    rw [keyStatus_stored named otherFound has names pem safe file parsed shown, trimSpace_trimSpace]
  next none =>
    split at signs
    next usable =>
      -- the platform's key, where the domain has none
      obtain ⟨-, -, -, equal⟩ := usable
      have keyless : ¬keyed site.lib row = true := by
        intro has
        have some := finds equal (by rw [rowFound]; exact has)
        obtain ⟨found, own⟩ := Option.isSome_iff_exists.mp some
        obtain ⟨key, stored, looked⟩ := Option.bind_eq_some_iff.mp own
        rw [stored, Option.bind_some, Option.map_eq_none_iff] at none
        have absent : (state.cachedDomainSigner site lookups
          (domainFromFromAddress site.lib fromAddr) key.1).1 = Option.none := none
        rw [absent] at looked
        cases looked
      have signed : site.platform.signer site.toDomainSite = some signer := signs
      have made : ∃ raw, site.newRSASignerFromPEM raw = .ok signer := by
        unfold PlatformKey.signer at signed
        split at signed
        · cases signed
        · split at signed
          · cases signed
          · cases signed
          next raw file =>
            cases parsed : site.newRSASignerFromPEM raw with
            | error err =>
              rw [parsed] at signed
              cases signed
            | ok other =>
              rw [parsed] at signed
              cases signed
              exact ⟨raw, parsed⟩
      obtain ⟨raw, parsed⟩ := made
      obtain ⟨txt, shown⟩ := publishes raw signer parsed
      refine ⟨txt, shown, ?_⟩
      rw [keyStatus_eq named rowFound, if_neg keyless, unprovisionedStatus,
        if_pos (equalFold_platform settles folds equal), site.reported,
        dkimKeyStatus_publicTXT signed shown]
    · cases signs

end Runs

/-- In every state reached, mail of custom domains is signed with the keys that are reported. -/
theorem signed_as_published {site : MailSite} (settles : site.lib.Settles)
    (folds : FoldsCase site.lib)
    (publishes : ∀ pem signer, site.newRSASignerFromPEM pem = .ok signer →
      ∃ txt, site.publicKeyTXT signer = .ok txt)
    {start final : Signing} (named : ∀ row ∈ start.registry.domains, WellNamed row.domain)
    (started : start.dkimSigners = []) (runs : (signing site).Runs (Fresh site) start final)
    {fromAddr : GoString} {lookups : Lookups} (finds : FindsKey site final fromAddr lookups) :
    AsPublished site final fromAddr lookups := by
  have sound : Sound site.toDomainSite start.dkimSigners start.registry := by
    refine ⟨named, fun entry member => ?_⟩
    rw [started] at member
    cases member
  exact (sound.run runs).asPublished settles folds publishes finds

/-- The platform signs with `P`. -/
def PlatformKey.sample : PlatformKey where
  selector := ascii "mail"
  domain := ascii "elvish.local"
  path := ascii "/dkim.pem"
  file := .ok (some (ascii "P"))
  domain_trimmed := by decide
  path_trimmed := by decide

def MailSite.sample : MailSite where
  toDomainSite := { DomainSite.sample with dkimKeyStatus := dkimKeyStatus .sample .sample }
  platform := .sample
  configured := by decide
  reported := rfl
  directory := by decide

def asks (action : SiteRequest × (Nat → Moment)) : SigningAction := .request action.1 action.2

/-- Mail from `a.example`. -/
def mails : SigningAction := .deliver (ascii "alice@a.example") ⟨.done, .done⟩

def aliceSends : Signing := (signing .sample).after [asks (adds 1 "K1"), mails] ⟨.empty, []⟩

theorem plain_foldsCase : FoldsCase Library.plain := by
  intro name other equal
  have same : name = other := by simpa [Library.plain] using equal
  rw [same]
  simp [Library.plain]

theorem sample_publishes (pem : GoString) (signer : Signer)
    (parsed : MailSite.sample.newRSASignerFromPEM pem = .ok signer) :
    ∃ txt, MailSite.sample.publicKeyTXT signer = .ok txt := by
  obtain rfl := Except.ok.inj parsed
  exact ⟨_, rfl⟩

theorem signed_as_published_first :
    ∃ signer, (resolveDKIM .plain (aliceSends.dkim .sample ⟨.done, .done⟩)
        (ascii "alice@a.example")).1 = some signer ∧
      ∃ txt, MailSite.sample.publicKeyTXT signer = .ok txt ∧
        trimSpace (aliceSends.keyStatus .sample (ascii "a.example")).publicTXT = trimSpace txt := by
  have signs : ((resolveDKIM .plain (aliceSends.dkim .sample ⟨.done, .done⟩)
      (ascii "alice@a.example")).1.map fun signer => signer [] [] []) =
        some (.ok (ascii "K1")) := by
    decide +kernel
  obtain ⟨signer, found, -⟩ := Option.map_eq_some_iff.mp signs
  have published := @signed_as_published .sample plain_settles plain_foldsCase sample_publishes
    ⟨.empty, []⟩ aliceSends (fun _ member => absurd member List.not_mem_nil) rfl
    (Machine.after_runs _ ⟨fun _ _ => rfl, trivial, trivial⟩) (ascii "alice@a.example")
    ⟨.done, .done⟩ (by unfold FindsKey; decide) (by decide +kernel) signer found
  have named : domainFromFromAddress .plain (ascii "alice@a.example") = ascii "a.example" := by
    decide
  exact ⟨signer, found, named ▸ published⟩

def aliceReturns : Signing :=
  (signing .sample).after [asks (adds 1 "K1"), mails, asks (deletes 1), asks (adds 1 "K2")]
    ⟨.empty, []⟩

/-- Her mail is signed with the first key, and she is told to publish the second. -/
theorem signed_with_former_key :
    (signing .sample).Runs (fun _ _ => True) ⟨.empty, []⟩ aliceReturns ∧
      ((resolveDKIM .plain (aliceReturns.dkim .sample ⟨.done, .done⟩)
        (ascii "alice@a.example")).1.map fun signer => signer [] [] []) = some (.ok (ascii "K1")) ∧
      (aliceReturns.keyStatus .sample (ascii "a.example")).publicTXT =
        ascii "v=DKIM1; k=rsa; p=K2" ∧
      FindsKey .sample aliceReturns (ascii "alice@a.example") ⟨.done, .done⟩ ∧
      ¬AsPublished .sample aliceReturns (ascii "alice@a.example") ⟨.done, .done⟩ := by
  have signs : ((resolveDKIM .plain (aliceReturns.dkim .sample ⟨.done, .done⟩)
      (ascii "alice@a.example")).1.map fun signer => signer [] [] []) =
        some (.ok (ascii "K1")) := by
    decide +kernel
  have reported : (aliceReturns.keyStatus .sample (ascii "a.example")).publicTXT =
      ascii "v=DKIM1; k=rsa; p=K2" := by
    decide +kernel
  refine ⟨Machine.after_runs _ (Machine.permits_of_forall (fun _ _ => trivial) _ _), signs, reported,
    by unfold FindsKey; decide, fun published => ?_⟩
  obtain ⟨signer, found, signature⟩ := Option.map_eq_some_iff.mp signs
  obtain ⟨txt, shown, same⟩ := published (by decide +kernel) signer found
  have named : domainFromFromAddress .plain (ascii "alice@a.example") = ascii "a.example" := by
    decide
  have made : MailSite.sample.publicKeyTXT signer = .ok (ascii "v=DKIM1; k=rsa; p=K1") := by
    unfold MailSite.sample DomainSite.sample
    dsimp only
    rw [signature]
    rfl
  rw [made] at shown
  cases shown
  have reads : domainFromFromAddress MailSite.sample.lib (ascii "alice@a.example") =
      ascii "a.example" := named
  rw [reads, reported] at same
  exact absurd same (by decide)

end ElvishMail.Elvishserver
