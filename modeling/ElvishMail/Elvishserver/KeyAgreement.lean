import ElvishMail.Elvishserver.Signing

/-!
# Signatures and published keys

The TXT record that the owner of a domain is told to publish is that of the key in the
domain's file. A worker that has signed mail of the domain keeps the key it read then: it is
the one in the file as long as no other key is made for the domain.
-/

namespace ElvishMail.Elvishserver

open Go Smtp Mailmeta Mailworker Httpserver Semantics
open RegistryStatement (Writes)

def pemFile (name : GoString) : GoString := name ++ ascii ".pem"

section Files

variable {lib : Library} {site : DomainSite} {name other domain file base : GoString}

theorem pemFile_injective (same : pemFile name = pemFile other) : name = other :=
  List.append_cancel_right same

theorem pemFile_plain (plain : name.all isDomainByte = true) :
    (pemFile name).all isDomainByte = true := by
  rw [pemFile, List.all_append, plain, Bool.true_and]
  decide

theorem trimSpace_plain (plain : name.all isDomainByte = true) : trimSpace name = name :=
  trimSpace_solid fun byte member =>
    have solid := isDomainByte_solid (List.all_eq_true.mp plain byte member)
    ⟨solid.1, solid.2.1⟩

theorem secretFileUnderDir_ok {dir : GoString} (under : secretFileUnderDir dir base = .ok file) :
    file = filepathBase (trimSpace base) := by
  unfold secretFileUnderDir at under
  dsimp only at under
  split at under
  · cases under
  · split at under
    · cases under
    · split at under
      · cases under
      · exact (Except.ok.inj under).symm

theorem customDomainDKIMKeyBasename_ok
    (labels : ((trimLower lib domain).splitOnP (· == 0x2E)).all validLabel = true)
    (named : customDomainDKIMKeyBasename lib domain = .ok base) :
    base = pemFile (trimLower lib domain) ∧ filepathBase base = base := by
  unfold customDomainDKIMKeyBasename normalizeDNSDomain at named
  dsimp only at named
  rw [trimDots_labels labels] at named
  split at named
  · cases named
  next accepted =>
    split at accepted
    · cases accepted
    · split at accepted
      · cases accepted
      · cases accepted
        split at named
        next same =>
          cases named
          exact ⟨rfl, same⟩
        · cases named

theorem keyFileOf_some (labels : ((trimLower site.lib domain).splitOnP (· == 0x2E)).all validLabel = true)
    (kept : keyFileOf site domain = some file) : file = pemFile (trimLower site.lib domain) := by
  unfold keyFileOf at kept
  split at kept
  · cases kept
  next base named =>
    obtain ⟨rfl, same⟩ := customDomainDKIMKeyBasename_ok labels named
    cases under : secretFileUnderDir site.customDomainDKIMDir (pemFile (trimLower site.lib domain)) with
    | error err =>
      rw [under] at kept
      cases kept
    | ok found =>
      rw [under] at kept
      cases kept
      rw [secretFileUnderDir_ok under, trimSpace_plain (pemFile_plain (isDomainByte_labels labels)),
        same]

theorem customDomainDKIMKeyBasename_eq (named : WellNamed name)
    (same : filepathBase (pemFile name) = pemFile name) :
    customDomainDKIMKeyBasename lib name = .ok (pemFile name) := by
  have reads : trimLower lib name = name := trimLower_domain named.plain
  have filled : name ≠ [] := by
    rintro rfl
    cases named.dotted
  have valid : validDNSName lib name = true := by
    unfold validDNSName
    dsimp only
    rw [reads, Bool.and_eq_true, Bool.and_eq_true]
    exact ⟨⟨by simpa using filled, by simpa using named.short⟩, named.labels⟩
  have accepted : normalizeDNSDomain lib name = .ok name := by
    unfold normalizeDNSDomain
    dsimp only
    rw [reads, trimDots_labels named.labels, if_neg filled, if_neg]
    simp [valid, List.contains_iff_mem.mp named.dotted]
  unfold customDomainDKIMKeyBasename
  rw [accepted]
  exact if_pos same

end Files

def keyed (lib : Library) (row : DomainRow) : Bool :=
  trimSpace row.dkimKeyID != [] && trimLower lib row.dkimSelector != []

/-- A signer that is kept under a name belongs to the key file of a domain with a key. -/
def Backed (site : DomainSite) (registry : Registry) (name : GoString) (signer : Signer) : Prop :=
  ∀ row, registry.domain? name = some row → keyed site.lib row = true →
    ∃ raw, registry.keyFile? (pemFile name) = some raw ∧ site.newRSASignerFromPEM raw = .ok signer

/-- Whether a signer is kept that was read from the key file of a domain. -/
def holds (signers : List (GoString × Signer)) (name : GoString) : Bool :=
  signers.any fun entry => hasSuffix entry.1 (0x00 :: pemFile name)

/-- Names are as they are stored, and signers as they are in their files. -/
structure Sound (site : DomainSite) (signers : List (GoString × Signer)) (registry : Registry) :
    Prop where
  named : ∀ row ∈ registry.domains, WellNamed row.domain
  backed : ∀ entry ∈ signers, ∃ dom name, entry.1 = signerKey dom (pemFile name) ∧
    name.all isDomainByte = true ∧ Backed site registry name entry.2

section Rules

variable {site : DomainSite} {signers : List (GoString × Signer)} {registry next : Registry}
  {name domain : GoString}

theorem Sound.keep (sound : Sound site signers registry)
    (named : ∀ row ∈ next.domains, WellNamed row.domain)
    (files : next.keyFiles = registry.keyFiles)
    (rows : ∀ name row, next.domain? name = some row → keyed site.lib row = true →
      ∃ old, registry.domain? name = some old ∧ keyed site.lib old = true) :
    Sound site signers next := by
  refine ⟨named, fun entry member => ?_⟩
  obtain ⟨dom, name, key, plain, backed⟩ := sound.backed entry member
  refine ⟨dom, name, key, plain, fun row found has => ?_⟩
  obtain ⟨old, oldFound, oldHas⟩ := rows name row found has
  rw [Registry.keyFile?, files]
  exact backed old oldFound oldHas

theorem Sound.change (sound : Sound site signers registry)
    (named : ∀ row ∈ next.domains, WellNamed row.domain)
    (others : ∀ other, other ≠ name → next.domain? other = registry.domain? other ∧
      next.keyFile? (pemFile other) = registry.keyFile? (pemFile other))
    (idle : holds signers name = false ∨ next.domain? name = none) : Sound site signers next := by
  refine ⟨named, fun entry member => ?_⟩
  obtain ⟨dom, own, key, plain, backed⟩ := sound.backed entry member
  refine ⟨dom, own, key, plain, fun row found has => ?_⟩
  by_cases same : own = name
  · subst same
    rcases idle with spared | absent
    · have held : holds signers own = true := by
        refine List.any_eq_true.mpr ⟨entry, member, ?_⟩
        rw [key, hasSuffix, List.isSuffixOf_iff_suffix]
        exact List.suffix_append dom _
      rw [spared] at held
      cases held
    · rw [absent] at found
      cases found
  · rw [(others own same).1] at found
    rw [(others own same).2]
    exact backed row found has

theorem Sound.sameDomains (sound : Sound site signers registry) (same : SameDomains registry next) :
    Sound site signers next := by
  refine sound.keep (same.domains ▸ sound.named) same.keyFiles fun name row found has => ⟨row, ?_, has⟩
  rw [Registry.domain?, same.domains] at found
  exact found

theorem Sound.updateDomains {change : DomainRow → DomainRow}
    (keeps : ∀ row, (change row).domain = row.domain) (sound : Sound site signers registry)
    (alike : ∀ row, keyed site.lib (change row) = keyed site.lib row) :
    Sound site signers (registry.updateDomains change keeps) := by
  refine sound.keep (fun row member => ?_) rfl fun name row found has => ?_
  · obtain ⟨old, oldMember, rfl⟩ := List.mem_map.mp member
    rw [keeps]
    exact sound.named old oldMember
  · rw [Registry.domain?_updateDomains] at found
    obtain ⟨old, oldFound, rfl⟩ := Option.map_eq_some_iff.mp found
    exact ⟨old, oldFound, alike old ▸ has⟩

theorem Sound.updateOwned {userID : Nat} {change : DomainRow → DomainRow}
    (keeps : ∀ row, (change row).domain = row.domain) (sound : Sound site signers registry)
    (alike : ∀ row, keyed site.lib (change row) = keyed site.lib row) :
    Sound site signers (registry.updateOwned userID name change keeps) := by
  refine sound.updateDomains _ fun row => ?_
  split
  · exact alike row
  · rfl

theorem Sound.withoutDomain {userID : Nat} (sound : Sound site signers registry) :
    Sound site signers (registry.withoutDomain userID name) := by
  refine sound.keep (fun row member => sound.named row (List.mem_of_mem_filter member)) rfl
    fun other row found has => ⟨row, ?_, has⟩
  obtain ⟨member, rfl⟩ := Registry.mem_of_domain? found
  exact Registry.domain?_of_mem (List.mem_of_mem_filter member)

theorem Sound.withoutUser {userID : Nat} (sound : Sound site signers registry) :
    Sound site signers (registry.withoutUser userID) := by
  have updated : Sound site signers (registry.updateDomains (fun row =>
      if row.ownerUserID = some userID then { row with ownerUserID := none } else row)
      (by intro row; split <;> rfl)) := by
    refine sound.updateDomains _ fun row => ?_
    split <;> rfl
  exact updated.keep updated.named rfl fun _ row found has => ⟨row, found, has⟩

theorem Sound.withShareMode {mode : GoString} (sound : Sound site signers registry) :
    Sound site signers (registry.withShareMode domain mode) := by
  refine sound.updateDomains (by intro row; split <;> rfl) fun row => ?_
  split <;> rfl

theorem Sound.withAllowlist {userIDs : List Nat} (sound : Sound site signers registry) :
    Sound site signers (registry.withAllowlist domain userIDs) :=
  sound.keep sound.named rfl fun _ row found has => ⟨row, found, has⟩

def Neutral : RegistryWrite → Prop
  | .insertOwnedDomain _ | .setOwnedDomainDKIM .. | .writeKeyFile .. | .removeKeyFile _ => False
  | _ => True

theorem Sound.neutral (effect : RegistryWrite) (now : Time) (registry : Registry)
    (neutral : Neutral effect) (_ : effect.violation registry = none)
    (sound : Sound site signers registry) : Sound site signers (effect.apply now registry) := by
  cases effect with
  | insertOwnedDomain row => exact neutral.elim
  | setOwnedDomainDKIM userID domain selector keyRef => exact neutral.elim
  | writeKeyFile base content => exact neutral.elim
  | removeKeyFile base => exact neutral.elim
  | deleteUser userID => exact sound.withoutUser
  | storeBootstrap userID rows => exact sound.sameDomains sameDomains_withAccount
  | deleteOwnedDomain userID domain => exact sound.withoutDomain
  | setDomainCatchall userID domain fingerprint => exact sound.updateOwned (by intro; rfl) fun _ => rfl
  | updateDomainVerification userID domain mx spf dkim dmarc status =>
    exact sound.updateOwned (by intro; rfl) fun _ => rfl
  | setDomainShareMode domain mode => exact sound.withShareMode
  | replaceDomainAllowlist domain userIDs => exact sound.withAllowlist
  | _ => exact sound.keep sound.named rfl fun _ row found has => ⟨row, found, has⟩

theorem Sound.key {effect : RegistryWrite} {now : Time} (sound : Sound site signers registry)
    (labels : ((trimLower site.lib domain).splitOnP (· == 0x2E)).all validLabel = true)
    (key : KeyWrite site domain effect)
    (idle : holds signers (trimLower site.lib domain) = false ∨
      registry.domain? (trimLower site.lib domain) = none) :
    Sound site signers (effect.apply now registry) := by
  have distinct {other : GoString} (different : other ≠ trimLower site.lib domain) :
      pemFile other ≠ pemFile (trimLower site.lib domain) :=
    fun same => different (pemFile_injective same)
  cases effect with
  | writeKeyFile base content =>
    obtain rfl := keyFileOf_some labels key
    refine sound.change sound.named (fun other different => ⟨rfl, ?_⟩) idle
    exact congrArg (Option.map Prod.snd) (Rows.find_upsert_of_ne (distinct different))
  | removeKeyFile base =>
    obtain rfl := keyFileOf_some labels key
    refine sound.change sound.named (fun other different => ⟨rfl, ?_⟩) idle
    exact congrArg (Option.map Prod.snd) (Rows.find_remove_of_ne (distinct different))
  | setOwnedDomainDKIM userID name selector keyRef =>
    obtain rfl : name = trimLower site.lib domain := key
    refine sound.change (fun row member => ?_) (fun other different => ⟨?_, rfl⟩)
      (idle.imp_right fun absent => ?_)
    · obtain ⟨old, oldMember, rfl⟩ := List.mem_map.mp member
      have named := sound.named old oldMember
      split
      · exact named
      · exact named
    · refine (Registry.domain?_updateDomains (by intro row; split <;> rfl)).trans ?_
      cases found : registry.domain? other with
      | none => rfl
      | some row =>
        rw [Option.map_some, if_neg fun here =>
          different ((Registry.mem_of_domain? found).2.symm.trans here.1)]
    · refine (Registry.domain?_updateDomains (by intro row; split <;> rfl)).trans ?_
      rw [absent]
      rfl
  | _ => exact key.elim

end Rules

section Requests

variable {site : DomainSite} {signers : List (GoString × Signer)} {registry : Registry}
  {userID : Nat} {domain : GoString}

theorem Sound.leaves {Value : Type} (sound : Sound site signers registry)
    {program : Registering Value} (only : program.Only (Writes Neutral)) :
    Leaves site.toSite program registry fun _ later => Sound site signers later :=
  only.ensures _ (RegistryStatement.Writes.kept Sound.neutral) sound

theorem Sound.ensure (sound : Sound site signers registry) {key : Except GoError GoString}
    (labels : ((trimLower site.lib domain).splitOnP (· == 0x2E)).all validLabel = true)
    (spared : ∀ row, registry.domain? (trimLower site.lib domain) = some row →
      keyed site.lib row = false → holds signers (trimLower site.lib domain) = false) :
    Leaves site.toSite (ensureCustomDomainDKIM site userID domain key) registry
      fun _ later => Sound site signers later := by
  have reads : trimLower site.lib (trimLower site.lib domain) = trimLower site.lib domain :=
    trimLower_domain (isDomainByte_labels labels)
  unfold ensureCustomDomainDKIM
  split
  · exact sound
  · dsimp only
    split
    · exact sound
    · rw [Leaves, Program.ensures_bind]
      intro moment
      dsimp only [getDomainDKIMByName, RegistryStatement.answer, Outcome.read]
      cases moment.outcome.error? with
      | some err => exact sound
      | none =>
        rw [reads]
        cases found : registry.domain? (trimLower site.lib domain) with
        | none => exact sound
        | some row =>
          rw [Program.ensures_done]
          dsimp only [Option.map_some]
          split
          · exact sound
          next keyless =>
            have has : keyed site.lib row = false := by
              rw [Bool.eq_false_iff]
              exact fun has => keyless (by simpa [keyed] using has)
            have idle := spared row found has
            rw [← reads] at labels idle
            exact (provisionCustomDomainDKIM_only fun _ => id).ensures _
              (RegistryStatement.Writes.kept fun effect now middle write _ holds =>
                holds.key labels write (.inl idle)) sound

theorem Sound.insert (sound : Sound site signers registry) {label raw : GoString} {drawn : Drawn}
    (accepted : normalizeDNSDomain site.lib raw = .ok domain)
    (spared : registry.domain? (trimLower site.lib domain) = none →
      holds signers (trimLower site.lib domain) = false) :
    Leaves site.toSite (insertDomain site label userID domain drawn) registry
      fun _ later => Sound site signers later := by
  have labels := labels_accepted accepted
  have reads : trimLower site.lib (trimLower site.lib domain) = trimLower site.lib domain :=
    trimLower_domain (isDomainByte_labels labels)
  let Holds (later : Registry) : Prop :=
    Sound site signers later ∧ holds signers (trimLower site.lib domain) = false
  refine @insertDomain_leaves site registry (Sound site signers) label userID raw domain drawn Holds
    accepted sound (fun later holds => holds.1) (fun row named wellNamed _ keyless absent => ?_) ?_
  · refine ⟨?_, spared (named ▸ absent)⟩
    unfold Registry.withDomain
    split
    · exact sound
    · refine sound.keep (fun other member => ?_) rfl fun name other found has => ⟨other, ?_, has⟩
      · rcases List.mem_append.mp member with old | new
        · exact sound.named other old
        · rw [List.mem_singleton.mp new]
          exact wellNamed
      · unfold Registry.domain? at found ⊢
        dsimp only at found
        rw [List.find?_append, Option.or_eq_some_iff] at found
        rcases found with old | ⟨-, new⟩
        · exact old
        · -- the new row names no key
          obtain rfl := List.mem_singleton.mp (List.mem_of_find?_eq_some new)
          rw [keyed, keyless] at has
          cases has
  · rintro effect now middle allowed free ⟨holds, idle⟩
    refine ⟨?_, idle⟩
    rcases allowed with key | rfl
    · rw [← reads] at labels idle
      exact holds.key labels key (.inl idle)
    · exact holds.neutral _ now middle trivial free

theorem Sound.delete (sound : Sound site signers registry) {label : GoString}
    (labels : ((trimLower site.lib domain).splitOnP (· == 0x2E)).all validLabel = true) :
    Leaves site.toSite (deleteOwnedDomainFiles site label userID domain) registry
      fun _ later => Sound site signers later := by
  unfold deleteOwnedDomainFiles
  rw [Leaves, Program.ensures_bind]
  refine write_leaves (fun err => sound) (fun err now _ => sound.withoutDomain) fun now free => ?_
  have gone : (registry.withoutDomain userID (trimLower site.lib domain)).domain?
      (trimLower site.lib domain) = none := by
    refine List.find?_eq_none.mpr fun row member named => ?_
    obtain ⟨kept, other⟩ := List.mem_filter.mp member
    have found : registry.domain? (trimLower site.lib domain) = some row :=
      of_decide_eq_true named ▸ Registry.domain?_of_mem kept
    have owned : (registry.ownedDomain? userID (trimLower site.lib domain)).isSome = true := by
      by_contra stranger
      simp [RegistryWrite.violation, stranger] at free
    rw [Registry.ownedDomain?_eq, found, Option.filter_some] at owned
    split at owned
    next owner => simp [of_decide_eq_true named, owner] at other
    · cases owned
  rw [Leaves, Program.ensures_done]
  have removes : (removeCustomDomainDKIMFiles site domain >>= fun _ =>
      (.done none : Registering (Option Refusal))).Only (Writes (KeyWrite site domain)) :=
    (removeCustomDomainDKIMFiles_only fun _ => id).bind fun _ => trivial
  refine Program.Ensures.weaken (removes.ensures
    (fun later => Sound site signers later ∧ later.domain? (trimLower site.lib domain) = none)
    (RegistryStatement.Writes.kept fun effect now middle key _ holds => ?_)
    ⟨sound.withoutDomain, gone⟩) fun _ _ holds => holds.1
  refine ⟨holds.1.key labels key (.inr holds.2), ?_⟩
  cases effect with
  | writeKeyFile base content => exact holds.2
  | removeKeyFile base => exact holds.2
  | setOwnedDomainDKIM userID name selector keyRef =>
    refine (Registry.domain?_updateDomains (by intro row; split <;> rfl)).trans ?_
    rw [holds.2]
    rfl
  | _ => exact key.elim

end Requests

def Adds (site : DomainSite) (name : GoString) : SiteRequest → Prop
  | .domain (.add _ (some raw) _) => pathDomain? site.lib raw = some name
  | .domain (.adminAdd (some body) _) => pathDomain? site.lib body.domain = some name
  | _ => False

/-- The requests that come to make a key: the domain is new, or it is verified and its row
names no key. -/
def MakesKey (site : DomainSite) (registry : Registry) (name : GoString) : SiteRequest → Prop
  | .domain (.verify userID path _ _) =>
    pathDomain? site.lib path = some name ∧
      ∃ row, registry.ownedDomain? userID name = some row ∧ keyed site.lib row = false
  | .domain (.adminVerify path _ _) =>
    ∃ row, registry.domain? (normalizeEmail site.lib (trimLower site.lib path)) = some row ∧
      row.domain = name ∧ keyed site.lib row = false
  | request => Adds site name request ∧ registry.domain? name = none

section Requests

variable {site : DomainSite} {signers : List (GoString × Signer)} {registry : Registry}

theorem Sound.verify (sound : Sound site signers registry) {userID : Nat} {domain : GoString}
    {key : Except GoError GoString} {checks : DomainChecks}
    (labels : ((trimLower site.lib domain).splitOnP (· == 0x2E)).all validLabel = true)
    (spared : ∀ row, registry.ownedDomain? userID (trimLower site.lib domain) = some row →
      keyed site.lib row = false → holds signers (trimLower site.lib domain) = false) :
    Leaves site.toSite (apiCustomDomainsVerify site userID domain key checks) registry
      fun _ later => Sound site signers later := by
  intro moment
  dsimp only [RegistryStatement.answer, Outcome.read]
  cases moment.outcome.error? with
  | some err => exact sound
  | none =>
    dsimp only
    split
    · exact sound
    next row listed =>
      have named : row.domain = domain := by simpa using List.find?_some listed
      obtain ⟨member, owner⟩ := List.mem_filter.mp (List.mem_of_find?_eq_some listed)
      have reads : trimLower site.lib domain = row.domain :=
        named ▸ trimLower_domain (sound.named row member).plain
      have found := Registry.domain?_of_mem member
      have owned : registry.ownedDomain? userID row.domain = some row := by
        rw [Registry.ownedDomain?_eq, found, Option.filter_some, if_pos owner]
      rw [Program.ensures_bind]
      refine Program.Ensures.weaken (sound.ensure labels fun other otherFound keyless => ?_)
        fun ensured later holds => ?_
      · rw [reads, found] at otherFound
        cases otherFound
        exact spared row (reads ▸ owned) keyless
      · cases ensured with
        | some err => exact holds
        | none => exact holds.leaves (saveVerification_only trivial)

theorem Sound.verifyFound (sound : Sound site signers registry) {key : Except GoError GoString}
    {checks : DomainChecks} {row : DomainRow} (found : registry.domain? row.domain = some row)
    (spared : keyed site.lib row = false → holds signers row.domain = false) :
    Leaves site.toSite (ensureCustomDomainDKIMForDomainName site row.domain key >>= fun ensured =>
      match ensured with
      | some err => .done (some (.internal (ascii "admin domain dkim provision") err))
      | none => saveVerification site (ascii "admin domain verify save") (ownerUserID row) row.domain
          checks) registry fun _ later => Sound site signers later := by
  have named := sound.named row (Registry.mem_of_domain? found).1
  have reads : trimLower site.lib row.domain = row.domain := trimLower_domain named.plain
  have labels : ((trimLower site.lib row.domain).splitOnP (· == 0x2E)).all validLabel = true :=
    reads.symm ▸ named.labels
  rw [Leaves, Program.ensures_bind]
  have ensured : Leaves site.toSite (ensureCustomDomainDKIMForDomainName site row.domain key) registry
      fun _ later => Sound site signers later := by
    unfold ensureCustomDomainDKIMForDomainName
    rw [Leaves, Program.ensures_bind]
    intro moment
    dsimp only [RegistryStatement.answer, Outcome.read]
    cases moment.outcome.error? with
    | some err => exact sound
    | none =>
      rw [Program.ensures_done]
      cases registry.domain? (normalizeEmail site.lib row.domain) with
      | none => exact sound
      | some other =>
        refine sound.ensure labels fun same sameFound keyless => ?_
        rw [reads, found] at sameFound
        cases sameFound
        exact reads.symm ▸ spared keyless
  refine Program.Ensures.weaken ensured fun ensured later holds => ?_
  cases ensured with
  | some err => exact holds
  | none => exact holds.leaves (saveVerification_only trivial)

theorem Sound.handle (sound : Sound site signers registry) {request : SiteRequest}
    (fresh : ∀ name, MakesKey site registry name request → holds signers name = false) :
    Leaves site.toSite (request.handle site) registry fun _ later => Sound site signers later := by
  cases request with
  | account request =>
    refine (handle_leaves request).weaken fun _ later effect => ?_
    rcases effect.sameDomains with same | ⟨middle, gone, same, rfl⟩
    · exact sound.sameDomains same
    · exact (sound.sameDomains same).withoutUser
  | domain request =>
    cases request with
    | add userID body drawn =>
      apply leaves_refusal
      refine apiCustomDomainsAdd_leaves sound fun label raw domain given accepted => ?_
      cases given
      exact sound.insert accepted fun absent => fresh _ ⟨pathDomain?_accepted accepted, absent⟩
    | adminAdd body drawn =>
      apply leaves_refusal
      refine apiAdminDomainsAdd_leaves sound fun label owner body domain given accepted => ?_
      cases given
      exact sound.insert accepted fun absent => fresh _ ⟨pathDomain?_accepted accepted, absent⟩
    | delete userID name =>
      exact onNamed_leaves sound fun domain accepted => sound.delete (labels_accepted accepted)
    | verify userID name key checks =>
      refine onNamed_leaves sound fun domain accepted => ?_
      exact sound.verify (labels_accepted accepted) fun row owned keyless =>
        fresh _ ⟨pathDomain?_accepted accepted, row, owned, keyless⟩
    | catchall userID name body =>
      exact onNamed_leaves sound fun domain accepted =>
        sound.leaves (apiCustomDomainsCatchall_only fun _ _ => trivial)
    | adminDelete name =>
      refine @onAdminNamed_leaves site _ _ name _ sound ?_
      refine withAdminDomain_leaves sound fun row found => ?_
      have named := sound.named row (Registry.mem_of_domain? found).1
      refine sound.delete ?_
      rw [trimLower_domain named.plain]
      exact named.labels
    | adminVerify name key checks =>
      refine @onAdminNamed_leaves site _ _ name
        (fun name => apiAdminDomainsVerify site name key checks) sound ?_
      refine withAdminDomain_leaves sound fun row found => ?_
      refine sound.verifyFound ?_ fun keyless => fresh _ ⟨row, found, rfl, keyless⟩
      exact Registry.domain?_of_mem (Registry.mem_of_domain? found).1
    | adminSharing name body =>
      refine @onAdminNamed_leaves site _ _ name
        (fun name => apiAdminDomainsPatchSharing site name body) sound ?_
      refine apiAdminDomainsPatchSharing_leaves.weaken fun _ later effect => ?_
      cases effect with
      | nothing => exact sound
      | mode named given parsed => exact sound.withShareMode
      | both named given parsed => exact sound.withShareMode.withAllowlist

end Requests

end ElvishMail.Elvishserver
