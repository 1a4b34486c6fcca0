import ElvishMail.Httpserver.DomainEffects
import ElvishMail.Httpserver.Ownership

/-!
# Mail for a domain goes to whom it is open

Whether a user may have mail at a domain is asked when `apiIdentitiesPost` creates an
identity. Of the lookups by which mail finds an identity only that of catch-all addresses
asks again. A domain may be deleted, fail a verification or be shared otherwise in the
meantime, and the bootstrap of an account does not ask at all.

As long as no domain is closed to a user who has an address there, and no bootstrap brings
an address at a domain that is closed, mail finds entitled users only: `delivered_entitled`.
A domain that has changed hands goes on to deliver to its former owner:
`delivered_to_former_owner`.
-/

namespace ElvishMail.Httpserver

open Go Smtp Mailmeta Semantics

/-- The addresses of active identities and aliases, each with its user. -/
def addresses (registry : Registry) : List (Nat × GoString) :=
  (registry.identities.filter (·.isActive)).map (fun row => (row.userID, row.email)) ++
    (registry.aliases.filter (·.isActive)).map fun row => (row.userID, row.email)

/-- The domain of an address, read like the check of new identities reads it. -/
def mailboxDomain (lib : Library) (email : GoString) : Option GoString :=
  let email := trimLower lib email
  (lastIndexByte email 0x40).map fun position => email.drop (position + 1)

section Site

variable (site : Site)

/-- Whether a user is entitled to the domain of an address: it is the platform's, or one that
the user may use. -/
def mayReceive (registry : Registry) (userID : Nat) (email : GoString) : Bool :=
  (mailboxDomain site.lib email).any fun domain =>
    onPlatform site domain || registry.userMayUseDomainForMailbox site.lib userID domain

def dependents (held : List (Nat × GoString)) (domain : GoString) : List Nat :=
  (held.filter fun (_, email) =>
    (mailboxDomain site.lib email).any fun other =>
      !onPlatform site other && trimLower site.lib other == domain).map Prod.fst

/-- Whoever has an address is entitled to its domain, and domains have plain names. -/
structure Rightful (registry : Registry) : Prop where
  held : ∀ holder ∈ addresses registry, mayReceive site registry holder.1 holder.2 = true
  plain : ∀ row ∈ registry.domains, row.domain.all isDomainByte = true

/-- A bootstrap brings only addresses to whose domains the user is entitled. -/
def NamesOpen (registry : Registry) (userID : Nat) (accountKey : AccountKeyBootstrap) : Prop :=
  ∀ body ∈ accountKey.identities,
    mayReceive site registry userID (normalizeEmail site.lib body.email) = true

def Deserted (registry : Registry) (userID : Nat) (domain : GoString) : Prop :=
  (registry.ownedDomain? userID domain).isSome = true →
    dependents site (addresses registry) domain = []

instance (registry : Registry) (userID : Nat) (domain : GoString) :
    Decidable (Deserted site registry userID domain) :=
  inferInstanceAs (Decidable (_ → _))

end Site

/-- A sharing leaves in whoever has an address at the domain, whichever of its two writes
are done. -/
def KeepsSharing (site : DomainSite) (registry : Registry) (domain : GoString)
    (sharing : AdminDomainSharingBody) : Prop :=
  ∀ userIDs ∈ parseAllowlist site sharing,
    ∀ userID ∈ dependents site.toSite (addresses registry) domain,
      (registry.ownedDomain? userID domain).isSome = true ∨
        trimLower site.lib sharing.shareMode = shareModeAllVerifiedUsers ∨
        trimLower site.lib sharing.shareMode = shareModeAllowlist ∧ userID ∈ userIDs ∧
          (domain, userID) ∈ registry.allowlist

instance (site : DomainSite) (registry : Registry) (domain : GoString)
    (sharing : AdminDomainSharingBody) : Decidable (KeepsSharing site registry domain sharing) :=
  inferInstanceAs (Decidable (∀ userIDs ∈ parseAllowlist site sharing, _))

/-- A request closes no domain to a user who has an address there, and brings no address at a
domain that is closed. -/
def Lasting (site : DomainSite) (registry : Registry) (action : SiteRequest × (Nat → Moment)) : Prop :=
  match action.1 with
  | .account (.register _ (some body)) =>
    ∀ accountKey ∈ body.accountKey, NamesOpen site.toSite registry (registry.drawn + 1) accountKey
  | .account (.bootstrap userID (some body)) => NamesOpen site.toSite registry userID body
  | .domain (.delete userID name) =>
    ∀ domain ∈ pathDomain? site.lib name, Deserted site.toSite registry userID domain
  | .domain (.verify userID name _ checks) =>
    (checks.ownership && checks.ready) = true ∨
      ∀ domain ∈ pathDomain? site.lib name, Deserted site.toSite registry userID domain
  | .domain (.adminDelete name) =>
    ∀ row ∈ registry.domain? (normalizeEmail site.lib (trimLower site.lib name)),
      Deserted site.toSite registry (ownerUserID row) row.domain
  | .domain (.adminVerify name _ checks) =>
    (checks.ownership && checks.ready) = true ∨
      ∀ row ∈ registry.domain? (normalizeEmail site.lib (trimLower site.lib name)),
        Deserted site.toSite registry (ownerUserID row) row.domain
  | .domain (.adminSharing name (some sharing)) =>
    ∀ domain ∈ pathDomain? site.lib (trimLower site.lib name),
      KeepsSharing site registry domain sharing
  | _ => True

instance (site : DomainSite) (registry : Registry) (action : SiteRequest × (Nat → Moment)) :
    Decidable (Lasting site registry action) := by
  unfold Lasting NamesOpen
  split <;> infer_instance

section Steps

variable {site : DomainSite} {registry next : Registry} {userID : Nat} {email domain : GoString}

theorem mayReceive_mono (settles : site.lib.Settles)
    (keeps : ∀ domain, mailboxDomain site.lib email = some domain → onPlatform site.toSite domain = false →
      registry.admits site.lib userID (trimLower site.lib domain) = true →
      next.admits site.lib userID (trimLower site.lib domain) = true)
    (may : mayReceive site.toSite registry userID email = true) :
    mayReceive site.toSite next userID email = true := by
  obtain ⟨domain, named, opened⟩ := (Option.any_eq_true ..).mp may
  refine (Option.any_eq_true ..).mpr ⟨domain, named, ?_⟩
  cases platform : onPlatform site.toSite domain with
  | true => rfl
  | false =>
    rw [platform, Bool.false_or, Registry.userMayUseDomainForMailbox_eq settles, Bool.and_eq_true] at opened
    rw [Bool.false_or, Registry.userMayUseDomainForMailbox_eq settles, Bool.and_eq_true]
    exact ⟨opened.1, keeps domain named platform opened.2⟩

theorem mem_dependents {held : List (Nat × GoString)} (member : (userID, email) ∈ held)
    (named : mailboxDomain site.lib email = some domain)
    (custom : onPlatform site.toSite domain = false) :
    userID ∈ dependents site.toSite held (trimLower site.lib domain) := by
  refine List.mem_map.mpr ⟨(userID, email), List.mem_filter.mpr ⟨member, ?_⟩, rfl⟩
  simp [named, custom]

theorem Rightful.step (settles : site.lib.Settles) (rightful : Rightful site.toSite registry)
    (added : ∀ holder ∈ addresses next, holder ∈ addresses registry ∨
      mayReceive site.toSite registry holder.1 holder.2 = true)
    (keeps : ∀ userID domain, userID ∈ dependents site.toSite (addresses next) domain →
      registry.admits site.lib userID domain = true → next.admits site.lib userID domain = true)
    (plain : ∀ row ∈ next.domains, row.domain.all isDomainByte = true) :
    Rightful site.toSite next := by
  refine ⟨fun holder member => ?_, plain⟩
  have before : mayReceive site.toSite registry holder.1 holder.2 = true := by
    rcases added holder member with old | may
    · exact rightful.held holder old
    · exact may
  refine mayReceive_mono settles (fun domain named custom => ?_) before
  exact keeps _ _ (mem_dependents member named custom)

theorem admits_sameDomains (same : SameDomains registry next)
    (admits : registry.admits site.lib userID domain = true) :
    next.admits site.lib userID domain = true := by
  unfold Registry.admits Registry.domain? at admits ⊢
  rw [same.domains, same.allowlist]
  exact admits

theorem mayReceive_of_entitled (entitled : Entitled site.toSite registry userID email) :
    mayReceive site.toSite registry userID email = true := by
  obtain ⟨name, domain, cut, opened⟩ := entitled
  refine (Option.any_eq_true ..).mpr ⟨domain, ?_, Bool.or_eq_true .. |>.mpr opened⟩
  unfold splitMailbox at cut
  unfold mailboxDomain
  dsimp only
  split at cut
  · cases cut
  next position found =>
    split at cut
    · cases cut
    · cases cut
      rw [found]
      rfl

theorem makesAt_mayReceive {request : AccountRequest} {env : Nat → Moment}
    (lasting : Lasting site registry (.account request, env))
    (made : request.MakesAt site.toSite registry email) :
    mayReceive site.toSite registry (request.owner registry) email = true := by
  cases request with
  | register gate body =>
    cases body with
    | none => exact made.elim
    | some body =>
      obtain ⟨accountKey, named, entry, member, rfl⟩ := made
      exact lasting accountKey named entry member
  | bootstrap userID body =>
    cases body with
    | none => exact made.elim
    | some body =>
      obtain ⟨entry, member, rfl⟩ := made
      exact lasting entry member
  | post userID body =>
    cases body with
    | none => exact made.elim
    | some body => exact mayReceive_of_entitled made.2.1
  | revoke userID selector certificate => exact made.elim
  | delete userID selector => exact made.elim
  | default userID selector => exact made.elim

theorem ne_of_mem_withoutUser {gone : Nat}
    (member : userID ∈ dependents site.toSite (addresses (registry.withoutUser gone)) domain) :
    userID ≠ gone := by
  obtain ⟨holder, kept, rfl⟩ := List.mem_map.mp member
  rcases List.mem_append.mp (List.mem_of_mem_filter kept) with identity | other
  · obtain ⟨row, rowMember, rfl⟩ := List.mem_map.mp identity
    simpa using (List.mem_filter.mp (List.mem_of_mem_filter rowMember)).2
  · obtain ⟨row, rowMember, rfl⟩ := List.mem_map.mp other
    simpa using (List.mem_filter.mp (List.mem_of_mem_filter rowMember)).2

theorem plain_updateDomains {change : DomainRow → DomainRow}
    (keeps : ∀ row, (change row).domain = row.domain)
    (plain : ∀ row ∈ registry.domains, row.domain.all isDomainByte = true) :
    ∀ row ∈ (registry.updateDomains change keeps).domains, row.domain.all isDomainByte = true := by
  intro row member
  obtain ⟨old, oldMember, rfl⟩ := List.mem_map.mp member
  rw [keeps]
  exact plain old oldMember

theorem Rightful.account (settles : site.lib.Settles) (rightful : Rightful site.toSite registry)
    {request : AccountRequest} {env : Nat → Moment}
    (lasting : Lasting site registry (.account request, env))
    (effect : AccountEffect site.toSite registry request next) : Rightful site.toSite next := by
  have added (aliases : ∀ row ∈ next.aliases, row ∈ registry.aliases) :
      ∀ holder ∈ addresses next, holder ∈ addresses registry ∨
        mayReceive site.toSite registry holder.1 holder.2 = true := by
    intro holder member
    rcases List.mem_append.mp member with identity | other
    · obtain ⟨row, rowMember, rfl⟩ := List.mem_map.mp identity
      obtain ⟨rowMember, active⟩ := List.mem_filter.mp rowMember
      rcases effect.origin rowMember active with ⟨old, oldMember, oldActive, email, user⟩ | ⟨owner, made⟩
      · refine .inl (List.mem_append_left _ (List.mem_map.mpr ⟨old, ?_, ?_⟩))
        · exact List.mem_filter.mpr ⟨oldMember, oldActive⟩
        · rw [email, user]
      · dsimp only
        rw [owner]
        exact .inr (makesAt_mayReceive lasting made)
    · obtain ⟨row, rowMember, rfl⟩ := List.mem_map.mp other
      obtain ⟨rowMember, active⟩ := List.mem_filter.mp rowMember
      exact .inl (List.mem_append_right _
        (List.mem_map_of_mem (List.mem_filter.mpr ⟨aliases row rowMember, active⟩)))
  rcases effect.sameDomains with same | ⟨middle, gone, same, rfl⟩
  · refine rightful.step settles (added fun row member => same.aliases ▸ member)
      (fun userID domain _ admits => admits_sameDomains same admits) ?_
    rw [same.domains]
    exact rightful.plain
  · refine rightful.step settles
      (added fun row member => same.aliases ▸ List.mem_of_mem_filter member)
      (fun userID domain dependent admits => ?_) (plain_updateDomains (by intro row; split <;> rfl) ?_)
    · exact Registry.admits_withoutUser (ne_of_mem_withoutUser dependent)
        (admits_sameDomains same admits)
    · rw [same.domains]
      exact rightful.plain

/-- What the writes of a request about domains keep, from the state at its start. -/
structure Undisturbed (site : Site) (start registry : Registry) : Prop where
  rightful : Rightful site registry
  held : addresses registry = addresses start
  owned : ∀ userID domain, (registry.ownedDomain? userID domain).isSome = true →
    (start.ownedDomain? userID domain).isSome = true

def Sparing (site : Site) (start : Registry) : RegistryWrite → Prop
  | .deleteOwnedDomain userID domain => Deserted site start userID domain
  | .updateDomainVerification userID domain mx _ _ _ status =>
    (mx = true ∧ status = ascii "active") ∨ Deserted site start userID domain
  | .setDomainCatchall .. | .writeKeyFile .. | .removeKeyFile _ | .setOwnedDomainDKIM .. => True
  | _ => False

theorem sparing_of_keyWrite {start : Registry} {effect : RegistryWrite}
    (key : KeyWrite site domain effect) : Sparing site.toSite start effect := by
  cases effect with
  | writeKeyFile base content => exact trivial
  | removeKeyFile base => exact trivial
  | setOwnedDomainDKIM userID domain selector keyRef => exact trivial
  | _ => exact key.elim

theorem Undisturbed.updateOwned (settles : site.lib.Settles) {start : Registry} {owner : Nat}
    {change : DomainRow → DomainRow} (keeps : ∀ row, (change row).domain = row.domain)
    (undisturbed : Undisturbed site.toSite start registry)
    (alike : ∀ row, (change row).ownerUserID = row.ownerUserID)
    (admits : ∀ userID other, userID ∈ dependents site.toSite (addresses start) other →
      registry.admits site.lib userID other = true →
      (registry.updateOwned owner domain change keeps).admits site.lib userID other = true) :
    Undisturbed site.toSite start (registry.updateOwned owner domain change keeps) := by
  have held : addresses (registry.updateOwned owner domain change keeps) = addresses start := undisturbed.held
  refine ⟨?_, held, fun userID other owned => ?_⟩
  · refine undisturbed.rightful.step settles (fun holder member => .inl member)
      (fun userID other dependent => ?_) (plain_updateDomains _ undisturbed.rightful.plain)
    rw [held] at dependent
    exact admits userID other dependent
  · rw [Registry.owned_updateOwned alike] at owned
    exact undisturbed.owned userID other owned

theorem Sparing.undisturbed (settles : site.lib.Settles) {start : Registry} (effect : RegistryWrite)
    (now : Time) (registry : Registry) (sparing : Sparing site.toSite start effect)
    (free : effect.violation registry = none) (undisturbed : Undisturbed site.toSite start registry) :
    Undisturbed site.toSite start (effect.apply now registry) := by
  have ownedAt {userID : Nat} {domain : GoString}
      (free : (if (registry.ownedDomain? userID domain).isSome = true then none
        else some WriteError.notFound) = none) : (start.ownedDomain? userID domain).isSome = true := by
    refine undisturbed.owned userID domain ?_
    by_contra other
    rw [if_neg other] at free
    cases free
  cases effect with
  | writeKeyFile base content =>
    exact ⟨⟨undisturbed.rightful.held, undisturbed.rightful.plain⟩, undisturbed.held,
      undisturbed.owned⟩
  | removeKeyFile base =>
    exact ⟨⟨undisturbed.rightful.held, undisturbed.rightful.plain⟩, undisturbed.held,
      undisturbed.owned⟩
  | setOwnedDomainDKIM userID domain selector keyRef =>
    exact Undisturbed.updateOwned settles (by intro; rfl) undisturbed (fun _ => rfl)
      fun user other _ admits =>
        Registry.admits_updateOwned (by intro; rfl) (fun _ => ⟨rfl, rfl, rfl⟩) admits
  | setDomainCatchall userID domain fingerprint =>
    exact Undisturbed.updateOwned settles (by intro; rfl) undisturbed (fun _ => rfl)
      fun user other _ admits =>
        Registry.admits_updateOwned (by intro; rfl) (fun _ => ⟨rfl, rfl, rfl⟩) admits
  | updateDomainVerification userID domain mx spf dkim dmarc status =>
    refine Undisturbed.updateOwned settles (by intro; rfl) undisturbed (fun _ => rfl)
      fun user other dependent admits => ?_
    refine Registry.admits_updateDomains _ (fun row listed named admitted => ?_) admits
    split
    next here =>
      rcases sparing with ⟨rfl, rfl⟩ | deserted
      · have active : trimLower site.lib (ascii "active") = ascii "active" :=
          trimLower_domain (by decide)
        rw [Bool.and_eq_true] at admitted ⊢
        refine ⟨?_, admitted.2⟩
        simp [DomainRow.inbound, active]
      · -- nobody has an address at a domain that is closed
        rw [← named, here.1, deserted (ownedAt free)] at dependent
        exact absurd dependent List.not_mem_nil
    · exact admitted
  | deleteOwnedDomain userID domain =>
    have deserted := sparing (ownedAt free)
    have held : addresses (registry.withoutDomain userID domain) = addresses start := undisturbed.held
    refine ⟨?_, held, fun user other owned =>
      undisturbed.owned user other (Registry.owned_of_withoutDomain owned)⟩
    refine undisturbed.rightful.step settles (fun holder member => .inl member)
      (fun user other dependent admits => ?_)
      fun row member => undisturbed.rightful.plain row (List.mem_of_mem_filter member)
    refine Registry.admits_withoutDomain (fun same => ?_) admits
    rw [show addresses ((RegistryWrite.deleteOwnedDomain userID domain).apply now registry) =
      addresses start from held, same, deserted] at dependent
    exact List.not_mem_nil dependent
  | _ => exact sparing.elim

theorem Rightful.leaves {Value : Type} (settles : site.lib.Settles)
    (rightful : Rightful site.toSite registry) {program : Registering Value}
    (only : program.Only (RegistryStatement.Writes (Sparing site.toSite registry))) :
    Leaves site.toSite program registry fun _ later => Rightful site.toSite later := by
  have start : Undisturbed site.toSite registry registry := ⟨rightful, rfl, fun _ _ owned => owned⟩
  exact (only.ensures _ (RegistryStatement.Writes.kept (Sparing.undisturbed settles)) start).weaken
    fun _ _ undisturbed => undisturbed.rightful

theorem Rightful.admits (settles : site.lib.Settles) (rightful : Rightful site.toSite registry)
    (dependent : userID ∈ dependents site.toSite (addresses registry) domain) :
    registry.admits site.lib userID domain = true := by
  obtain ⟨⟨user, email⟩, kept, rfl⟩ := List.mem_map.mp dependent
  obtain ⟨member, reads⟩ := List.mem_filter.mp kept
  obtain ⟨other, named, matching⟩ := (Option.any_eq_true ..).mp reads
  have custom : onPlatform site.toSite other = false ∧ trimLower site.lib other = domain := by
    simpa using matching
  obtain ⟨found, same, opened⟩ := (Option.any_eq_true ..).mp (rightful.held _ member)
  rw [show mailboxDomain site.lib email = some other from named] at same
  cases same
  rw [custom.1, Bool.false_or, Registry.userMayUseDomainForMailbox_eq settles, Bool.and_eq_true,
    custom.2] at opened
  exact opened.2

theorem Rightful.insertDomain (settles : site.lib.Settles) (rightful : Rightful site.toSite registry)
    {label raw : GoString} {drawn : Drawn} (accepted : normalizeDNSDomain site.lib raw = .ok domain) :
    Leaves site.toSite (insertDomain site label userID domain drawn) registry
      fun _ later => Rightful site.toSite later := by
  let Holds (later : Registry) : Prop := ∃ start, Undisturbed site.toSite start later ∧
    Deserted site.toSite start userID (trimLower site.lib domain)
  refine @insertDomain_leaves site registry (Rightful site.toSite) label userID raw domain drawn Holds
    accepted rightful (fun later holds => ?_) (fun row named wellNamed owned _ absent => ?_) ?_
  · obtain ⟨start, undisturbed, -⟩ := holds
    exact undisturbed.rightful
  · have held : addresses (registry.withDomain row) = addresses registry := by
      unfold Registry.withDomain
      split <;> rfl
    have stays : Rightful site.toSite (registry.withDomain row) := by
      refine rightful.step settles (fun holder member => .inl (held ▸ member))
        (fun _ _ _ admits => Registry.admits_withDomain admits) fun other member => ?_
      unfold Registry.withDomain at member
      split at member
      · exact rightful.plain other member
      · rcases List.mem_append.mp member with old | new
        · exact rightful.plain other old
        · rw [List.mem_singleton.mp new]
          exact wellNamed.plain
    refine ⟨_, ⟨stays, rfl, fun _ _ owned => owned⟩, fun _ => ?_⟩
    rw [held, ← named, List.eq_nil_iff_forall_not_mem]
    intro user dependent
    have admits := rightful.admits settles dependent
    rw [Registry.admits, absent] at admits
    cases admits
  · rintro effect now middle allowed free ⟨start, undisturbed, deserted⟩
    refine ⟨start, Sparing.undisturbed settles effect now middle ?_ free undisturbed, deserted⟩
    rcases allowed with key | rfl
    · exact sparing_of_keyWrite key
    · exact deserted

theorem owner_of_ownedDomain? {row : DomainRow}
    (owned : (registry.ownedDomain? userID domain).isSome = true)
    (found : registry.domain? domain = some row) : row.ownerUserID = some userID := by
  rw [Registry.ownedDomain?_eq, found, Option.filter_some] at owned
  split at owned
  next owner => simpa using owner
  · cases owned

theorem sharing_opens (settles : site.lib.Settles) {row : DomainRow} {mode : GoString} {listed : Bool}
    (opened : row.ownerUserID = some userID ∨ trimLower site.lib mode = shareModeAllVerifiedUsers ∨
      trimLower site.lib mode = shareModeAllowlist ∧ listed = true) :
    (row.ownerUserID == some userID ||
      { row with shareMode := trimLower site.lib (trimLower site.lib mode) }.shares site.lib listed) =
        true := by
  rw [trimLower_trimLower settles]
  rcases opened with owner | everybody | ⟨some, listed⟩
  · simp [owner]
  · rw [everybody, DomainRow.shares]
    simp [trimLower_trimLower settles, ← everybody]
  · rw [some, DomainRow.shares]
    simp [trimLower_trimLower settles, ← some, listed]

theorem admits_sharing (settles : site.lib.Settles) {mode other : GoString}
    (rows : next.domains = (registry.withShareMode domain
      (trimLower site.lib (trimLower site.lib mode))).domains)
    (elsewhere : other ≠ domain → next.allowlist.contains (other, userID) =
      registry.allowlist.contains (other, userID))
    (here : other = domain → ∀ row, registry.domain? domain = some row →
      row.ownerUserID = some userID ∨ trimLower site.lib mode = shareModeAllVerifiedUsers ∨
        trimLower site.lib mode = shareModeAllowlist ∧
          next.allowlist.contains (domain, userID) = true)
    (admits : registry.admits site.lib userID other = true) :
    next.admits site.lib userID other = true := by
  obtain ⟨row, found, admitted⟩ := (Option.any_eq_true ..).mp admits
  have updated : next.domain? other = (registry.domain? other).map fun row =>
      if row.domain = domain then
        { row with shareMode := trimLower site.lib (trimLower site.lib mode) }
      else row := by
    rw [Registry.domain?, rows]
    exact Registry.domain?_updateDomains _
  have named := (Registry.mem_of_domain? found).2
  rw [Registry.admits, updated, found, Option.map_some, Option.any_some]
  by_cases same : other = domain
  · subst same
    rw [if_pos named]
    rw [Bool.and_eq_true] at admitted ⊢
    exact ⟨admitted.1, sharing_opens settles (here rfl row found)⟩
  · rw [if_neg (named ▸ same), elsewhere same]
    exact admitted

theorem Rightful.sharing (settles : site.lib.Settles) (rightful : Rightful site.toSite registry)
    {name : GoString} {body : Option AdminDomainSharingBody}
    (keeps : ∀ domain ∈ pathDomain? site.lib name, ∀ sharing ∈ body,
      KeepsSharing site registry domain sharing)
    (effect : SharingEffect site registry name body next) : Rightful site.toSite next := by
  cases effect with
  | nothing => exact rightful
  | @mode domain sharing userIDs named given parsed =>
    have opens := keeps domain named sharing given userIDs parsed
    refine rightful.step settles (fun holder member => .inl member)
      (fun user other dependent => admits_sharing settles rfl (fun _ => rfl) ?_)
      (plain_updateDomains (by intro row; split <;> rfl) rightful.plain)
    rintro rfl row found
    rcases opens user dependent with owned | everybody | ⟨some, -, listed⟩
    · exact .inl (owner_of_ownedDomain? owned found)
    · exact .inr (.inl everybody)
    · exact .inr (.inr ⟨some, List.contains_iff_mem.mpr listed⟩)
  | @both domain sharing userIDs named given parsed =>
    have opens := keeps domain named sharing given userIDs parsed
    refine rightful.step settles (fun holder member => .inl member)
      (fun user other dependent => admits_sharing settles rfl (fun different => ?_) ?_)
      (plain_updateDomains (by intro row; split <;> rfl) rightful.plain)
    · unfold Registry.withAllowlist Registry.withShareMode
      simp [List.contains_eq_mem, Registry.updateDomains, different, different.symm]
    · rintro rfl row found
      rcases opens user dependent with owned | everybody | ⟨some, given, -⟩
      · exact .inl (owner_of_ownedDomain? owned found)
      · exact .inr (.inl everybody)
      · refine .inr (.inr ⟨some, List.contains_iff_mem.mpr (List.mem_append_right _ ?_)⟩)
        rw [if_pos some]
        exact List.mem_map_of_mem given

theorem verified {checks : DomainChecks} (ready : (checks.ownership && checks.ready) = true) :
    checks.mx = true ∧ checks.status = ascii "active" := by
  refine ⟨?_, if_pos ready⟩
  simp only [DomainChecks.ready, Bool.and_eq_true] at ready
  exact ready.2.1.1.1

theorem Rightful.tenant (settles : site.lib.Settles) (rightful : Rightful site.toSite registry)
    {request : DomainRequest} {env : Nat → Moment}
    (lasting : Lasting site registry (.domain request, env)) :
    Leaves site.toSite (request.handle site) registry fun _ later => Rightful site.toSite later := by
  have keys {domain : GoString} :
      ∀ effect, KeyWrite site domain effect → Sparing site.toSite registry effect :=
    fun effect key => sparing_of_keyWrite key
  cases request with
  | add userID body drawn =>
    apply leaves_refusal
    exact apiCustomDomainsAdd_leaves rightful fun _ _ _ _ accepted =>
      rightful.insertDomain settles accepted
  | adminAdd body drawn =>
    apply leaves_refusal
    exact apiAdminDomainsAdd_leaves rightful fun _ _ _ _ _ accepted =>
      rightful.insertDomain settles accepted
  | delete userID name =>
    refine onNamed_leaves rightful fun domain accepted => ?_
    exact rightful.leaves settles (deleteOwnedDomainFiles_only keys
      (lasting _ (pathDomain?_accepted accepted)))
  | verify userID name key checks =>
    refine onNamed_leaves rightful fun domain accepted => ?_
    refine rightful.leaves settles (apiCustomDomainsVerify_only keys ?_)
    exact lasting.imp verified fun deserted => deserted _ (pathDomain?_accepted accepted)
  | catchall userID name body =>
    refine onNamed_leaves rightful fun domain accepted => ?_
    exact rightful.leaves settles (apiCustomDomainsCatchall_only fun _ _ => trivial)
  | adminDelete name =>
    refine @onAdminNamed_leaves site _ _ name _ rightful ?_
    refine withAdminDomain_leaves rightful fun row found => ?_
    refine rightful.leaves settles (deleteOwnedDomainFiles_only keys ?_)
    rw [trimLower_domain (rightful.plain row (Registry.mem_of_domain? found).1)]
    exact lasting row found
  | adminVerify name key checks =>
    refine @onAdminNamed_leaves site _ _ name (fun name => apiAdminDomainsVerify site name key checks)
      rightful ?_
    refine withAdminDomain_leaves rightful fun row found => ?_
    refine rightful.leaves settles (verifyFound_only keys ?_)
    rw [trimLower_domain (rightful.plain row (Registry.mem_of_domain? found).1)]
    exact lasting.imp verified fun deserted => deserted row found
  | adminSharing name body =>
    refine @onAdminNamed_leaves site _ _ name (fun name => apiAdminDomainsPatchSharing site name body)
      rightful ?_
    refine apiAdminDomainsPatchSharing_leaves.weaken fun _ later effect => ?_
    refine rightful.sharing settles (fun domain named sharing given => ?_) effect
    cases given
    exact lasting domain named

theorem rightful_run (settles : site.lib.Settles) {start final : Registry}
    (rightful : Rightful site.toSite start) (runs : (tenancy site).Runs (Lasting site) start final) :
    Rightful site.toSite final := by
  refine Machine.Runs.invariant (Rightful site.toSite) rightful ?_ runs
  intro state action later holds lasting taken
  obtain rfl := (Option.some.inj taken).symm
  obtain ⟨request, env⟩ := action
  cases request with
  | account request => exact holds.account settles lasting ((handle_leaves request).run env)
  | domain request => exact (holds.tenant settles lasting).run env

end Steps

section Lookups

variable {site : Site} {registry : Registry} {userID : Nat} {email : GoString} {row : IdentityRow}

theorem Rightful.of_active (rightful : Rightful site registry) (member : row ∈ registry.identities)
    (active : row.isActive = true) : mayReceive site registry row.userID row.email = true :=
  rightful.held (row.userID, row.email)
    (List.mem_append_left _ (List.mem_map.mpr ⟨row, List.mem_filter.mpr ⟨member, active⟩, rfl⟩))

theorem Rightful.of_alias (rightful : Rightful site registry) {aliasRow : AliasRow}
    (member : aliasRow ∈ registry.aliases) (active : aliasRow.isActive = true) :
    mayReceive site registry aliasRow.userID aliasRow.email = true :=
  rightful.held (aliasRow.userID, aliasRow.email)
    (List.mem_append_right _ (List.mem_map.mpr ⟨aliasRow, List.mem_filter.mpr ⟨member, active⟩, rfl⟩))

theorem trimLower_normalizeEmail {lib : Library} (settles : lib.Settles) (spares : lib.SparesSpaces)
    (email : GoString) : trimLower lib (normalizeEmail lib email) = normalizeEmail lib email := by
  rw [trimLower, normalizeEmail, toLower_toLower settles, trimSpace_toLower spares]

theorem Rightful.of_catchall (settles : site.lib.Settles) (spares : site.lib.SparesSpaces)
    (rightful : Rightful site registry) {position : Nat}
    (cut : indexByte (normalizeEmail site.lib email) 0x40 = some position)
    (some : (normalizeEmail site.lib email).drop (position + 1) ≠ [])
    (caught : registry.identityForCatchall ((normalizeEmail site.lib email).drop (position + 1)) =
      .some row) :
    mayReceive site registry row.userID (normalizeEmail site.lib email) = true := by
  obtain ⟨domainRow, member, named, active, mx, owner, -, -⟩ := Registry.mem_of_catchall caught
  have plain := rightful.plain domainRow member
  have once : (0x40 : UInt8) ∉ (normalizeEmail site.lib email).drop (position + 1) := by
    intro inside
    rw [← named] at inside
    exact (isDomainByte_solid (List.all_eq_true.mp plain _ inside)).2.2.2 rfl
  refine (Option.any_eq_true ..).mpr ⟨domainRow.domain, ?_, ?_⟩
  · rw [mailboxDomain, trimLower_normalizeEmail settles spares, lastIndexByte_of_once cut once,
      Option.map_some, named]
  · have reads : trimLower site.lib (ascii "active") = ascii "active" := trimLower_domain (by decide)
    have filled : (domainRow.domain != []) = true := by simpa [named] using some
    rw [Registry.userMayUseDomainForMailbox_eq settles, trimLower_domain plain, filled,
      Registry.admits, Registry.domain?_of_mem member, Option.any_some, DomainRow.inbound, active,
      reads, mx, owner]
    simp

end Lookups

/-- In every state reached, whoever mail to an address finds is entitled to its domain. -/
theorem delivered_entitled {site : DomainSite} (settles : site.lib.Settles)
    (spares : site.lib.SparesSpaces) {start final : Registry} (rightful : Rightful site.toSite start)
    (runs : (tenancy site).Runs (Lasting site) start final) {email : GoString} {row : IdentityRow}
    (found : final.identityForEmail site.lib email = some row) :
    mayReceive site.toSite final row.userID (normalizeEmail site.lib email) = true := by
  have reached := rightful_run settles rightful runs
  rcases Registry.identityForEmail_cases site.lib found with exact | aliased | ⟨position, cut, some, caught⟩
  · obtain ⟨member, named, active⟩ := Registry.mem_of_exact exact
    rw [← named]
    exact reached.of_active member active
  · obtain ⟨aliasRow, member, named, active, -, -, print⟩ := Registry.mem_of_aliased aliased
    rw [← named, show row.userID = aliasRow.userID from congrArg Prod.fst print]
    exact reached.of_alias member active
  · exact reached.of_catchall settles spares cut some caught

def DomainSite.sample : DomainSite where
  toSite := .sample
  customDomainDKIMDir := ascii "/keys"
  newRSASignerFromPEM pem := .ok fun _ _ payload => .ok (pem ++ payload)
  publicKeyTXT signer :=
    match signer [] [] [] with
    | .error text => .error (.plain text)
    | .ok pem => .ok (ascii "v=DKIM1; k=rsa; p=" ++ pem)
  dkimDomain := ascii "elvish.local"
  dkimKeyStatus := {}

/-- A user adds `a.example`, with a key. -/
def adds (userID : Nat) (key : String) : SiteRequest × (Nat → Moment) :=
  (.domain (.add userID (some (ascii "A.example")) ⟨ascii "00", .ok (ascii key)⟩), smoothly 1)

/-- A user has `a.example` verified, and DNS is set up. -/
def verifies (userID : Nat) (key : String) : SiteRequest × (Nat → Moment) :=
  (.domain (.verify userID (ascii "a.example") (.ok (ascii key)) ⟨true, true, true, true, true⟩), smoothly 1)

/-- A user deletes `a.example`. -/
def deletes (userID : Nat) : SiteRequest × (Nat → Moment) :=
  (.domain (.delete userID (ascii "a.example")), smoothly 1)

/-- A user creates an identity at `a.example`. -/
def posts (userID : Nat) (fingerprint : String) : SiteRequest × (Nat → Moment) :=
  (.account (.post userID (some
    { email := ascii "sales@a.example"
      armoredPublic := ascii fingerprint
      primaryUID := []
      wrappedSecretB64 := ascii "AAAA"
      isDefault := false
      expiresAt := []
      avatarDataURL := []
      avatarColor := []
      statusBadgeEnabled := false })), smoothly 1)

def aliceSetsUp : List (SiteRequest × (Nat → Moment)) :=
  [(.account (registration "alice" "alice@elvish.local" "A1"), smoothly 1),
    (.account (registration "bob" "bob@elvish.local" "B1"), smoothly 1),
    adds 1 "K1", verifies 1 "K1", posts 1 "A2"]

/-- Alice deletes her identity there, and then her domain, before Bob sets it up. -/
def cleanHandover : Registry :=
  (tenancy .sample).after (aliceSetsUp ++
    [(.account (.delete 1 (ascii "A2")), smoothly 1), deletes 1, adds 3 "K2", verifies 3 "K2",
      posts 3 "B2"]) .empty

theorem delivered_entitled_handover :
    ∃ row, cleanHandover.identityForEmail .plain (ascii "sales@a.example") = some row ∧
      row.userID = 3 ∧ mayReceive .sample cleanHandover row.userID (ascii "sales@a.example") = true := by
  have found : (cleanHandover.identityForEmail .plain (ascii "sales@a.example")).map
      IdentityRow.userID = some 3 := by decide +kernel
  obtain ⟨row, resolved, owner⟩ := Option.map_eq_some_iff.mp found
  have start : Rightful Site.sample .empty :=
    ⟨fun _ member => absurd member List.not_mem_nil, fun _ member => absurd member List.not_mem_nil⟩
  have may := @delivered_entitled .sample plain_settles plain_sparesSpaces .empty cleanHandover start
    (Machine.after_runs _ (by decide +kernel)) (ascii "sales@a.example") row resolved
  have reads : normalizeEmail .plain (ascii "sales@a.example") = ascii "sales@a.example" := by
    decide +kernel
  exact ⟨row, resolved, owner, reads ▸ may⟩

/-- Alice deletes her domain only, and Bob sets it up. -/
def roughHandover : Registry :=
  (tenancy .sample).after (aliceSetsUp ++ [deletes 1, adds 3 "K2", verifies 3 "K2"]) .empty

/-- Mail to a domain that is Bob's now is delivered to Alice, who may not use the domain. -/
theorem delivered_to_former_owner :
    (tenancy .sample).Runs (fun _ _ => True) .empty roughHandover ∧
      (roughHandover.domain? (ascii "a.example")).map DomainRow.ownerUserID = some (some 3) ∧
      roughHandover.userMayUseDomainForMailbox .plain 3 (ascii "a.example") = true ∧
      (roughHandover.identityForEmail .plain (ascii "sales@a.example")).map IdentityRow.userID =
        some 1 ∧
      roughHandover.userMayUseDomainForMailbox .plain 1 (ascii "a.example") = false ∧
      mayReceive .sample roughHandover 1 (ascii "sales@a.example") = false := by
  refine ⟨Machine.after_runs _ (Machine.permits_of_forall (fun _ _ => trivial) _ _), ?_⟩
  decide +kernel

end ElvishMail.Httpserver
