import ElvishMail.Httpserver.Entitlement
import ElvishMail.Mailmeta.DefaultIdentity
import ElvishMail.Semantics.Handlers

/-!
# Addresses that ought to expire

`apiIdentitiesPost` stores the time at which a disposable address expires, and the list of
identities shows it. None of the lookups by which an address finds an identity reads it,
and nothing makes an identity inactive in time. So an address is in use for as long as
somebody has an active identity at it, or an alias or the catch-all of its domain stands
for it: `disposable_lapses`. A disposable address that nobody revokes or deletes goes on to
receive mail, to send, and to be the default: `disposable_outlives`.

`apiIdentityPatch` stands here beside the requests of other modules, with its statement on
the profile of an identity.
-/

namespace ElvishMail.Httpserver

open Go Smtp Mailmeta Semantics

/-- A statement of these requests: one on the registry, or `UPDATE user_identity_keys` with
the columns of a profile. -/
inductive ProfileStatement where
  | registry (statement : RegistryStatement)
  | updateProfile (userID : Nat) (fingerprint avatarDataURL avatarColor : GoString)
      (statusBadgeEnabled : Bool)

namespace ProfileStatement

abbrev Answer : ProfileStatement → Type
  | registry statement => statement.Answer
  | updateProfile .. => Option WriteError

def answer (lib : Library) (moment : Moment) :
    (statement : ProfileStatement) → Registry → statement.Answer × Registry
  | registry statement, before => statement.answer lib moment before
  | updateProfile userID fingerprint avatarDataURL avatarColor statusBadgeEnabled, before =>
    if (before.identity? userID fingerprint).isSome then
      (moment.outcome.error?.map .failed,
        if moment.outcome.applied then
          before.updateIdentities fun row =>
            if row.print = (userID, fingerprint) then
              { row with avatarDataURL, avatarColor, statusBadgeEnabled }
            else row
        else before)
    else (some (moment.outcome.error?.elim .notFound .failed), before)

end ProfileStatement

abbrev Profiling (Value : Type) : Type := Program ProfileStatement ProfileStatement.Answer Value

def onRegistry {Value : Type} (program : Registering Value) : Profiling Value :=
  program.handle fun statement => .ask (.registry statement) .done

section Patching

variable (site : Site)

def updateIdentityProfile (userID : Nat) (fingerprint avatarDataURL avatarColor : GoString)
    (statusBadgeEnabled : Bool) : Profiling (Option WriteError) :=
  let fingerprint := toUpper site.lib (trimSpace fingerprint)
  if fingerprint = [] then .done (some .notFound)
  else do
    let avatarColor := normalizeIdentityAvatarColor site.lib avatarColor []
    match ← onRegistry (identityByFingerprint site.lib userID fingerprint) with
    | .error err => return some (.failed err)
    | .ok none => return some .notFound
    | .ok (some current) =>
      .ask (.updateProfile userID fingerprint (trimSpace avatarDataURL)
        (normalizeIdentityAvatarColor site.lib avatarColor current.email) statusBadgeEnabled) .done

structure IdentityPatchBody where
  avatarDataURL : Option GoString
  avatarColor : Option GoString
  statusBadgeEnabled : Option Bool
deriving DecidableEq

/-- `apiIdentityPatch` on the fingerprint that was selected. -/
def apiIdentityPatch (userID : Nat) (fingerprint : GoString) :
    Option IdentityPatchBody → Profiling (Option Refusal)
  | none => .done (some (.status 400 (ascii "invalid json")))
  | some body =>
    if body.avatarDataURL.isNone && body.avatarColor.isNone && body.statusBadgeEnabled.isNone then
      .done (some (.status 400 (ascii "at least one profile field is required")))
    else do
      match ← onRegistry (identityByFingerprint site.lib userID fingerprint) with
      | .error err => return some (.internal (ascii "identity load") err)
      | .ok none => return some (.status 404 (ascii "identity not found"))
      | .ok (some current) =>
        match body.avatarDataURL.elim (.ok current.avatarDataURL) (normalizeAvatarDataURL site) with
        | .error text => return some (.status 400 text)
        | .ok avatarDataURL =>
          let avatarColor := body.avatarColor.elim current.avatarColor
            fun color => normalizeIdentityAvatarColor site.lib color current.email
          let statusBadgeEnabled := body.statusBadgeEnabled.getD current.statusBadgeEnabled
          match ← updateIdentityProfile site userID fingerprint avatarDataURL avatarColor
              statusBadgeEnabled with
          | some .notFound => return some (.status 404 (ascii "identity not found"))
          | some err => return some (.internal (ascii "identity profile update") err.error)
          | none => return none

/-- `PATCH` on an identity. -/
def patchIdentity (userID : Nat) (selector : GoString) (body : Option IdentityPatchBody) :
    Profiling (Option Refusal) := do
  match ← onRegistry (resolveIdentitySelector site userID selector) with
  | .error .notFound => return some (.status 404 (ascii "identity not found"))
  | .error (.failed err) => return some (.internal (ascii "identity resolve") err)
  | .ok fingerprint => apiIdentityPatch site userID fingerprint body

end Patching

inductive IdentityRequest where
  | site (request : SiteRequest)
  | patch (userID : Nat) (selector : GoString) (body : Option IdentityPatchBody)

section Requests

variable (site : DomainSite)

def IdentityRequest.handle : IdentityRequest → Profiling (Option Refusal)
  | .site request => onRegistry (request.handle site)
  | patch userID selector body => patchIdentity site.toSite userID selector body

def IdentityRequest.serve (request : IdentityRequest) (moments : Nat → Moment) (registry : Registry) :
    Option Refusal × Registry :=
  (request.handle site).run (ProfileStatement.answer site.lib) moments registry

def identityOperations : Machine Registry (IdentityRequest × (Nat → Moment)) where
  step registry action := some (action.1.serve site action.2 registry).2

def IdentityRequest.givesUp (registry : Registry) : IdentityRequest → Option (Nat × GoString)
  | .site (.account (.revoke userID selector _)) | .site (.account (.delete userID selector)) =>
    (selectedFingerprint site.toSite registry userID selector).map fun print => (userID, print)
  | _ => none

/-- The request does not give this identity up. -/
def LeavesAlone (row : IdentityRow) (registry : Registry)
    (action : IdentityRequest × (Nat → Moment)) : Prop :=
  action.1.givesUp site registry ≠ some row.print

instance (row : IdentityRow) (registry : Registry) (action : IdentityRequest × (Nat → Moment)) :
    Decidable (LeavesAlone site row registry action) :=
  inferInstanceAs (Decidable (_ ≠ _))

end Requests

section Lookups

variable (lib : Library) (registry : Registry) (email : GoString)

/-- An address finds no identity, whoever looks, and is nobody's default. -/
structure Lapsed : Prop where
  recipient : registry.identityForEmail lib email = none
  sender : ∀ userID, registry.identityForUserEmail lib userID email = none
  preferred : ∀ userID row, registry.defaultIdentityForUser userID = some row → row.email ≠ email

/-- Nobody has an active identity at an address, and neither an alias nor the catch-all of its
domain stands for it. -/
structure Vacant : Prop where
  identities : ∀ row ∈ registry.identities, row.isActive = true → row.email ≠ email
  aliases : registry.aliased email = []
  catchall : ∀ position, indexByte email 0x40 = some position → email.drop (position + 1) ≠ [] →
    registry.catching (email.drop (position + 1)) = []

variable {lib registry email}

theorem lapsed_iff_vacant (normal : normalizeEmail lib email = email) (filled : email ≠ []) :
    Lapsed lib registry email ↔ Vacant registry email := by
  constructor
  · rintro ⟨recipient, -, -⟩
    unfold Registry.identityForEmail at recipient
    dsimp only at recipient
    rw [normal, if_neg filled] at recipient
    split at recipient
    · cases recipient
    next noIdentity =>
    split at recipient
    · cases recipient
    next noAlias =>
    refine ⟨fun row member active named => ?_, ?_, fun position cut more => ?_⟩
    · have listed := Rows.top_eq_none.mp noIdentity
      have kept : row ∈ registry.identities.filter fun row => row.email == email && row.isActive :=
        List.mem_filter.mpr ⟨member, by simp [named, active]⟩
      rw [listed] at kept
      cases kept
    · exact Rows.top_eq_none.mp (Option.map_eq_none_iff.mp noAlias)
    · rw [cut] at recipient
      dsimp only at recipient
      rw [if_neg more] at recipient
      exact List.head?_eq_none_iff.mp recipient
  · intro vacant
    refine ⟨?_, fun userID => ?_, fun userID row found => ?_⟩
    · rw [← Option.not_isSome_iff_eq_none]
      intro found
      obtain ⟨row, found⟩ := Option.isSome_iff_exists.mp found
      rcases Registry.identityForEmail_cases lib found with exact | aliased | ⟨position, cut, more, caught⟩
      · obtain ⟨member, named, active⟩ := Registry.mem_of_exact exact
        exact vacant.identities row member active (named.trans normal)
      · rw [normal, Registry.identityForAliasEmail, vacant.aliases] at aliased
        cases aliased
      · rw [normal] at cut more caught
        rw [Registry.identityForCatchall, vacant.catchall position cut more] at caught
        cases caught
    · unfold Registry.identityForUserEmail
      dsimp only
      rw [normal, if_neg filled, Rows.top_eq_none, List.filter_eq_nil_iff]
      intro row member listed
      simp only [Bool.and_eq_true, beq_iff_eq] at listed
      exact vacant.identities row member listed.2 listed.1.2
    · have shown : row ∈ registry.identities ∧ row.userID = userID ∧ row.isActive = true := by
        simpa using Rows.mem_of_top found
      exact vacant.identities row shown.1 shown.2.2

end Lookups

section Effects

variable {registry next : Registry} {row : IdentityRow}

/-- Every identity is new, or was there before under its id, as active as it is now. -/
structure Descends (registry next : Registry) : Prop where
  drawn : registry.drawn ≤ next.drawn
  origin : ∀ row ∈ next.identities, registry.drawn < row.id ∨ ∃ old ∈ registry.identities,
    old.id = row.id ∧ old.print = row.print ∧ (row.isActive = true → old.isActive = true)

theorem Descends.refl (registry : Registry) : Descends registry registry :=
  ⟨Nat.le_refl _, fun row member => .inr ⟨row, member, rfl, rfl, id⟩⟩

theorem Descends.trans {middle : Registry} (first : Descends registry middle)
    (second : Descends middle next) : Descends registry next := by
  refine ⟨first.drawn.trans second.drawn, fun row member => ?_⟩
  rcases second.origin row member with new | ⟨old, there, same, print, active⟩
  · exact .inl (first.drawn.trans_lt new)
  · rcases first.origin old there with new | ⟨older, stood, alike, printed, wasActive⟩
    · exact .inl (same ▸ new)
    · exact .inr ⟨older, stood, alike.trans same, printed.trans print, wasActive ∘ active⟩

theorem Descends.fewer (drawn : next.drawn = registry.drawn)
    (identities : next.identities ⊆ registry.identities) : Descends registry next :=
  ⟨drawn.ge, fun row member => .inr ⟨row, identities member, rfl, rfl, id⟩⟩

theorem Descends.update {change : IdentityRow → IdentityRow}
    (keeps : ∀ row, (change row).id = row.id ∧ (change row).print = row.print ∧
      ((change row).isActive = true → row.isActive = true)) :
    Descends registry (registry.updateIdentities change) := by
  refine ⟨Nat.le_refl _, fun row member => ?_⟩
  obtain ⟨old, there, rfl⟩ := List.mem_map.mp member
  exact .inr ⟨old, there, (keeps old).1.symm, (keeps old).2.1.symm, (keeps old).2.2⟩

theorem Descends.withIdentity (now : Time) (row : IdentityRow) :
    Descends registry (registry.withIdentity now row) := by
  refine ⟨Nat.le_succ _, fun stored member => ?_⟩
  rcases List.mem_append.mp member with old | new
  · exact .inr ⟨stored, old, rfl, rfl, id⟩
  · rw [List.mem_singleton.mp new]
    exact .inl (Nat.lt_succ_self _)

theorem Descends.withAccount (now : Time) (userID : Nat) (rows : List IdentityRow) :
    Descends registry (registry.withAccount now userID rows) := by
  have general (keyed : Registry) :
      Descends keyed (rows.foldl (fun registry row => registry.withIdentity now row) keyed) := by
    induction rows generalizing keyed with
    | nil => exact .refl keyed
    | cons row rest ih =>
      exact (Descends.withIdentity now row).trans (ih _)
  have keyed : Descends registry { registry with accountKeys := registry.accountKeys ++ [userID] } :=
    .fewer rfl (List.Subset.refl _)
  exact keyed.trans (general _)

/-- An identity is there as it was stored, apart from its profile and its flag. -/
def Lives (row : IdentityRow) (registry : Registry) : Prop :=
  ∃ kept ∈ registry.identities, kept.id = row.id ∧ kept.print = row.print ∧ kept.email = row.email ∧
    kept.expiresAt = row.expiresAt ∧ kept.isActive = true

theorem Lives.more (lives : Lives row registry) (identities : registry.identities ⊆ next.identities) :
    Lives row next := by
  obtain ⟨kept, member, same⟩ := lives
  exact ⟨kept, identities member, same⟩

theorem Lives.update (lives : Lives row registry) {change : IdentityRow → IdentityRow}
    (keeps : ∀ kept, kept.print = row.print → (change kept).id = kept.id ∧
      (change kept).print = kept.print ∧ (change kept).email = kept.email ∧
      (change kept).expiresAt = kept.expiresAt ∧ (change kept).isActive = kept.isActive) :
    Lives row (registry.updateIdentities change) := by
  obtain ⟨kept, member, id, print, email, expires, active⟩ := lives
  obtain ⟨sameID, samePrint, sameEmail, sameExpiry, sameActive⟩ := keeps kept print
  exact ⟨change kept, List.mem_map_of_mem member, sameID.trans id, samePrint.trans print,
    sameEmail.trans email, sameExpiry.trans expires, sameActive.trans active⟩

theorem Lives.filter (lives : Lives row registry) {keep : IdentityRow → Bool}
    (identities : next.identities = registry.identities.filter keep)
    (keeps : ∀ kept, kept.print = row.print → keep kept = true) : Lives row next := by
  obtain ⟨kept, member, id, print, rest⟩ := lives
  exact ⟨kept, identities ▸ List.mem_filter.mpr ⟨member, keeps kept print⟩, id, print, rest⟩

theorem subset_withIdentities {now : Time} (rows : List IdentityRow) :
    registry.identities ⊆
      (rows.foldl (fun registry row => registry.withIdentity now row) registry).identities := by
  induction rows generalizing registry with
  | nil => exact List.Subset.refl _
  | cons row rest ih =>
    exact List.Subset.trans (List.subset_append_left registry.identities _)
      (@ih (registry.withIdentity now row))

end Effects

section Requests

variable {site : Site} {registry next : Registry} {row : IdentityRow}

theorem Enrolled.descends {userID : Nat} {accountKey : AccountKeyBootstrap}
    (enrolled : Enrolled site registry userID accountKey next) : Descends registry next := by
  cases enrolled with
  | unchanged => exact .refl registry
  | stored now parsed => exact .withAccount ..

theorem Enrolled.lives {userID : Nat} {accountKey : AccountKeyBootstrap}
    (enrolled : Enrolled site registry userID accountKey next) (lives : Lives row registry) :
    Lives row next := by
  cases enrolled with
  | unchanged => exact lives
  | stored now parsed =>
    exact lives.more (@subset_withIdentities
      { registry with accountKeys := registry.accountKeys ++ [userID] } now _)

theorem AccountEffect.descends {request : AccountRequest}
    (effect : AccountEffect site registry request next) : Descends registry next := by
  cases effect with
  | nothing => exact .refl registry
  | registered email named enrolled =>
    have added : Descends registry (registry.withUser email) :=
      ⟨Nat.le_succ _, fun row member => .inr ⟨row, member, rfl, rfl, id⟩⟩
    exact added.trans enrolled.descends
  | abandoned email named enrolled =>
    have added : Descends registry (registry.withUser email) :=
      ⟨Nat.le_succ _, fun row member => .inr ⟨row, member, rfl, rfl, id⟩⟩
    exact (added.trans enrolled.descends).trans (.fewer rfl List.filter_sublist.subset)
  | bootstrapped enrolled => exact enrolled.descends
  | posted now => exact .withIdentity ..
  | revoked now fingerprint =>
    refine .update fun row => ?_
    split
    · exact ⟨rfl, rfl, nofun⟩
    · exact ⟨rfl, rfl, id⟩
  | deleted now fingerprint => exact .fewer rfl List.filter_sublist.subset
  | defaulted now fingerprint =>
    refine .update fun row => ?_
    split <;> exact ⟨rfl, rfl, id⟩

def AccountRequest.GivesUp : AccountRequest → Prop
  | .revoke .. | .delete .. => True
  | _ => False

theorem AccountEffect.lives {request : AccountRequest}
    (effect : AccountEffect site registry request next) (other : ¬request.GivesUp)
    (owner : row.userID ≤ registry.drawn) (lives : Lives row registry) : Lives row next := by
  have withUser (email : GoString) : Lives row (registry.withUser email) := lives
  cases effect with
  | nothing => exact lives
  | registered email named enrolled => exact enrolled.lives (withUser email)
  | abandoned email named enrolled =>
    -- the user that is given up is a new one
    refine (enrolled.lives (withUser email)).filter rfl fun kept print => ?_
    have same : kept.userID = row.userID := congrArg Prod.fst print
    simp only [bne_iff_ne, ne_eq]
    omega
  | bootstrapped enrolled => exact enrolled.lives lives
  | posted now => exact lives.more (List.subset_append_left _ _)
  | revoked => exact absurd trivial other
  | deleted => exact absurd trivial other
  | defaulted now fingerprint =>
    refine lives.update fun kept _ => ?_
    split <;> exact ⟨rfl, rfl, rfl, rfl, rfl⟩

theorem apiIdentityRevoke_selected {userID : Nat} {selector : GoString} {certificate : Option GoString} :
    Leaves site (apiIdentityRevoke site userID selector certificate) registry fun refusal next =>
      (∃ reason, refusal = some reason) ∧ next = registry ∨
        ∃ now fingerprint, selectedFingerprint site registry userID selector = some fingerprint ∧
          next = (RegistryWrite.revokeIdentity userID fingerprint).apply now registry := by
  have refused (reason : Refusal) : ((∃ given, some reason = some given) ∧ registry = registry) ∨
      ∃ now fingerprint, selectedFingerprint site registry userID selector = some fingerprint ∧
        registry = (RegistryWrite.revokeIdentity userID fingerprint).apply now registry :=
    .inl ⟨⟨reason, rfl⟩, rfl⟩
  cases certificate with
  | none =>
    unfold apiIdentityRevoke
    rw [Leaves, Program.ensures_bind]
    refine resolveIdentitySelector_leaves.weaken fun resolved next kept => ?_
    cases kept.1
    rcases resolved with (_ | err) | fingerprint
    · exact refused _
    · exact refused _
    · exact refused _
  | some certificate =>
    unfold apiIdentityRevoke
    rw [Leaves, Program.ensures_bind]
    refine resolveIdentitySelector_leaves.weaken fun resolved next kept => ?_
    obtain ⟨rfl, selected⟩ := kept
    rcases resolved with (_ | err) | fingerprint
    · exact refused _
    · exact refused _
    · dsimp only
      split
      · exact refused _
      · refine write_leaves (fun err => ?_) (fun err now _ => ?_) (fun now _ => ?_)
        · exact refused _
        · exact .inr ⟨now, fingerprint, selected _ rfl, rfl⟩
        · exact .inr ⟨now, fingerprint, selected _ rfl, rfl⟩

def Profiles : ProfileStatement → Prop
  | .registry statement => statement.Writes fun _ => False
  | .updateProfile .. => True

theorem onRegistry_only {Value : Type} {program : Registering Value}
    (only : program.Only (RegistryStatement.Writes fun _ => False)) :
    (onRegistry program).Only Profiles :=
  only.handle fun _ reads => ⟨reads, fun _ => trivial⟩

theorem identityByFingerprint_reads {lib : Library} {userID : Nat} {fingerprint : GoString} :
    (identityByFingerprint lib userID fingerprint).Only (RegistryStatement.Writes fun _ => False) := by
  unfold identityByFingerprint
  dsimp only
  split
  · exact trivial
  · exact ⟨trivial, fun _ => trivial⟩

theorem updateIdentityProfile_only {userID : Nat} {fingerprint avatarDataURL avatarColor : GoString}
    {statusBadgeEnabled : Bool} :
    (updateIdentityProfile site userID fingerprint avatarDataURL avatarColor
      statusBadgeEnabled).Only Profiles := by
  unfold updateIdentityProfile
  dsimp only
  generalize toUpper site.lib (trimSpace fingerprint) = print
  split
  · exact trivial
  have reads : (onRegistry (identityByFingerprint site.lib userID print)).Only Profiles :=
    onRegistry_only identityByFingerprint_reads
  generalize onRegistry (identityByFingerprint site.lib userID print) = lookup at reads ⊢
  refine reads.bind fun found => ?_
  match found with
  | .error err => exact trivial
  | .ok none => exact trivial
  | .ok (some current) => exact ⟨trivial, fun _ => trivial⟩

theorem apiIdentityPatch_only {userID : Nat} {fingerprint : GoString} {body : Option IdentityPatchBody} :
    (apiIdentityPatch site userID fingerprint body).Only Profiles := by
  unfold apiIdentityPatch
  split
  · exact trivial
  split
  · exact trivial
  have reads : (onRegistry (identityByFingerprint site.lib userID fingerprint)).Only Profiles :=
    onRegistry_only identityByFingerprint_reads
  generalize onRegistry (identityByFingerprint site.lib userID fingerprint) = lookup at reads ⊢
  refine reads.bind fun found => ?_
  match found with
  | .error err => exact trivial
  | .ok none => exact trivial
  | .ok (some current) =>
    dsimp only
    split
    · exact trivial
    refine updateIdentityProfile_only.bind fun updated => ?_
    match updated with
    | some .notFound => exact trivial
    | some .duplicateKey => exact trivial
    | some (.failed err) => exact trivial
    | none => exact trivial

theorem profiles_answer {lib : Library} (moment : Moment) (statement : ProfileStatement)
    (before : Registry) (profiles : Profiles statement) :
    Descends before (statement.answer lib moment before).2 ∧
      ∀ row, Lives row before → Lives row (statement.answer lib moment before).2 := by
  have unchanged : Descends before before ∧ ∀ row, Lives row before → Lives row before :=
    ⟨.refl before, fun _ => id⟩
  cases statement with
  | registry statement =>
    have same : before = (statement.answer lib moment before).2 :=
      RegistryStatement.Writes.kept (fun _ _ _ may => may.elim) moment statement before profiles rfl
    simp only [ProfileStatement.answer]
    rw [← same]
    exact unchanged
  | updateProfile userID fingerprint avatarDataURL avatarColor statusBadgeEnabled =>
    simp only [ProfileStatement.answer]
    split
    · split
      · refine ⟨.update fun row => ?_, fun row lives => lives.update fun kept _ => ?_⟩
        · split <;> exact ⟨rfl, rfl, id⟩
        · split <;> exact ⟨rfl, rfl, rfl, rfl, rfl⟩
      · exact unchanged
    · exact unchanged

end Requests

section Serving

variable {site : DomainSite} {registry : Registry} {row : IdentityRow} {moments : Nat → Moment}

theorem serve_site (request : SiteRequest) (wanted : Option Refusal → Registry → Prop)
    (leaves : Leaves site.toSite (request.handle site) registry wanted) :
    wanted ((IdentityRequest.site request).serve site moments registry).1
      ((IdentityRequest.site request).serve site moments registry).2 := by
  have handled : ((IdentityRequest.site request).handle site).Ensures (ProfileStatement.answer site.lib)
      registry fun value after => wanted value (id after) := by
    refine Program.Ensures.handle (fun statement whole wanted ensured => ?_) leaves
    exact fun moment => ensured moment
  exact handled.run moments

theorem serve_patch {userID : Nat} {selector : GoString} {body : Option IdentityPatchBody} :
    Descends registry ((IdentityRequest.patch userID selector body).serve site moments registry).2 ∧
      ∀ row, Lives row registry →
        Lives row ((IdentityRequest.patch userID selector body).serve site moments registry).2 := by
  have patches : (patchIdentity site.toSite userID selector body).Only Profiles := by
    refine (onRegistry_only resolveIdentitySelector_only).bind fun resolved => ?_
    match resolved with
    | .error .notFound => exact trivial
    | .error (.failed err) => exact trivial
    | .ok fingerprint => exact apiIdentityPatch_only
  refine patches.run_holds (fun later : Registry => Descends registry later ∧
    ∀ row, Lives row registry → Lives row later) ?_ ⟨.refl registry, fun _ => id⟩ moments
  rintro moment statement later profiles ⟨descends, lives⟩
  exact ⟨descends.trans (profiles_answer moment statement later profiles).1,
    fun row => (profiles_answer moment statement later profiles).2 row ∘ lives row⟩

theorem serve_descends (request : IdentityRequest) :
    Descends registry (request.serve site moments registry).2 := by
  cases request with
  | patch userID selector body => exact serve_patch.1
  | site request =>
    cases request with
    | account request =>
      exact serve_site (.account request) (fun _ next => Descends registry next)
        ((handle_leaves request).weaken fun _ _ effect => effect.descends)
    | domain request =>
      refine serve_site (.domain request) (fun _ next => Descends registry next)
        (request.handle_keeps.weaken fun _ next same => .fewer same.2.2 ?_)
      rw [same.1]
      exact List.Subset.refl _

theorem serve_lives {request : IdentityRequest}
    (alone : LeavesAlone site row registry (request, moments)) (owner : row.userID ≤ registry.drawn)
    (lives : Lives row registry) : Lives row (request.serve site moments registry).2 := by
  cases request with
  | patch userID selector body => exact serve_patch.2 row lives
  | site request =>
    cases request with
    | domain request =>
      refine serve_site (.domain request) (fun _ next => Lives row next)
        (request.handle_keeps.weaken fun _ next same => lives.more ?_)
      rw [same.1]
      exact List.Subset.refl _
    | account request =>
      refine serve_site (.account request) (fun _ next => Lives row next) ?_
      have others (request : AccountRequest) (other : ¬request.GivesUp) :
          Leaves site.toSite ((SiteRequest.account request).handle site) registry
            fun _ next => Lives row next :=
        (handle_leaves request).weaken fun _ _ effect => effect.lives other owner lives
      cases request with
      | revoke userID selector certificate =>
        refine apiIdentityRevoke_selected.weaken fun refusal next left => ?_
        rcases left with ⟨-, rfl⟩ | ⟨now, fingerprint, selected, rfl⟩
        · exact lives
        · refine lives.update fun kept print => ?_
          have other : kept.print ≠ (userID, fingerprint) := by
            intro same
            refine alone ?_
            simp [IdentityRequest.givesUp, selected, ← print, same]
          rw [if_neg other]
          exact ⟨rfl, rfl, rfl, rfl, rfl⟩
      | delete userID selector =>
        refine onSelected_leaves.weaken fun refusal next left => ?_
        rcases left with ⟨-, rfl⟩ | ⟨now, fingerprint, selected, -, rfl⟩
        · exact lives
        · refine lives.filter rfl fun kept print => ?_
          have other : kept.print ≠ (userID, fingerprint) := by
            intro same
            refine alone ?_
            simp [IdentityRequest.givesUp, selected, ← print, same]
          simpa using other
      | register | bootstrap | post | default => exact others _ not_false

theorem serve_givesUp {request : IdentityRequest}
    (given : request.givesUp site registry = some row.print)
    (done : (request.serve site moments registry).1 = none) :
    ∀ kept ∈ (request.serve site moments registry).2.identities, kept.print = row.print →
      kept.isActive = false := by
  match request, given with
  | .site (.account (.revoke userID selector certificate)), given =>
    revert done
    refine serve_site (.account (.revoke userID selector certificate))
      (fun refusal next => refusal = none → ∀ kept ∈ next.identities,
        kept.print = row.print → kept.isActive = false) ?_
    refine apiIdentityRevoke_selected.weaken fun refusal next left done => ?_
    rcases left with ⟨⟨reason, refused⟩, -⟩ | ⟨now, fingerprint, selected, rfl⟩
    · cases refused.symm.trans done
    · intro kept member print
      have named : (userID, fingerprint) = row.print := by
        simpa [IdentityRequest.givesUp, selected] using given
      obtain ⟨old, there, rfl⟩ := List.mem_map.mp member
      by_cases hit : old.print = (userID, fingerprint)
      · rw [if_pos hit]
      · rw [if_neg hit] at print
        exact absurd (print.trans named.symm) hit
  | .site (.account (.delete userID selector)), given =>
    revert done
    refine serve_site (.account (.delete userID selector))
      (fun refusal next => refusal = none → ∀ kept ∈ next.identities,
        kept.print = row.print → kept.isActive = false) ?_
    refine onSelected_leaves.weaken fun refusal next left done => ?_
    rcases left with ⟨⟨reason, refused⟩, -⟩ | ⟨now, fingerprint, selected, -, rfl⟩
    · cases refused.symm.trans done
    · intro kept member print
      have named : (userID, fingerprint) = row.print := by
        simpa [IdentityRequest.givesUp, selected] using given
      have other : kept.print ≠ (userID, fingerprint) := by
        simpa using (List.mem_filter.mp member).2
      exact absurd (print.trans named.symm) other

end Serving

section Runs

variable {site : DomainSite} {registry next final : Registry} {row : IdentityRow}

structure Numbered (registry : Registry) : Prop where
  users : ∀ user ∈ registry.users, user.id ≤ registry.drawn
  identities : ∀ row ∈ registry.identities, row.id ≤ registry.drawn

instance (registry : Registry) : Decidable (Numbered registry) :=
  decidable_of_iff ((∀ user ∈ registry.users, user.id ≤ registry.drawn) ∧
      ∀ row ∈ registry.identities, row.id ≤ registry.drawn)
    ⟨fun both => ⟨both.1, both.2⟩, fun numbered => ⟨numbered.users, numbered.identities⟩⟩

structure Sole (row : IdentityRow) (registry : Registry) : Prop where
  drawn : row.id ≤ registry.drawn
  owner : row.userID ≤ registry.drawn
  print : ∀ other ∈ registry.identities, other.id = row.id → other.print = row.print

theorem Sole.descends (sole : Sole row registry) (descends : Descends registry next) : Sole row next := by
  refine ⟨sole.drawn.trans descends.drawn, sole.owner.trans descends.drawn, fun other member same => ?_⟩
  rcases descends.origin other member with new | ⟨old, there, id, print, -⟩
  · exact absurd (same ▸ sole.drawn) (Nat.not_le_of_lt new)
  · exact print.symm.trans (sole.print old there (id.trans same))

structure Gone (row : IdentityRow) (registry : Registry) : Prop where
  drawn : row.id ≤ registry.drawn
  inactive : ∀ other ∈ registry.identities, other.id = row.id → other.isActive = false

theorem Gone.descends (gone : Gone row registry) (descends : Descends registry next) : Gone row next := by
  refine ⟨gone.drawn.trans descends.drawn, fun other member same => ?_⟩
  rcases descends.origin other member with new | ⟨old, there, id, -, active⟩
  · exact absurd (same ▸ gone.drawn) (Nat.not_le_of_lt new)
  · have wasInactive := gone.inactive old there (id.trans same)
    by_contra isActive
    rw [active (by simpa using isActive)] at wasInactive
    cases wasInactive

theorem step_descends {allowed : Registry → IdentityRequest × (Nat → Moment) → Prop}
    (runs : (identityOperations site).Runs allowed registry final) : Descends registry final := by
  refine runs.invariant (Descends registry) (.refl registry) fun descends _ taken => ?_
  cases taken
  exact descends.trans (serve_descends _)

/-- Whatever is requested, an identity keeps its owner and its fingerprint as long as it is stored,
and none that has become inactive is active again. -/
theorem identity_kept (old : row.id ≤ registry.drawn)
    (runs : (identityOperations site).Runs (fun _ _ => True) registry final)
    (member : row ∈ final.identities) : ∃ before ∈ registry.identities,
      before.id = row.id ∧ before.print = row.print ∧ (row.isActive = true → before.isActive = true) :=
  ((step_descends runs).origin row member).resolve_left (Nat.not_lt.mpr old)

theorem lives_run (sole : Sole row registry) (lives : Lives row registry)
    (runs : (identityOperations site).Runs (LeavesAlone site row) registry final) : Lives row final := by
  have both := runs.invariant (fun state => Sole row state ∧ Lives row state) ⟨sole, lives⟩ ?_
  · exact both.2
  · rintro state ⟨request, moments⟩ next ⟨alike, there⟩ alone taken
    cases taken
    exact ⟨alike.descends (serve_descends _), serve_lives alone alike.owner there⟩

theorem posted_identity {userID : Nat} {body : IdentityPostBody} {moments : Nat → Moment}
    {fingerprint : GoString} {created : Registry} (numbered : Numbered registry)
    (posted : (apiIdentitiesPost site.toSite userID (some body)).run
      (RegistryStatement.answer site.lib) moments registry = (.ok fingerprint, created)) :
    ∃ row ∈ created.identities, row.userID = userID ∧
      row.email = normalizeEmail site.lib body.email ∧ row.isActive = true ∧
      parseExpiresAt site.toSite body.expiresAt = .ok row.expiresAt ∧ Sole row created ∧
      Entitled site.toSite registry userID row.email := by
  have leaves := @apiIdentitiesPost_leaves site.toSite registry userID body
  have answered := leaves.run moments
  rw [posted] at answered
  generalize accepted : refusal? (Except.ok fingerprint : Except Refusal GoString) = refusal at answered
  cases answered with
  | refused => cases accepted
  | posted refusal now owner named active flag entitled free fits expires =>
    rename_i row
    refine ⟨{ row with id := registry.drawn + 1, createdAt := now },
      List.mem_append_right _ List.mem_cons_self, owner, named, active, expires, ⟨?_, ?_, ?_⟩, entitled⟩
    · exact Nat.le_refl _
    · have known : registry.users.any (·.id == row.userID) = true := by
        unfold RegistryWrite.violation at fits
        dsimp only at fits
        split at fits
        · cases fits
        next free =>
          rw [Bool.or_eq_true, not_or] at free
          simpa using free.1
      obtain ⟨user, member, same⟩ := List.any_eq_true.mp known
      have same : user.id = row.userID := by simpa using same
      exact Nat.le_succ_of_le (same ▸ numbered.users user member)
    · intro other member same
      rcases List.mem_append.mp member with old | new
      · have bound := numbered.identities other old
        simp only at same
        omega
      · rw [List.mem_singleton.mp new]

/-- An address is in use until it is vacant, and time has no part in that. While no request
gives up the identity that `apiIdentitiesPost` created with an end of life, its address is in
use in every state reached; once one that gives it up has succeeded, the identity is never
active again. -/
theorem disposable_lapses (settles : site.lib.Settles) (spares : site.lib.SparesSpaces)
    {userID : Nat} {body : IdentityPostBody} {moments : Nat → Moment} {fingerprint : GoString}
    {created : Registry} {time : Time} (numbered : Numbered registry)
    (expires : parseExpiresAt site.toSite body.expiresAt = .ok (some time))
    (posted : (apiIdentitiesPost site.toSite userID (some body)).run
      (RegistryStatement.answer site.lib) moments registry = (.ok fingerprint, created)) :
    ∃ row ∈ created.identities, row.userID = userID ∧
      row.email = normalizeEmail site.lib body.email ∧ row.expiresAt = some time ∧
      (∀ final, (identityOperations site).Runs (fun _ _ => True) created final →
        (Lapsed site.lib final row.email ↔ Vacant final row.email)) ∧
      (∀ final, (identityOperations site).Runs (LeavesAlone site row) created final →
        ¬Lapsed site.lib final row.email) ∧
      ∀ (reached : Registry) (request : IdentityRequest) (instants : Nat → Moment) (final : Registry),
        (identityOperations site).Runs (fun _ _ => True) created reached →
        request.givesUp site reached = some row.print →
        (request.serve site instants reached).1 = none →
        (identityOperations site).Runs (fun _ _ => True) (request.serve site instants reached).2 final →
        ∀ other ∈ final.identities, other.id = row.id → other.isActive = false := by
  obtain ⟨row, member, owner, named, active, ends, sole, entitled⟩ := posted_identity numbered posted
  have normal : normalizeEmail site.lib row.email = row.email := by
    rw [named, normalizeEmail, normalizeEmail, trimSpace_toLower spares, toLower_toLower settles]
  have filled : row.email ≠ [] := by
    intro empty
    obtain ⟨name, domain, cut, -⟩ := entitled
    have blank : trimSpace [] = [] := by decide
    rw [empty, trimLower, toLower_nil, blank] at cut
    cases cut
  refine ⟨row, member, owner, named, ?_, fun final _ => lapsed_iff_vacant normal filled,
    fun final runs lapsed => ?_, fun reached request instants final before given done after => ?_⟩
  · exact (Except.ok.inj (expires.symm.trans ends)).symm
  · have lives : Lives row created := ⟨row, member, rfl, rfl, rfl, rfl, active⟩
    obtain ⟨kept, there, -, -, email, -, still⟩ := lives_run sole lives runs
    exact ((lapsed_iff_vacant normal filled).mp lapsed).identities kept there still email
  · have alike : Sole row reached := sole.descends (step_descends before)
    have onward : Sole row (request.serve site instants reached).2 := alike.descends (serve_descends _)
    have gone : Gone row (request.serve site instants reached).2 :=
      ⟨onward.drawn, fun other there same => serve_givesUp given done other there
        (onward.print other there same)⟩
    exact (gone.descends (step_descends after)).inactive

end Runs

def timedSample : DomainSite :=
  { DomainSite.sample with
    parseTime := fun text => if text = ascii "1970-01-01T00:01:40Z" then some (100 * second) else none }

/-- A disposable address that expires 100 seconds into the epoch. -/
def disposableBody : IdentityPostBody where
  email := ascii "d_x1y2z3w4@elvish.local"
  armoredPublic := ascii "A2"
  primaryUID := []
  wrappedSecretB64 := ascii "AAAA"
  isDefault := true
  expiresAt := ascii "1970-01-01T00:01:40Z"
  avatarDataURL := []
  avatarColor := []
  statusBadgeEnabled := false

def withDisposable : Registry :=
  ((apiIdentitiesPost timedSample.toSite 1 (some disposableBody)).run
    (RegistryStatement.answer timedSample.lib) (smoothly second) aliceOnly).2

theorem disposable_lapses_created :
    ∃ row ∈ withDisposable.identities, row.expiresAt = some (100 * second) ∧
      (Lapsed .plain withDisposable row.email ↔ Vacant withDisposable row.email) ∧
      ¬Lapsed .plain withDisposable row.email := by
  have posted : (apiIdentitiesPost timedSample.toSite 1 (some disposableBody)).run
      (RegistryStatement.answer timedSample.lib) (smoothly second) aliceOnly =
        (.ok (ascii "A2"), withDisposable) := Prod.ext (by decide +kernel) rfl
  obtain ⟨row, member, -, -, expires, exactly, outlives, -⟩ :=
    @disposable_lapses timedSample aliceOnly plain_settles plain_sparesSpaces 1 disposableBody _ _ _
      (100 * second) (by decide +kernel) (by decide) posted
  exact ⟨row, member, expires, exactly _ .refl, outlives _ .refl⟩

def bobLater : Registry :=
  (IdentityRequest.serve timedSample (.site (.account (registration "bob" "bob@elvish.local" "B1")))
    (smoothly (200 * second)) withDisposable).2

theorem identity_kept_later : ∃ row ∈ bobLater.identities, ∃ before ∈ withDisposable.identities,
    before.id = row.id ∧ before.print = row.print ∧ (row.isActive = true → before.isActive = true) := by
  obtain ⟨row, member, old⟩ : ∃ row ∈ bobLater.identities, row.id ≤ withDisposable.drawn := by
    decide +kernel
  exact ⟨row, member, identity_kept old
    (.step .refl trivial (rfl : (identityOperations timedSample).step _ (_, _) = some _)) member⟩

/-- Two hundred seconds later, when Bob registers, the address still receives mail and sends,
and is Alice's default. -/
theorem disposable_outlives :
    ∃ final, (identityOperations timedSample).Runs (fun _ _ => True) withDisposable final ∧
      (identityOperations timedSample).step withDisposable
        (.site (.account (registration "bob" "bob@elvish.local" "B1")), smoothly (200 * second)) =
          some final ∧
      (final.identityForEmail .plain (ascii "d_x1y2z3w4@elvish.local")).map IdentityRow.expiresAt =
        some (some (100 * second)) ∧
      (final.identityForUserEmail .plain 1 (ascii "d_x1y2z3w4@elvish.local")).map IdentityRow.expiresAt =
        some (some (100 * second)) ∧
      (final.defaultIdentityForUser 1).map IdentityRow.email =
        some (ascii "d_x1y2z3w4@elvish.local") ∧
      ¬Lapsed .plain final (ascii "d_x1y2z3w4@elvish.local") := by
  refine ⟨_, .step .refl trivial rfl, rfl, ?_, ?_, ?_, fun lapsed => ?_⟩
  · decide +kernel
  · decide +kernel
  · decide +kernel
  · exact absurd lapsed.recipient (by decide +kernel)

end ElvishMail.Httpserver
