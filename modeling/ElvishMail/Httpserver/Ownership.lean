import ElvishMail.Httpserver.AccountEffects

/-!
# Whose address it is

Whether an address is taken is asked by `apiIdentitiesPost` only. The two requests that
store an account key take the addresses of its identities as the browser sends them, and
look no further than to reservations. As long as these name no address of another user,
an address has one holder, and mail to it goes to the holder: `address_kept`. A new user
that names a stranger's address gets the stranger's mail: `address_taken_over`.
-/

namespace ElvishMail.Httpserver

open Go Smtp Mailmeta Semantics

/-- At most one user has an active identity with an address. -/
def OneHolder (registry : Registry) : Prop :=
  ∀ row ∈ registry.identities, ∀ other ∈ registry.identities,
    row.isActive = true → other.isActive = true → row.email = other.email → row.userID = other.userID

instance (registry : Registry) : Decidable (OneHolder registry) :=
  inferInstanceAs (Decidable (∀ row ∈ registry.identities, ∀ other ∈ registry.identities, _))

/-- An account key comes with no address that is held by somebody else. -/
def NamesFree (site : Site) (registry : Registry) (userID : Nat) (accountKey : AccountKeyBootstrap) :
    Prop :=
  ∀ body ∈ accountKey.identities, ∀ row ∈ registry.identities, row.isActive = true →
    row.email = normalizeEmail site.lib body.email → row.userID = userID

instance (site : Site) (registry : Registry) (userID : Nat) (accountKey : AccountKeyBootstrap) :
    Decidable (NamesFree site registry userID accountKey) :=
  inferInstanceAs (Decidable (∀ body ∈ accountKey.identities, ∀ row ∈ registry.identities, _))

/-- A request that stores an account key names no address of another user. -/
def Unclaimed (site : Site) (registry : Registry) (action : AccountRequest × (Nat → Moment)) : Prop :=
  match action.1 with
  | .register _ (some body) =>
    ∀ accountKey ∈ body.accountKey, NamesFree site registry (registry.drawn + 1) accountKey
  | .bootstrap userID (some body) => NamesFree site registry userID body
  | _ => True

instance (site : Site) (registry : Registry) (action : AccountRequest × (Nat → Moment)) :
    Decidable (Unclaimed site registry action) := by
  unfold Unclaimed
  split <;> infer_instance

section Holders

variable {site : Site} {registry next : Registry} {userID : Nat}

/-- Every active identity was there before, or is one of this user's at an address that
nobody else has. -/
def Grows (registry next : Registry) (userID : Nat) : Prop :=
  ∀ row ∈ next.identities, row.isActive = true → Kept registry row ∨
    row.userID = userID ∧ ∀ other ∈ registry.identities, other.isActive = true →
      other.email = row.email → other.userID = userID

theorem OneHolder.grows (one : OneHolder registry) (grows : Grows registry next userID) :
    OneHolder next := by
  intro row member other otherMember active otherActive same
  rcases grows row member active with ⟨old, oldMember, oldActive, oldEmail, oldUser⟩ | ⟨isUser, free⟩
  · rcases grows other otherMember otherActive with
      ⟨second, secondMember, secondActive, secondEmail, secondUser⟩ | ⟨isUser, free⟩
    · have alike := one old oldMember second secondMember oldActive secondActive
        (oldEmail.trans (same.trans secondEmail.symm))
      exact oldUser.symm.trans (alike.trans secondUser)
    · rw [isUser, ← oldUser]
      exact free old oldMember oldActive (oldEmail.trans same)
  · rcases grows other otherMember otherActive with
      ⟨second, secondMember, secondActive, secondEmail, secondUser⟩ | ⟨otherIsUser, -⟩
    · rw [isUser, ← secondUser]
      exact (free second secondMember secondActive (secondEmail.trans same.symm)).symm
    · exact isUser.trans otherIsUser.symm

theorem AccountEffect.grows (spares : site.lib.SparesSpaces)
    {action : AccountRequest × (Nat → Moment)} (effect : AccountEffect site registry action.1 next)
    (unclaimed : Unclaimed site registry action) : Grows registry next (action.1.owner registry) := by
  obtain ⟨request, env⟩ := action
  intro row member active
  rcases effect.origin member active with kept | ⟨owner, made⟩
  · exact .inl kept
  refine .inr ⟨owner, fun other otherMember otherActive same => ?_⟩
  cases request with
  | register gate body =>
    cases body with
    | none => exact made.elim
    | some body =>
      obtain ⟨accountKey, named, entry, entryMember, there⟩ := made
      exact unclaimed accountKey named entry entryMember other otherMember otherActive
        (same.trans there)
  | bootstrap userID body =>
    cases body with
    | none => exact made.elim
    | some body =>
      obtain ⟨entry, entryMember, there⟩ := made
      exact unclaimed entry entryMember other otherMember otherActive (same.trans there)
  | post userID body =>
    cases body with
    | none => exact made.elim
    | some body =>
      obtain ⟨named, -, free⟩ := made
      -- what the request stores reads like what it looked up
      refine absurd ?_ (free other otherMember otherActive)
      rw [same, normalizeEmail, named, normalizeEmail, trimSpace_toLower spares]
  | revoke userID selector certificate => exact made.elim
  | delete userID selector => exact made.elim
  | default userID selector => exact made.elim

theorem oneHolder_of_fresh (fresh : registry.identities = []) : OneHolder registry := by
  intro row member
  rw [fresh] at member
  cases member

theorem oneHolder_run (spares : site.lib.SparesSpaces) (one : OneHolder registry)
    (runs : (accounts site).Runs (Unclaimed site) registry next) : OneHolder next := by
  refine Machine.Runs.invariant OneHolder one ?_ runs
  intro state action later holds unclaimed taken
  exact holds.grows ((handle_effect taken).grows spares unclaimed)

theorem OneHolder.resolves (one : OneHolder registry) {email : GoString} {row : IdentityRow}
    (some : normalizeEmail site.lib email ≠ []) (member : row ∈ registry.identities)
    (named : row.email = normalizeEmail site.lib email) (active : row.isActive = true) :
    ∃ found, registry.identityForEmail site.lib email = .some found ∧ found.userID = row.userID := by
  obtain ⟨found, resolved, foundMember, foundEmail, foundActive⟩ :=
    Registry.identityForEmail_of_exact site.lib some member named active
  exact ⟨found, resolved,
    one found foundMember row member foundActive active (foundEmail.trans named.symm)⟩

end Holders

/-- In every state reached, an address has one holder; and an address that finds an
identity of its own goes on to find the same user while that identity stays active. -/
theorem address_kept {site : Site} (spares : site.lib.SparesSpaces) {start middle final : Registry}
    (fresh : start.identities = []) (reached : (accounts site).Runs (Unclaimed site) start middle)
    (runs : (accounts site).Runs (Unclaimed site) middle final) :
    OneHolder final ∧ ∀ email row, middle.identityForEmail site.lib email = some row →
      row.email = normalizeEmail site.lib email →
      (∃ kept ∈ final.identities, kept.print = row.print ∧ kept.email = row.email ∧
        kept.isActive = true) →
      ∃ found, final.identityForEmail site.lib email = some found ∧ found.userID = row.userID := by
  have one := oneHolder_run spares (oneHolder_of_fresh fresh) (reached.trans runs)
  refine ⟨one, fun email row resolved named kept => ?_⟩
  obtain ⟨same, member, print, email', active⟩ := kept
  have some : normalizeEmail site.lib email ≠ [] := by
    intro empty
    rw [Registry.identityForEmail] at resolved
    dsimp only at resolved
    rw [if_pos empty] at resolved
    cases resolved
  obtain ⟨found, resolvedLater, alike⟩ := one.resolves some member (email'.trans named) active
  exact ⟨found, resolvedLater, alike.trans (congrArg Prod.fst print)⟩

/-- A site without configuration, whose keys are their own fingerprints. -/
def Site.sample : Site where
  lib := .plain
  mailDomain := []
  fingerprint16 armored := some armored
  parseUUID _ := none
  parseTime _ := none

def registration (name address fingerprint : String) : AccountRequest :=
  .register none (some
    { username := ascii name
      srpSaltB64 := ascii "AAAA"
      srpVerifierB64 := ascii "AAAA"
      srpGroup := []
      srpHash := []
      accountKey := some
        { armoredPublic := ascii fingerprint
          wrappedSecretB64 := ascii "AAAA"
          kdf := ascii "argon2id"
          kdfSaltB64 := ascii "AAAAAAAAAAAAAAAAAAAAAA=="
          identities :=
            [{ email := ascii address
               armoredPublic := ascii fingerprint
               primaryUID := []
               wrappedSecretB64 := ascii "AAAA"
               isDefault := true }] } })

def smoothly (now : Time) : Nat → Moment := fun _ => ⟨.done, now, false⟩

def aliceOnly : Registry :=
  (accounts .sample).after [(registration "alice" "alice@elvish.local" "A1", smoothly 1)] .empty

def thenBob (address : String) : Registry :=
  (accounts .sample).after [(registration "bob" address "B1", smoothly 2)] aliceOnly

def aliceRow : IdentityRow where
  id := 2
  userID := 1
  email := ascii "alice@elvish.local"
  fingerprint := ascii "A1"
  armoredPublic := ascii "A1"
  primaryUID := []
  isDefault := true
  isActive := true
  createdAt := 1
  avatarColor := ascii "red"

theorem address_kept_two :
    OneHolder (thenBob "bob@elvish.local") ∧
      ∃ found, (thenBob "bob@elvish.local").identityForEmail .plain (ascii "Alice@elvish.local") =
        some found ∧ found.userID = 1 := by
  obtain ⟨one, goesOn⟩ := @address_kept .sample plain_sparesSpaces .empty aliceOnly
    (thenBob "bob@elvish.local") rfl
    (Machine.after_runs [(registration "alice" "alice@elvish.local" "A1", smoothly 1)]
      (by decide))
    (Machine.after_runs [(registration "bob" "bob@elvish.local" "B1", smoothly 2)]
      (by decide +kernel))
  refine ⟨one, goesOn (ascii "Alice@elvish.local") aliceRow ?_ ?_ ?_⟩
  · show aliceOnly.identityForEmail .plain (ascii "Alice@elvish.local") = some aliceRow
    decide +kernel
  · decide +kernel
  · decide +kernel

/-- Bob registers with Alice's address: mail to it goes to him, and hers is still active. -/
theorem address_taken_over :
    ∃ middle final, (accounts .sample).Runs (fun _ _ => True) .empty middle ∧
      (accounts .sample).Runs (fun _ _ => True) middle final ∧
      (middle.identityForEmail .plain (ascii "alice@elvish.local")).map IdentityRow.userID = some 1 ∧
      (∃ row ∈ final.identities, row.userID = 1 ∧ row.email = ascii "alice@elvish.local" ∧
        row.isActive = true) ∧
      (final.identityForEmail .plain (ascii "alice@elvish.local")).map IdentityRow.userID = some 3 ∧
      ¬OneHolder final := by
  refine ⟨aliceOnly, thenBob "alice@elvish.local",
    Machine.after_runs _ (Machine.permits_of_forall (fun _ _ => trivial) _ _),
    Machine.after_runs _ (Machine.permits_of_forall (fun _ _ => trivial) _ _), ?_, ?_, ?_, ?_⟩
  · decide +kernel
  · decide +kernel
  · decide +kernel
  · decide +kernel

end ElvishMail.Httpserver
