import ElvishMail.Httpserver.Ownership
import ElvishMail.Mailmeta.DefaultIdentity

/-!
# Which identity is the default

Of the requests that flag an identity as the default of its user only one clears the
flag of his others. As long as the rest flag an identity only where none is flagged, a
user has at most one flag, and `DefaultIdentityForUser` is what was chosen last, for as
long as that is active: `default_kept`. An identity that is posted as a default beside
another is a second one: `second_default`.
-/

namespace ElvishMail.Httpserver

open Go Smtp Mailmeta Semantics

/-- The tables, and for each user the id of the identity that the last successful request
chose as his default. -/
structure Defaults where
  registry : Registry
  chosen : Nat → Option Nat

variable (site : Site)

/-- The user and the identity that a request chooses if it succeeds. Of a bootstrap it is
the first, and what a request stores has the next id. -/
def AccountRequest.chooses (registry : Registry) : AccountRequest → Option (Nat × Nat)
  | register _ (some _) => some (registry.drawn + 1, registry.drawn + 2)
  | bootstrap userID (some _) => some (userID, registry.drawn + 1)
  | post userID (some body) => if body.isDefault then some (userID, registry.drawn + 1) else none
  | default userID selector =>
    (selectedFingerprint site registry userID selector).bind fun fingerprint =>
      (registry.identity? userID fingerprint).map fun row => (userID, row.id)
  | _ => none

def note (chosen : Nat → Option Nat) (choice : Option (Nat × Nat)) :
    Option Refusal → Nat → Option Nat
  | some _ => chosen
  | none =>
    match choice with
    | none => chosen
    | some (userID, id) => Function.update chosen userID (some id)

/-- The tables under requests, as in `accounts`, with the choices noted. -/
def defaults : Machine Defaults (AccountRequest × (Nat → Moment)) where
  step state action :=
    let (refusal, registry) := (action.1.handle site).run (RegistryStatement.answer site.lib)
      action.2 state.registry
    some ⟨registry, note state.chosen (action.1.chooses site state.registry) refusal⟩

/-- A user has at most one flag, and while he has an active identity, his default is an
active one: the one he chose, if that is active. -/
def Defaults.Held (state : Defaults) (userID : Nat) : Prop :=
  (state.registry.flagged userID).length ≤ 1 ∧
    ((∃ row ∈ state.registry.identities, row.userID = userID ∧ row.isActive = true) →
      ∃ taken, state.registry.defaultIdentityForUser userID = some taken ∧ taken.isActive = true ∧
        ∀ row ∈ state.registry.identities, row.userID = userID → row.isActive = true →
          state.chosen userID = some row.id → taken = row)

/-- Only one identity is flagged, where none of the user is: a registration and a bootstrap
flag their first alone, a bootstrap that can be stored and a default that is posted come
while the user has no flag. A choice that takes effect is not reported as failed. -/
def Settled (state : Defaults) (action : AccountRequest × (Nat → Moment)) : Prop :=
  match action.1 with
  | .register _ (some body) =>
    ∀ accountKey ∈ body.accountKey, ∀ entry ∈ accountKey.identities.tail, entry.isDefault = false
  | .bootstrap userID (some body) =>
    userID ∈ state.registry.accountKeys ∨ state.registry.flagged userID = [] ∧
      ∀ entry ∈ body.identities.tail, entry.isDefault = false
  | .post userID (some body) => body.isDefault = true → state.registry.flagged userID = []
  | .default .. => ∀ count err, (action.2 count).outcome ≠ .lost err
  | _ => True

variable {site}

theorem parseBootstrapIdentities_plain {userID : Nat} {bodies : List BootstrapIdentityBody}
    {rows : List IdentityRow}
    (parsed : parseBootstrapIdentities site userID false bodies = .ok rows)
    (plain : ∀ entry ∈ bodies, entry.isDefault = false) : ∀ row ∈ rows, row.isDefault = false := by
  induction bodies generalizing rows with
  | nil =>
    cases parsed
    simp
  | cons body rest ih =>
    rw [List.forall_mem_cons] at plain
    unfold parseBootstrapIdentities at parsed
    split at parsed
    · cases parsed
    next row made =>
    split at parsed
    · cases parsed
    next later parsedRest =>
    cases parsed
    rw [List.forall_mem_cons]
    refine ⟨?_, ih parsedRest plain.2⟩
    rw [(parseBootstrapIdentity_ok made).2.2.2, plain.1]
    rfl

theorem parseBootstrapIdentities_flags {userID : Nat}
    {bodies : List BootstrapIdentityBody} {first : IdentityRow} {rest : List IdentityRow}
    (parsed : parseBootstrapIdentities site userID true bodies = .ok (first :: rest))
    (plain : ∀ entry ∈ bodies.tail, entry.isDefault = false) :
    first.isDefault = true ∧ ∀ row ∈ rest, row.isDefault = false := by
  cases bodies with
  | nil => cases parsed
  | cons body bodies =>
    unfold parseBootstrapIdentities at parsed
    split at parsed
    · cases parsed
    next row made =>
    split at parsed
    · cases parsed
    next later parsedRest =>
    cases parsed
    refine ⟨?_, parseBootstrapIdentities_plain parsedRest plain⟩
    rw [(parseBootstrapIdentity_ok made).2.2.2, Bool.or_true]

theorem storeBootstrap_fits {registry : Registry} {userID : Nat}
    {rows : List IdentityRow} (one : registry.OneDefault)
    (fits : (RegistryWrite.storeBootstrap userID (rows.map (storedIdentity site))).violation registry =
      none)
    (owners : ∀ row ∈ rows, row.userID = userID) :
    userID ≤ registry.drawn ∧ ((rows.map (storedIdentity site)).map IdentityRow.print).Nodup ∧
      ∀ row ∈ rows.map (storedIdentity site), ∀ other ∈ registry.identities,
        other.print ≠ row.print := by
  simp only [RegistryWrite.violation, ite_eq_right_iff, reduceCtorEq, imp_false, Bool.or_eq_true,
    Bool.not_eq_true', not_or, Bool.not_eq_false, List.any_eq_true, beq_iff_eq,
    decide_eq_false_iff_not, not_not, not_exists, not_and, Bool.not_eq_true] at fits
  obtain ⟨⟨⟨-, user, member, same⟩, distinct⟩, absent⟩ := fits
  refine ⟨same ▸ one.users user member, ?_, ?_⟩
  · apply List.Nodup.of_map Prod.snd
    rw [List.map_map]
    exact distinct
  · intro row rowMember other otherMember alike
    obtain ⟨given, givenMember, rfl⟩ := List.mem_map.mp rowMember
    have none := absent _ rowMember
    rw [Option.isSome_eq_false_iff, Option.isNone_iff_eq_none] at none
    have apart : other.print ≠ (userID, (storedIdentity site given).fingerprint) := by
      simpa using List.find?_eq_none.mp none other otherMember
    have given : (storedIdentity site given).userID = userID := owners given givenMember
    exact apart (alike.trans (congrArg (·, _) given))

namespace Defaults

/-- What was chosen carries the flag, as long as it is there. -/
structure Sound (state : Defaults) : Prop where
  one : state.registry.OneDefault
  past : ∀ userID id, state.chosen userID = some id → id ≤ state.registry.drawn
  kept : ∀ row ∈ state.registry.identities, state.chosen row.userID = some row.id →
    row.isDefault = true

namespace Sound

variable {state : Defaults} {next : Registry} {userID : Nat}

theorem held (sound : state.Sound) (userID : Nat) : state.Held userID := by
  refine ⟨sound.one.flagged_length userID, ?_⟩
  rintro ⟨row, member, owner, active⟩
  obtain ⟨taken, takenMember, found, takenOwner, takenActive, -⟩ :=
    Registry.exists_defaultIdentity member owner active
  refine ⟨taken, found, takenActive, fun chosen chosenMember chosenOwner chosenActive choice => ?_⟩
  have flag : chosen.isDefault = true := sound.kept chosen chosenMember (chosenOwner ▸ choice)
  obtain ⟨other, -, again, -, -, otherFlag⟩ :=
    Registry.exists_defaultIdentity chosenMember chosenOwner chosenActive
  obtain rfl : taken = other := Option.some.inj (found.symm.trans again)
  exact sound.one.eq_of_id takenMember chosenMember
    (sound.one.single taken takenMember chosen chosenMember (takenOwner.trans chosenOwner.symm)
      (otherFlag flag) flag)

theorem grow (sound : state.Sound) (one : next.OneDefault)
    (drawn : state.registry.drawn ≤ next.drawn)
    (rows : ∀ row ∈ next.identities, row ∈ state.registry.identities ∨ state.registry.drawn < row.id) :
    Sound ⟨next, state.chosen⟩ where
  one := one
  past := fun userID id choice => (sound.past userID id choice).trans drawn
  kept := by
    intro row member choice
    rcases rows row member with old | later
    · exact sound.kept row old choice
    · exact absurd (sound.past _ _ choice) (Nat.not_le.mpr later)

theorem choose (sound : state.Sound) (one : next.OneDefault)
    (drawn : state.registry.drawn < next.drawn)
    (rows : ∀ row ∈ next.identities, row ∈ state.registry.identities ∨ state.registry.drawn < row.id)
    (first : ∀ row ∈ next.identities, row.id = state.registry.drawn + 1 → row.isDefault = true)
    (userID : Nat) :
    Sound ⟨next, Function.update state.chosen userID (some (state.registry.drawn + 1))⟩ where
  one := one
  past := by
    intro user id choice
    by_cases same : user = userID
    · rw [same] at choice
      simp only [Function.update_self, Option.some.injEq] at choice
      exact choice ▸ drawn
    · simp only [Function.update_of_ne same] at choice
      exact (sound.past user id choice).trans (Nat.le_of_lt drawn)
  kept := by
    intro row member choice
    by_cases same : row.userID = userID
    · simp only [same, Function.update_self, Option.some.injEq] at choice
      exact first row member choice.symm
    · simp only [Function.update_of_ne same] at choice
      exact (sound.grow one (Nat.le_of_lt drawn) rows).kept row member choice

theorem noted (sound : state.Sound) (one : next.OneDefault)
    (drawn : state.registry.drawn < next.drawn)
    (rows : ∀ row ∈ next.identities, row ∈ state.registry.identities ∨ state.registry.drawn < row.id)
    (first : ∀ row ∈ next.identities, row.id = state.registry.drawn + 1 → row.isDefault = true)
    (userID : Nat) (refusal : Option Refusal) :
    Sound ⟨next, note state.chosen (some (userID, state.registry.drawn + 1)) refusal⟩ := by
  cases refusal with
  | some reason => exact sound.grow one (Nat.le_of_lt drawn) rows
  | none => exact sound.choose one drawn rows first userID

theorem fewer (sound : state.Sound) (users : next.users ⊆ state.registry.users)
    (identities : next.identities.Sublist state.registry.identities)
    (drawn : next.drawn = state.registry.drawn) : Sound ⟨next, state.chosen⟩ where
  one := sound.one.fewer users identities drawn
  past := fun userID id choice => drawn ▸ sound.past userID id choice
  kept := fun row member => sound.kept row (identities.subset member)

theorem withUser (sound : state.Sound) (email : GoString) :
    Sound ⟨state.registry.withUser email, state.chosen⟩ :=
  sound.grow (sound.one.withUser email) (Nat.le_succ _) fun _ member => .inl member

theorem posted (sound : state.Sound) (now : Time) {row : IdentityRow} (refusal : Option Refusal)
    (fits : (RegistryWrite.insertIdentityKey row).violation state.registry = none)
    (free : row.isDefault = true → state.registry.flagged row.userID = []) :
    Sound ⟨state.registry.withIdentity now row, note state.chosen
      (if row.isDefault then some (row.userID, state.registry.drawn + 1) else none) refusal⟩ := by
  obtain ⟨owner, fresh⟩ : row.userID ≤ state.registry.drawn ∧
      ∀ other ∈ state.registry.identities, other.print ≠ row.print := by
    simp only [RegistryWrite.violation, ite_eq_right_iff, reduceCtorEq, imp_false, Bool.or_eq_true,
      Bool.not_eq_true', not_or, Bool.not_eq_false, List.any_eq_true, beq_iff_eq,
      Option.isSome_iff_ne_none, not_not] at fits
    obtain ⟨⟨user, member, same⟩, absent⟩ := fits
    refine ⟨same ▸ sound.one.users user member, fun other otherMember => ?_⟩
    have distinct : other.print ≠ (row.userID, row.fingerprint) := by
      simpa using List.find?_eq_none.mp absent other otherMember
    exact distinct
  have one := sound.one.withIdentity now owner fresh free
  have rows : ∀ other ∈ (state.registry.withIdentity now row).identities,
      other ∈ state.registry.identities ∨ state.registry.drawn < other.id := by
    intro other member
    exact @Registry.mem_withIdentities _ now [row] other member
  by_cases flag : row.isDefault = true
  · rw [if_pos flag]
    refine sound.noted one (Nat.lt_succ_self _) rows (fun other member id => ?_) row.userID refusal
    rcases List.mem_append.mp member with old | new
    · have bound := sound.one.drawn other old
      omega
    · rw [List.mem_singleton.mp new]
      exact flag
  · rw [if_neg flag]
    have grown := sound.grow one (Nat.le_succ _) rows
    cases refusal with
    | some reason => exact grown
    | none => exact grown

theorem bootstrapped (sound : state.Sound) {accountKey : AccountKeyBootstrap}
    (stored : Bootstrapped site state.registry userID accountKey next)
    (free : state.registry.flagged userID = [])
    (plain : ∀ entry ∈ accountKey.identities.tail, entry.isDefault = false)
    (refusal : Option Refusal) :
    Sound ⟨next, note state.chosen (some (userID, state.registry.drawn + 1)) refusal⟩ := by
  obtain ⟨now, fingerprint, rows, parsed, fits, rfl⟩ := stored
  obtain ⟨made, nonempty⟩ := parseAccountKeyBootstrap_rows parsed
  have owners := parseAccountKeyBootstrap_ok parsed
  obtain ⟨first, rest, rfl⟩ := List.exists_cons_of_ne_nil nonempty
  obtain ⟨firstFlag, restPlain⟩ := parseBootstrapIdentities_flags made plain
  obtain ⟨owner, distinct, fresh⟩ := storeBootstrap_fits sound.one fits fun row member =>
    (owners row member).1
  rw [List.map_cons, List.map_cons, List.nodup_cons] at distinct
  rw [List.map_cons, List.forall_mem_cons] at fresh
  let keyed : Registry :=
    { state.registry with accountKeys := state.registry.accountKeys ++ [userID] }
  have start : keyed.OneDefault :=
    sound.one.fewer (List.Subset.refl _) (List.Sublist.refl _) rfl
  have firstOwner : (storedIdentity site first).userID = userID :=
    (owners first List.mem_cons_self).1
  have one := start.withIdentity now (firstOwner ▸ owner) fresh.1 fun _ => firstOwner ▸ free
  have all := @Registry.OneDefault.withUnflagged _ one now (rest.map (storedIdentity site)) ?_ ?_
    distinct.2 ?_
  have later {row : IdentityRow} (member : row ∈ (state.registry.withAccount now userID
      ((first :: rest).map (storedIdentity site))).identities) :
      row ∈ (keyed.withIdentity now (storedIdentity site first)).identities ∨
        state.registry.drawn + 1 < row.id := Registry.mem_withIdentities member
  refine sound.noted all ?_ (fun row member => ?_) (fun row member id => ?_) userID refusal
  · exact Nat.lt_of_succ_le (@Registry.drawn_withIdentities
      (keyed.withIdentity now (storedIdentity site first)) now (rest.map (storedIdentity site)))
  · exact @Registry.mem_withIdentities keyed now ((first :: rest).map (storedIdentity site)) row member
  · rcases later member with early | late
    · rcases List.mem_append.mp early with old | new
      · have bound := sound.one.drawn row old
        omega
      · rw [List.mem_singleton.mp new]
        exact firstFlag
    · omega
  · intro row member
    obtain ⟨given, givenMember, rfl⟩ := List.mem_map.mp member
    exact Nat.le_succ_of_le ((owners given (List.mem_cons_of_mem _ givenMember)).1.trans_le owner)
  · intro row member other otherMember same
    rcases List.mem_append.mp otherMember with old | new
    · exact fresh.2 row member other old same
    · rw [List.mem_singleton.mp new] at same
      exact distinct.1 (List.mem_map.mpr ⟨row, member, same.symm⟩)
  · intro row member
    obtain ⟨given, givenMember, rfl⟩ := List.mem_map.mp member
    exact restPlain given givenMember

theorem defaulted (sound : state.Sound) (now : Time) {fingerprint : GoString} {row : IdentityRow}
    (found : state.registry.identity? userID fingerprint = some row) :
    Sound ⟨(RegistryWrite.setDefaultIdentity userID fingerprint).apply now state.registry,
      Function.update state.chosen userID (some row.id)⟩ := by
  have member : row ∈ state.registry.identities := List.mem_of_find?_eq_some found
  have print : row.print = (userID, fingerprint) := by simpa using List.find?_some found
  have same {other : IdentityRow} (otherMember : other ∈ state.registry.identities)
      (owner : other.userID = userID) (named : other.fingerprint = fingerprint) : other = row := by
    refine sound.one.eq_of_print otherMember member (Eq.trans ?_ print.symm)
    rw [IdentityRow.print, owner, named]
  constructor
  · refine sound.one.updated (fun row => ?_) (fun row => ?_) fun first firstMember second
      secondMember alike firstFlag secondFlag => ?_
    · split <;> rfl
    · split <;> rfl
    · by_cases owner : first.userID = userID
      · rw [if_pos owner] at firstFlag
        rw [if_pos (alike ▸ owner)] at secondFlag
        rw [same firstMember owner (beq_iff_eq.mp firstFlag),
          same secondMember (alike ▸ owner) (beq_iff_eq.mp secondFlag)]
      · rw [if_neg owner] at firstFlag
        rw [if_neg (alike ▸ owner)] at secondFlag
        exact sound.one.single first firstMember second secondMember alike firstFlag secondFlag
  · intro user id choice
    by_cases owner : user = userID
    · simp only [owner, Function.update_self, Option.some.injEq] at choice
      exact choice ▸ sound.one.drawn row member
    · simp only [Function.update_of_ne owner] at choice
      exact sound.past user id choice
  · intro later laterMember choice
    obtain ⟨old, oldMember, rfl⟩ := List.mem_map.mp laterMember
    by_cases owner : old.userID = userID
    · rw [if_pos owner] at choice ⊢
      simp only [owner, Function.update_self, Option.some.injEq] at choice
      obtain rfl := sound.one.eq_of_id member oldMember choice
      exact beq_iff_eq.mpr (congrArg Prod.snd print)
    · rw [if_neg owner] at choice ⊢
      simp only [Function.update_of_ne owner] at choice
      exact sound.kept old oldMember choice

theorem registered (sound : state.Sound) (email : GoString) {accountKey : AccountKeyBootstrap}
    {refusal : Option Refusal}
    (stored : StoredOr site (state.registry.withUser email) (state.registry.drawn + 1) accountKey
      refusal next)
    (plain : ∀ entry ∈ accountKey.identities.tail, entry.isDefault = false) :
    Sound ⟨next, note state.chosen (some (state.registry.drawn + 1, state.registry.drawn + 2))
      refusal⟩ := by
  have start := sound.withUser email
  have free : (state.registry.withUser email).flagged (state.registry.drawn + 1) = [] := by
    refine List.filter_eq_nil_iff.mpr fun row member carries => ?_
    rw [Bool.and_eq_true, beq_iff_eq] at carries
    have bound := sound.one.owners row member
    omega
  rcases stored with ⟨⟨reason, rfl⟩, rfl⟩ | stored
  · exact start
  · exact start.bootstrapped stored free plain refusal

theorem revoked (sound : state.Sound) (now : Time) (fingerprint : GoString) :
    Sound ⟨(RegistryWrite.revokeIdentity userID fingerprint).apply now state.registry,
      state.chosen⟩ := by
  have same (row : IdentityRow) : ∀ later : IdentityRow,
      later = (if row.print = (userID, fingerprint) then { row with isActive := false } else row) →
        later.id = row.id ∧ later.print = row.print ∧ later.isDefault = row.isDefault := by
    rintro later rfl
    split <;> exact ⟨rfl, rfl, rfl⟩
  constructor
  · refine sound.one.updated (fun row => (same row _ rfl).1) (fun row => (same row _ rfl).2.1)
      fun first firstMember second secondMember alike firstFlag secondFlag => ?_
    rw [(same first _ rfl).2.2] at firstFlag
    rw [(same second _ rfl).2.2] at secondFlag
    exact sound.one.single first firstMember second secondMember alike firstFlag secondFlag
  · exact sound.past
  · intro later laterMember choice
    obtain ⟨old, oldMember, made⟩ := List.mem_map.mp laterMember
    obtain ⟨id, print, flag⟩ := same old later made.symm
    rw [flag]
    have owner : later.userID = old.userID := congrArg Prod.fst print
    refine sound.kept old oldMember ?_
    rw [← owner, ← id]
    exact choice

end Sound

theorem default_refused {registry : Registry} {userID : Nat} {selector : GoString}
    {env : Nat → Moment} (settled : ∀ count err, (env count).outcome ≠ .lost err) {reason : Refusal}
    (refused : ((apiIdentityDefault site userID selector).run (RegistryStatement.answer site.lib) env
      registry).1 = some reason) :
    ((apiIdentityDefault site userID selector).run (RegistryStatement.answer site.lib) env
      registry).2 = registry := by
  unfold apiIdentityDefault onSelected at refused ⊢
  rw [Program.run_bind] at refused ⊢
  have kept := ((@resolveIdentitySelector_leaves site registry userID selector).run env).1
  revert refused
  rw [kept]
  generalize ((resolveIdentitySelector site userID selector).run (RegistryStatement.answer site.lib)
    env registry).1 = resolved
  intro refused
  match resolved with
  | .error .notFound => rfl
  | .error (.failed err) => rfl
  | .ok fingerprint =>
    dsimp only at refused ⊢
    rw [Program.run_ask] at refused ⊢
    have honest := settled (0 + (resolveIdentitySelector site userID selector).asked
      (RegistryStatement.answer site.lib) env registry)
    revert refused
    generalize env (0 + (resolveIdentitySelector site userID selector).asked
      (RegistryStatement.answer site.lib) env registry) = moment at honest ⊢
    intro refused
    show (RegistryWrite.attempt _ moment registry).2 = registry
    have reported : (RegistryWrite.attempt (.setDefaultIdentity userID fingerprint) moment
        registry).1.map (missing (ascii "identity set default")) = some reason := refused
    obtain ⟨err, failed, -⟩ := Option.map_eq_some_iff.mp reported
    exact RegistryWrite.attempt_refused honest failed

theorem Sound.step {state next : Defaults} {action : AccountRequest × (Nat → Moment)}
    (sound : state.Sound) (settled : Settled state action)
    (taken : (defaults site).step state action = some next) : next.Sound := by
  obtain ⟨request, env⟩ := action
  have answered := (@handle_answered site state.registry request).run env
  rcases result : (request.handle site).run (RegistryStatement.answer site.lib) env state.registry with
    ⟨refusal, later⟩
  rw [result] at answered
  obtain rfl : (⟨later, note state.chosen (request.chooses site state.registry) refusal⟩ : Defaults) =
      next := by
    rw [← Option.some.inj taken, result]
  dsimp only at answered
  -- one case for each way in which a request is answered
  cases answered with
  | refused request reason => exact sound
  | @registered _ body accountKey _ _ email named stored =>
    exact sound.registered email stored (settled accountKey named)
  | @abandoned _ body accountKey _ middle reason email named stored =>
    have refused : StoredOr site (state.registry.withUser email) (state.registry.drawn + 1)
        accountKey (some reason) middle := stored.imp_left fun kept => ⟨⟨reason, rfl⟩, kept.2⟩
    have registered := sound.registered email refused (settled accountKey named)
    exact registered.fewer (List.filter_subset_self _) List.filter_sublist rfl
  | bootstrapped refusal stored =>
    rcases settled with keyed | ⟨free, plain⟩
    · obtain ⟨now, fingerprint, rows, parsed, fits, rfl⟩ := stored
      simp [RegistryWrite.violation, keyed] at fits
    · exact sound.bootstrapped stored free plain refusal
  | @posted userID body row refusal now owner named active flag entitled free fits =>
    have post := sound.posted now refusal fits fun flagged => by
      rw [owner]
      exact settled (flag ▸ flagged)
    rwa [flag, owner] at post
  | revoked refusal now =>
    cases refusal with
    | some reason => exact sound.revoked now _
    | none => exact sound.revoked now _
  | @deleted userID selector fingerprint refusal now =>
    have fewer : Sound ⟨(RegistryWrite.deleteIdentity userID fingerprint).apply now state.registry,
        state.chosen⟩ :=
      sound.fewer (List.Subset.refl _) List.filter_sublist rfl
    cases refusal with
    | some reason => exact fewer
    | none => exact fewer
  | @defaulted userID selector fingerprint refusal now selected found =>
    obtain ⟨row, found⟩ := Option.isSome_iff_exists.mp found
    cases refusal with
    | some reason =>
      have refused := default_refused settled (congrArg Prod.fst result)
      have same : (RegistryWrite.setDefaultIdentity userID fingerprint).apply now state.registry =
          state.registry := (congrArg Prod.snd result).symm.trans refused
      rw [same]
      exact sound
    | none =>
      have choice : (AccountRequest.default userID selector).chooses site state.registry =
          some (userID, row.id) := by
        simp [AccountRequest.chooses, selected, found]
      rw [choice]
      exact sound.defaulted now found

structure Fresh (state : Defaults) : Prop where
  users : ∀ user ∈ state.registry.users, user.id ≤ state.registry.drawn
  identities : state.registry.identities = []
  chosen : state.chosen = fun _ => none

theorem Fresh.sound {state : Defaults} (fresh : state.Fresh) : state.Sound := by
  have nobody {row : IdentityRow} (member : row ∈ state.registry.identities) : False := by
    rw [fresh.identities] at member
    cases member
  refine ⟨⟨fresh.users, ?_, ?_, ?_, ?_, ?_⟩, ?_, ?_⟩
  · exact fun row member => (nobody member).elim
  · exact fun row member => (nobody member).elim
  · simp [fresh.identities]
  · simp [fresh.identities]
  · exact fun row member => (nobody member).elim
  · intro userID id choice
    rw [fresh.chosen] at choice
    cases choice
  · exact fun row member => (nobody member).elim

end Defaults

/-- In every state that settled requests reach, a user has at most one flag, and his default
identity is the one he chose as long as that is active. -/
theorem default_kept {start final : Defaults} (fresh : start.Fresh)
    (runs : (defaults site).Runs Settled start final) (userID : Nat) : final.Held userID := by
  have sound : final.Sound := Machine.Runs.invariant Defaults.Sound fresh.sound
    (fun sound settled taken => sound.step settled taken) runs
  exact sound.held userID

def Defaults.start : Defaults := ⟨.empty, fun _ => none⟩

theorem Defaults.start_fresh : Defaults.start.Fresh := ⟨by simp [start, Registry.empty], rfl, rfl⟩

def anotherIdentity (isDefault : Bool) : AccountRequest :=
  .post 1 (some
    { email := ascii "alice.b@elvish.local"
      armoredPublic := ascii "A2"
      primaryUID := []
      wrappedSecretB64 := ascii "AAAA"
      isDefault
      expiresAt := []
      avatarDataURL := []
      avatarColor := []
      statusBadgeEnabled := false })

def aliceChooses : List (AccountRequest × (Nat → Moment)) :=
  [(registration "alice" "alice@elvish.local" "A1", smoothly 1), (anotherIdentity false, smoothly 2),
    (.default 1 (ascii "A2"), smoothly 3)]

/-- What she chose is her default. -/
theorem default_kept_chosen : ((defaults .sample).after aliceChooses .start).Held 1 := by
  refine default_kept Defaults.start_fresh (Machine.after_runs aliceChooses ⟨?_, ?_, ?_, trivial⟩) 1
  · intro accountKey named entry member
    cases named
    cases member
  · exact nofun
  · exact fun _ _ => nofun

def aliceFlags : List (AccountRequest × (Nat → Moment)) :=
  [(registration "alice" "alice@elvish.local" "A1", smoothly 1), (anotherIdentity true, smoothly 2)]

/-- Both are flagged. -/
theorem second_default :
    ¬∀ (site : Site) (start final : Defaults), start.Fresh →
      (defaults site).Runs (fun _ _ => True) start final → ∀ userID, final.Held userID := by
  intro kept
  have runs : (defaults .sample).Runs (fun _ _ => True) .start
      ((defaults .sample).after aliceFlags .start) :=
    Machine.after_runs _ (Machine.permits_of_forall (fun _ _ => trivial) _ _)
  have one := (kept .sample .start _ Defaults.start_fresh runs 1).1
  revert one
  decide +kernel

end ElvishMail.Httpserver
