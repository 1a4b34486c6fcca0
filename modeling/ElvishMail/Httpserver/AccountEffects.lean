import ElvishMail.Httpserver.Accounts

/-!
# What account requests do

Each request changes the tables in one of a few ways, or not at all, however its
statements end: `handle_answered` says which, and what is answered, `handle_effect` only
what later modules mostly need. What they show of requests is a case analysis over
`Answered` or `AccountEffect`; none of them looks at a handler again.
-/

namespace ElvishMail.Httpserver

open Go Smtp Mailmeta Semantics

variable (site : Site)

/-- An address at which a user may have a mailbox: its domain is the platform's, or one
that the user may use. -/
def Entitled (registry : Registry) (userID : Nat) (email : GoString) : Prop :=
  ∃ name domain, splitMailbox (trimLower site.lib email) = some (name, domain) ∧
    (onPlatform site domain = true ∨
      registry.userMayUseDomainForMailbox site.lib userID domain = true)

inductive Enrolled (registry : Registry) (userID : Nat) (accountKey : AccountKeyBootstrap) :
    Registry → Prop where
  | unchanged : Enrolled registry userID accountKey registry
  | stored {fingerprint : GoString} {rows : List IdentityRow} (now : Time)
      (parsed : parseAccountKeyBootstrap site userID accountKey = .ok (fingerprint, rows)) :
      Enrolled registry userID accountKey
        (registry.withAccount now userID (rows.map (storedIdentity site)))

inductive AccountEffect (registry : Registry) : AccountRequest → Registry → Prop where
  | nothing (request : AccountRequest) : AccountEffect registry request registry
  | registered {gate : Option Refusal} {body : RegBody} {accountKey : AccountKeyBootstrap}
      {middle : Registry} (email : GoString) (named : body.accountKey = some accountKey)
      (enrolled : Enrolled site (registry.withUser email) (registry.drawn + 1) accountKey middle) :
      AccountEffect registry (.register gate (some body)) middle
  | abandoned {gate : Option Refusal} {body : RegBody} {accountKey : AccountKeyBootstrap}
      {middle : Registry} (email : GoString) (named : body.accountKey = some accountKey)
      (enrolled : Enrolled site (registry.withUser email) (registry.drawn + 1) accountKey middle) :
      AccountEffect registry (.register gate (some body)) (middle.withoutUser (registry.drawn + 1))
  | bootstrapped {userID : Nat} {body : AccountKeyBootstrap} {next : Registry}
      (enrolled : Enrolled site registry userID body next) :
      AccountEffect registry (.bootstrap userID (some body)) next
  | posted {userID : Nat} {body : IdentityPostBody} {row : IdentityRow} (now : Time)
      (owner : row.userID = userID) (named : row.email = normalizeEmail site.lib body.email)
      (active : row.isActive = true) (entitled : Entitled site registry userID row.email)
      (free : ∀ other ∈ registry.identities, other.isActive = true →
        toLower site.lib other.email ≠ normalizeEmail site.lib row.email) :
      AccountEffect registry (.post userID (some body)) (registry.withIdentity now row)
  | revoked {userID : Nat} {selector : GoString} {certificate : Option GoString} (now : Time)
      (fingerprint : GoString) :
      AccountEffect registry (.revoke userID selector certificate)
        ((RegistryWrite.revokeIdentity userID fingerprint).apply now registry)
  | deleted {userID : Nat} {selector : GoString} (now : Time) (fingerprint : GoString) :
      AccountEffect registry (.delete userID selector)
        ((RegistryWrite.deleteIdentity userID fingerprint).apply now registry)
  | defaulted {userID : Nat} {selector : GoString} (now : Time) (fingerprint : GoString) :
      AccountEffect registry (.default userID selector)
        ((RegistryWrite.setDefaultIdentity userID fingerprint).apply now registry)

def selectedFingerprint (registry : Registry) (userID : Nat) (selector : GoString) :
    Option GoString :=
  let selector := trimSpace selector
  if selector = [] then none
  else match site.parseUUID selector with
    | none => some (toUpper site.lib selector)
    | some id =>
      (registry.identities.find? fun row => row.userID == userID && row.id == id).map
        fun row => toUpper site.lib (trimSpace row.fingerprint)

def Bootstrapped (registry : Registry) (userID : Nat) (accountKey : AccountKeyBootstrap)
    (next : Registry) : Prop :=
  ∃ now fingerprint rows,
    parseAccountKeyBootstrap site userID accountKey = .ok (fingerprint, rows) ∧
      (RegistryWrite.storeBootstrap userID (rows.map (storedIdentity site))).violation registry = none ∧
      next = registry.withAccount now userID (rows.map (storedIdentity site))

/-- The identities of an account are stored, or the request is turned down with nothing done. -/
def StoredOr (registry : Registry) (userID : Nat) (accountKey : AccountKeyBootstrap)
    (refusal : Option Refusal) (next : Registry) : Prop :=
  (∃ reason, refusal = some reason) ∧ next = registry ∨
    Bootstrapped site registry userID accountKey next

/-- What a request does, and how it is answered. A write that takes effect may be reported
as failed. -/
inductive Answered (registry : Registry) : AccountRequest → Option Refusal → Registry → Prop where
  | refused (request : AccountRequest) (reason : Refusal) :
      Answered registry request (some reason) registry
  | registered {gate : Option Refusal} {body : RegBody} {accountKey : AccountKeyBootstrap}
      {refusal : Option Refusal} {next : Registry} (email : GoString)
      (named : body.accountKey = some accountKey)
      (stored : StoredOr site (registry.withUser email) (registry.drawn + 1) accountKey refusal next) :
      Answered registry (.register gate (some body)) refusal next
  | abandoned {gate : Option Refusal} {body : RegBody} {accountKey : AccountKeyBootstrap}
      {refusal : Option Refusal} {middle : Registry} (reason : Refusal) (email : GoString)
      (named : body.accountKey = some accountKey)
      (stored : StoredOr site (registry.withUser email) (registry.drawn + 1) accountKey refusal middle) :
      Answered registry (.register gate (some body)) (some reason)
        (middle.withoutUser (registry.drawn + 1))
  | bootstrapped {userID : Nat} {body : AccountKeyBootstrap} {next : Registry}
      (refusal : Option Refusal) (stored : Bootstrapped site registry userID body next) :
      Answered registry (.bootstrap userID (some body)) refusal next
  | posted {userID : Nat} {body : IdentityPostBody} {row : IdentityRow} (refusal : Option Refusal)
      (now : Time) (owner : row.userID = userID)
      (named : row.email = normalizeEmail site.lib body.email) (active : row.isActive = true)
      (flag : row.isDefault = body.isDefault) (entitled : Entitled site registry userID row.email)
      (free : ∀ other ∈ registry.identities, other.isActive = true →
        toLower site.lib other.email ≠ normalizeEmail site.lib row.email)
      (fits : (RegistryWrite.insertIdentityKey row).violation registry = none)
      (expires : parseExpiresAt site body.expiresAt = .ok row.expiresAt) :
      Answered registry (.post userID (some body)) refusal (registry.withIdentity now row)
  | revoked {userID : Nat} {selector fingerprint : GoString} {certificate : Option GoString}
      (refusal : Option Refusal) (now : Time) :
      Answered registry (.revoke userID selector certificate) refusal
        ((RegistryWrite.revokeIdentity userID fingerprint).apply now registry)
  | deleted {userID : Nat} {selector fingerprint : GoString} (refusal : Option Refusal) (now : Time) :
      Answered registry (.delete userID selector) refusal
        ((RegistryWrite.deleteIdentity userID fingerprint).apply now registry)
  | defaulted {userID : Nat} {selector fingerprint : GoString} (refusal : Option Refusal) (now : Time)
      (selected : selectedFingerprint site registry userID selector = some fingerprint)
      (found : (registry.identity? userID fingerprint).isSome = true) :
      Answered registry (.default userID selector) refusal
        ((RegistryWrite.setDefaultIdentity userID fingerprint).apply now registry)

section Bootstraps

variable {site} {userID : Nat}

theorem parseBootstrapIdentity_ok {first : Bool} {body : BootstrapIdentityBody} {row : IdentityRow}
    (parsed : parseBootstrapIdentity site userID first body = .ok row) :
    row.userID = userID ∧ row.email = normalizeEmail site.lib body.email ∧ row.isActive = true ∧
      row.isDefault = (body.isDefault || first) := by
  unfold parseBootstrapIdentity at parsed
  split at parsed
  · cases parsed
  · split at parsed
    · cases parsed
    · split at parsed
      · cases parsed
      · cases parsed
        exact ⟨rfl, rfl, rfl, rfl⟩

theorem parseBootstrapIdentities_ok {first : Bool} {bodies : List BootstrapIdentityBody}
    {rows : List IdentityRow} (parsed : parseBootstrapIdentities site userID first bodies = .ok rows) :
    ∀ row ∈ rows, row.userID = userID ∧ row.isActive = true ∧
      ∃ body ∈ bodies, row.email = normalizeEmail site.lib body.email := by
  induction bodies generalizing first rows with
  | nil =>
    cases parsed
    exact fun row member => absurd member List.not_mem_nil
  | cons body rest ih =>
    unfold parseBootstrapIdentities at parsed
    split at parsed
    · cases parsed
    next made parsedBody =>
      split at parsed
      · cases parsed
      next later parsedRest =>
        cases parsed
        intro row member
        rcases List.mem_cons.mp member with rfl | inRest
        · obtain ⟨owner, named, active, -⟩ := parseBootstrapIdentity_ok parsedBody
          exact ⟨owner, active, body, List.mem_cons_self, named⟩
        · obtain ⟨owner, active, other, otherMember, named⟩ :=
            ih parsedRest row inRest
          exact ⟨owner, active, other, List.mem_cons_of_mem body otherMember, named⟩

theorem parseAccountKeyBootstrap_rows {accountKey : AccountKeyBootstrap} {fingerprint : GoString}
    {rows : List IdentityRow}
    (parsed : parseAccountKeyBootstrap site userID accountKey = .ok (fingerprint, rows)) :
    parseBootstrapIdentities site userID true accountKey.identities = .ok rows ∧ rows ≠ [] := by
  unfold parseAccountKeyBootstrap at parsed
  split at parsed
  · cases parsed
  · split at parsed
    · cases parsed
    · split at parsed
      · cases parsed
      · cases parsed
      · split at parsed
        · cases parsed
        · split at parsed
          · cases parsed
          · split at parsed
            · cases parsed
            · cases parsed
            next nonempty made =>
              cases parsed
              exact ⟨made, nonempty⟩

theorem parseAccountKeyBootstrap_ok {accountKey : AccountKeyBootstrap} {fingerprint : GoString}
    {rows : List IdentityRow}
    (parsed : parseAccountKeyBootstrap site userID accountKey = .ok (fingerprint, rows)) :
    ∀ row ∈ rows, row.userID = userID ∧ row.isActive = true ∧
      ∃ body ∈ accountKey.identities, row.email = normalizeEmail site.lib body.email :=
  parseBootstrapIdentities_ok (parseAccountKeyBootstrap_rows parsed).1

theorem Enrolled.mem {registry next : Registry} {accountKey : AccountKeyBootstrap}
    (enrolled : Enrolled site registry userID accountKey next) {stored : IdentityRow}
    (member : stored ∈ next.identities) :
    stored ∈ registry.identities ∨ stored.userID = userID ∧
      ∃ body ∈ accountKey.identities, stored.email = normalizeEmail site.lib body.email := by
  cases enrolled with
  | unchanged => exact .inl member
  | stored now parsed =>
    rcases Registry.mem_withAccount member with old | ⟨row, rowMember, stores⟩
    · exact .inl old
    · obtain ⟨given, givenMember, rfl⟩ := List.mem_map.mp rowMember
      obtain ⟨owner, -, body, bodyMember, named⟩ := parseAccountKeyBootstrap_ok parsed given givenMember
      exact .inr ⟨stores.userID.trans owner, body, bodyMember, stores.email.trans named⟩

end Bootstraps

section Handlers

variable {site} {registry : Registry} {userID : Nat} {email : GoString}

abbrev Leaves {Value : Type} (site : Site) (program : Registering Value) (registry : Registry)
    (wanted : Value → Registry → Prop) : Prop :=
  program.Ensures (RegistryStatement.answer site.lib) registry wanted

theorem write_leaves {Value : Type} {effect : RegistryWrite}
    {next : Option WriteError → Registering Value} {wanted : Value → Registry → Prop}
    (refused : ∀ err, Leaves site (next (some err)) registry wanted)
    (lost : ∀ err now, effect.violation registry = none →
      Leaves site (next (some err)) (effect.apply now registry) wanted)
    (done : ∀ now, effect.violation registry = none →
      Leaves site (next none) (effect.apply now registry) wanted) :
    Leaves site (.ask (.write effect) next) registry wanted := by
  intro moment
  show Program.Ensures _ (next (effect.attempt moment registry).1) (effect.attempt moment registry).2 wanted
  cases reported : (effect.attempt moment registry).1 with
  | some err =>
    rcases effect.attempt_cases moment registry with same | ⟨free, applied⟩
    · rw [same]
      exact refused err
    · rw [applied]
      exact lost err moment.now free
  | none =>
    obtain ⟨free, applied⟩ := RegistryWrite.attempt_done reported
    rw [applied]
    exact done moment.now free

theorem isDeletedAddressReserved_leaves :
    Leaves site (isDeletedAddressReserved site email) registry fun _ next => next = registry := by
  unfold isDeletedAddressReserved
  dsimp only
  split
  · exact rfl
  · exact fun moment => rfl

theorem ensureBootstrapIdentitiesAvailable_leaves (rows : List IdentityRow) :
    Leaves site (ensureBootstrapIdentitiesAvailable site rows) registry fun _ next => next = registry := by
  induction rows with
  | nil => exact rfl
  | cons row rest ih =>
    unfold ensureBootstrapIdentitiesAvailable
    rw [Leaves, Program.ensures_bind]
    refine isDeletedAddressReserved_leaves.weaken fun reserved next kept => ?_
    cases kept
    match reserved with
    | .error err => exact rfl
    | .ok true => exact rfl
    | .ok false => exact ih

theorem storeParsedAccountBootstrap_leaves {accountKey : AccountKeyBootstrap}
    {fingerprint : GoString} {rows : List IdentityRow}
    (parsed : parseAccountKeyBootstrap site userID accountKey = .ok (fingerprint, rows)) :
    Leaves site (storeParsedAccountBootstrap site userID rows) registry fun err next =>
      (∃ reason, err = some reason) ∧ next = registry ∨
        Bootstrapped site registry userID accountKey next := by
  refine write_leaves (fun err => ?_) (fun err now free => ?_) (fun now free => ?_)
  · exact .inl ⟨⟨err, rfl⟩, rfl⟩
  · exact .inr ⟨now, fingerprint, rows, parsed, free, rfl⟩
  · exact .inr ⟨now, fingerprint, rows, parsed, free, rfl⟩

theorem apiAccountKeyBootstrap_leaves (body : AccountKeyBootstrap) :
    Leaves site (apiAccountKeyBootstrap site userID (some body)) registry
      fun reply next => StoredOr site registry userID body (refusal? reply) next := by
  unfold apiAccountKeyBootstrap
  dsimp only
  split
  · exact .inl ⟨⟨_, rfl⟩, rfl⟩
  next fingerprint rows parsed =>
    rw [Leaves, Program.ensures_bind]
    refine (ensureBootstrapIdentitiesAvailable_leaves rows).weaken fun available next kept => ?_
    cases kept
    match available with
    | .error err => exact .inl ⟨⟨_, rfl⟩, rfl⟩
    | .ok false => exact .inl ⟨⟨_, rfl⟩, rfl⟩
    | .ok true =>
      dsimp only
      rw [Program.ensures_bind]
      refine (storeParsedAccountBootstrap_leaves parsed).weaken fun err next stored => ?_
      rcases stored with ⟨⟨reason, rfl⟩, rfl⟩ | stored
      · exact .inl ⟨⟨_, rfl⟩, rfl⟩
      · cases err with
        | some err => exact .inr stored
        | none => exact .inr stored

def Finished (site : Site) (registry : Registry) (userID : Nat) (accountKey : AccountKeyBootstrap)
    (refusal : Option Refusal) (next : Registry) : Prop :=
  StoredOr site registry userID accountKey refusal next ∨
    ∃ reason middle, refusal = some reason ∧
      StoredOr site registry userID accountKey refusal middle ∧ next = middle.withoutUser userID

theorem abandon_leaves {accountKey : AccountKeyBootstrap} {middle : Registry} (reason : Refusal)
    (stored : StoredOr site registry userID accountKey (some reason) middle) :
    Leaves site (abandon userID reason) middle
      fun reply next => Finished site registry userID accountKey (refusal? reply) next := by
  refine write_leaves (fun err => ?_) (fun err now free => ?_) (fun now free => ?_)
  · exact .inl stored
  · exact .inr ⟨reason, middle, rfl, stored, rfl⟩
  · exact .inr ⟨reason, middle, rfl, stored, rfl⟩

theorem finishRegister_leaves (accountKey : AccountKeyBootstrap) :
    Leaves site (finishRegister site userID accountKey) registry
      fun reply next => Finished site registry userID accountKey (refusal? reply) next := by
  unfold finishRegister
  split
  · exact abandon_leaves _ (.inl ⟨⟨_, rfl⟩, rfl⟩)
  next fingerprint rows parsed =>
    rw [Leaves, Program.ensures_bind]
    refine (ensureBootstrapIdentitiesAvailable_leaves rows).weaken fun available next kept => ?_
    cases kept
    match available with
    | .error err => exact abandon_leaves _ (.inl ⟨⟨_, rfl⟩, rfl⟩)
    | .ok false => exact abandon_leaves _ (.inl ⟨⟨_, rfl⟩, rfl⟩)
    | .ok true =>
      dsimp only
      rw [Program.ensures_bind]
      refine (storeParsedAccountBootstrap_leaves parsed).weaken fun err next stored => ?_
      cases err with
      | some err =>
        refine abandon_leaves _ ?_
        rcases stored with ⟨-, rfl⟩ | stored
        · exact .inl ⟨⟨_, rfl⟩, rfl⟩
        · exact .inr stored
      | none =>
        have stored : Bootstrapped site registry userID accountKey next := by
          rcases stored with ⟨⟨reason, reported⟩, -⟩ | stored
          · cases reported
          · exact stored
        intro moment
        dsimp only [RegistryStatement.answer]
        cases moment.outcome.error? with
        | some err => exact .inl (.inr stored)
        | none => exact .inl (.inr stored)

theorem checkRegBody_accountKey {body : RegBody} {name : GoString} {accountKey : AccountKeyBootstrap}
    (checked : checkRegBody site body = .ok (name, accountKey)) : body.accountKey = some accountKey := by
  unfold checkRegBody at checked
  split at checked
  · cases checked
  · split at checked
    · cases checked
    next key named =>
      split at checked
      · cases checked
      · cases checked
        exact named

theorem apiRegister_leaves (gate : Option Refusal) (body : RegBody) :
    Leaves site (apiRegister site gate (some body)) registry
      fun reply next => Answered site registry (.register gate (some body)) (refusal? reply) next := by
  unfold apiRegister
  split
  · exact .refused _ _
  · exact .refused _ _
  next given =>
    cases given
    split
    · exact .refused _ _
    next name accountKey checked =>
      have named := checkRegBody_accountKey checked
      dsimp only
      rw [Leaves, Program.ensures_bind]
      refine isDeletedAddressReserved_leaves.weaken fun reserved next kept => ?_
      cases kept
      match reserved with
      | .error err => exact .refused _ _
      | .ok true => exact .refused _ _
      | .ok false =>
        dsimp only
        split
        · exact .refused _ _
        · split
          · exact .refused _ _
          · split
            · exact .refused _ _
            · intro moment
              rcases RegistryStatement.createUserWithSRP_cases site.lib moment registry
                  (trimLower site.lib
                    (composeCanonicalEmail site.lib name site.effectiveMailDomain)) with
                ⟨err, next, answered, rfl | rfl⟩ | answered
              · rw [answered]
                cases err with
                | duplicateKey => exact .refused _ _
                | notFound => exact .refused _ _
                | failed err => exact .refused _ _
              · rw [answered]
                cases err with
                | duplicateKey => exact .registered _ named (.inl ⟨⟨_, rfl⟩, rfl⟩)
                | notFound => exact .registered _ named (.inl ⟨⟨_, rfl⟩, rfl⟩)
                | failed err => exact .registered _ named (.inl ⟨⟨_, rfl⟩, rfl⟩)
              · rw [answered]
                refine (finishRegister_leaves accountKey).weaken fun reply next finished => ?_
                rcases finished with stored | ⟨reason, middle, refused, stored, rfl⟩
                · exact .registered _ named stored
                · rw [refused]
                  exact .abandoned reason _ named stored

theorem validateIdentityMailboxEmailForUser_leaves (expiresAt : Option Time) :
    Leaves site (validateIdentityMailboxEmailForUser site userID email expiresAt) registry
      fun err next => next = registry ∧ (err = none → Entitled site registry userID email) := by
  unfold validateIdentityMailboxEmailForUser
  dsimp only
  split
  · exact ⟨rfl, nofun⟩
  next name domain cut =>
    split
    next platform => exact ⟨rfl, fun _ => ⟨name, domain, cut, .inl platform⟩⟩
    · rw [Leaves, Program.ensures_bind]
      refine Program.Ensures.weaken userMayUseDomainForMailbox_ensures fun may next answered => ?_
      obtain ⟨rfl, answered⟩ := answered
      match may with
      | .error err => exact ⟨rfl, nofun⟩
      | .ok false => exact ⟨rfl, nofun⟩
      | .ok true => exact ⟨rfl, fun _ => ⟨name, domain, cut, .inr (answered true rfl).symm⟩⟩

theorem postedIdentity_ok {body : IdentityPostBody} {row : IdentityRow}
    (made : postedIdentity site userID email body = .ok row) :
    row.userID = userID ∧ row.email = email ∧ row.isActive = true ∧
      row.isDefault = body.isDefault := by
  unfold postedIdentity at made
  split at made
  · cases made
  · split at made
    · cases made
    · split at made
      · cases made
      · cases made
        exact ⟨rfl, rfl, rfl, rfl⟩

theorem insertIdentityKey_leaves (row : IdentityRow) :
    Leaves site (insertIdentityKey site.lib row) registry fun err next =>
      (∃ reason, err = some reason) ∧ next = registry ∨
        ∃ now, (RegistryWrite.insertIdentityKey (storedIdentity site row)).violation registry = none ∧
          next = registry.withIdentity now (storedIdentity site row) := by
  refine write_leaves (fun err => ?_) (fun err now free => ?_) (fun now free => ?_)
  · exact .inl ⟨⟨err, rfl⟩, rfl⟩
  · exact .inr ⟨now, free, rfl⟩
  · exact .inr ⟨now, free, rfl⟩

theorem apiIdentitiesPost_leaves (body : IdentityPostBody) :
    Leaves site (apiIdentitiesPost site userID (some body)) registry
      fun reply next => Answered site registry (.post userID (some body)) (refusal? reply) next := by
  unfold apiIdentitiesPost
  dsimp only
  split
  · exact .refused _ _
  split
  · exact .refused _ _
  next expiresAt parsed =>
  rw [Leaves, Program.ensures_bind]
  refine (validateIdentityMailboxEmailForUser_leaves _).weaken fun invalid next validated => ?_
  obtain ⟨rfl, entitled⟩ := validated
  cases invalid with
  | some err => exact .refused _ _
  | none =>
    dsimp only
    rw [Program.ensures_bind]
    refine isDeletedAddressReserved_leaves.weaken fun reserved next kept => ?_
    cases kept
    match reserved with
    | .error err => exact .refused _ _
    | .ok true => exact .refused _ _
    | .ok false =>
      dsimp only
      rw [Program.ensures_bind]
      refine Program.Ensures.weaken mailboxAddressGloballyTaken_ensures fun taken next looked => ?_
      obtain ⟨rfl, free⟩ := looked
      match taken with
      | .error err => exact .refused _ _
      | .ok true => exact .refused _ _
      | .ok false =>
        dsimp only [finishIdentitiesPost]
        split
        · exact .refused _ _
        next row made =>
          obtain ⟨owner, named, active, flag⟩ := postedIdentity_ok made
          rw [Program.ensures_bind]
          refine (insertIdentityKey_leaves _).weaken fun err later inserted => ?_
          rcases inserted with ⟨⟨reason, rfl⟩, rfl⟩ | ⟨now, fits, rfl⟩
          · exact .refused _ _
          · have posted (refusal : Option Refusal) :
                Answered site next (.post userID (some body)) refusal
                  (next.withIdentity now (storedIdentity site { row with expiresAt })) := by
              refine .posted refusal now owner named active flag ?_ ?_ fits parsed
              · show Entitled site next userID row.email
                rw [named]
                exact entitled rfl
              · show ∀ other ∈ next.identities, other.isActive = true →
                  toLower site.lib other.email ≠ normalizeEmail site.lib row.email
                rw [named]
                exact free rfl
            cases err with
            | some err => exact posted _
            | none => exact posted _

theorem resolveIdentitySelector_leaves {selector : GoString} :
    Leaves site (resolveIdentitySelector site userID selector) registry fun resolved next =>
      next = registry ∧ ∀ fingerprint, resolved = .ok fingerprint →
        selectedFingerprint site registry userID selector = some fingerprint := by
  unfold resolveIdentitySelector selectedFingerprint
  dsimp only
  split
  · exact ⟨rfl, nofun⟩
  · cases site.parseUUID (trimSpace selector) with
    | none => exact ⟨rfl, fun _ resolved => congrArg some (Except.ok.inj resolved)⟩
    | some id =>
      intro moment
      dsimp only [RegistryStatement.answer, Outcome.read]
      cases moment.outcome.error? with
      | some err => exact ⟨rfl, nofun⟩
      | none =>
        dsimp only
        cases registry.identities.find? fun row => row.userID == userID && row.id == id with
        | none => exact ⟨rfl, nofun⟩
        | some row => exact ⟨rfl, fun _ resolved => congrArg some (Except.ok.inj resolved)⟩

theorem onSelected_leaves {change : GoString → RegistryWrite} {refuse : WriteError → Refusal}
    {selector : GoString} :
    Leaves site (onSelected site userID selector change refuse) registry fun refusal next =>
      (∃ reason, refusal = some reason) ∧ next = registry ∨
        ∃ now fingerprint, selectedFingerprint site registry userID selector = some fingerprint ∧
          (change fingerprint).violation registry = none ∧
          next = (change fingerprint).apply now registry := by
  unfold onSelected
  rw [Leaves, Program.ensures_bind]
  refine resolveIdentitySelector_leaves.weaken fun resolved next kept => ?_
  obtain ⟨rfl, selected⟩ := kept
  match resolved with
  | .error .notFound => exact .inl ⟨⟨_, rfl⟩, rfl⟩
  | .error (.failed err) => exact .inl ⟨⟨_, rfl⟩, rfl⟩
  | .ok fingerprint =>
    refine write_leaves (fun err => ?_) (fun err now free => ?_) (fun now free => ?_)
    · exact .inl ⟨⟨_, rfl⟩, rfl⟩
    · exact .inr ⟨now, fingerprint, selected _ rfl, free, rfl⟩
    · exact .inr ⟨now, fingerprint, selected _ rfl, free, rfl⟩

theorem apiIdentityRevoke_leaves (selector : GoString) (certificate : Option GoString) :
    Leaves site (apiIdentityRevoke site userID selector certificate) registry
      fun refusal next => Answered site registry (.revoke userID selector certificate) refusal next := by
  cases certificate with
  | none =>
    unfold apiIdentityRevoke
    rw [Leaves, Program.ensures_bind]
    refine resolveIdentitySelector_leaves.weaken fun resolved next kept => ?_
    cases kept.1
    match resolved with
    | .error .notFound => exact .refused _ _
    | .error (.failed err) => exact .refused _ _
    | .ok fingerprint => exact .refused _ _
  | some certificate =>
    unfold apiIdentityRevoke
    rw [Leaves, Program.ensures_bind]
    refine resolveIdentitySelector_leaves.weaken fun resolved next kept => ?_
    cases kept.1
    match resolved with
    | .error .notFound => exact .refused _ _
    | .error (.failed err) => exact .refused _ _
    | .ok fingerprint =>
      dsimp only
      split
      · exact .refused _ _
      · refine write_leaves (fun err => ?_) (fun err now free => ?_) (fun now free => ?_)
        · exact .refused _ _
        · exact .revoked _ now
        · exact .revoked _ now

end Handlers

variable {site} {registry : Registry}

theorem leaves_refusal {Value : Type} {program : Registering (Except Refusal Value)}
    {wanted : Option Refusal → Registry → Prop}
    (leaves : Leaves site program registry fun reply next => wanted (refusal? reply) next) :
    Leaves site (program >>= fun reply => .done (refusal? reply)) registry wanted := by
  rw [Leaves, Program.ensures_bind]
  exact leaves

theorem handle_answered (request : AccountRequest) :
    Leaves site (request.handle site) registry
      fun refusal next => Answered site registry request refusal next := by
  cases request with
  | register gate body =>
    refine leaves_refusal ?_
    cases body with
    | none =>
      cases gate with
      | none => exact .refused _ _
      | some refusal => exact .refused _ _
    | some body => exact apiRegister_leaves gate body
  | bootstrap userID body =>
    refine leaves_refusal ?_
    cases body with
    | none => exact .refused _ _
    | some body =>
      refine (apiAccountKeyBootstrap_leaves body).weaken fun reply next stored => ?_
      rcases stored with ⟨⟨reason, refused⟩, rfl⟩ | stored
      · rw [refused]
        exact .refused _ _
      · exact .bootstrapped _ stored
  | post userID body =>
    refine leaves_refusal ?_
    cases body with
    | none => exact .refused _ _
    | some body => exact apiIdentitiesPost_leaves body
  | revoke userID selector certificate => exact apiIdentityRevoke_leaves selector certificate
  | delete userID selector =>
    refine onSelected_leaves.weaken fun refusal next done => ?_
    rcases done with ⟨⟨reason, rfl⟩, rfl⟩ | ⟨now, fingerprint, selected, free, rfl⟩
    · exact .refused _ _
    · exact .deleted _ now
  | default userID selector =>
    refine onSelected_leaves.weaken fun refusal next done => ?_
    rcases done with ⟨⟨reason, rfl⟩, rfl⟩ | ⟨now, fingerprint, selected, free, rfl⟩
    · exact .refused _ _
    · refine .defaulted _ now selected ?_
      simpa [RegistryWrite.violation, Option.isSome_iff_ne_none] using free

theorem StoredOr.enrolled {userID : Nat} {accountKey : AccountKeyBootstrap}
    {refusal : Option Refusal} {next : Registry}
    (stored : StoredOr site registry userID accountKey refusal next) :
    Enrolled site registry userID accountKey next := by
  rcases stored with ⟨-, rfl⟩ | ⟨now, fingerprint, rows, parsed, -, rfl⟩
  · exact .unchanged
  · exact .stored now parsed

theorem Answered.effect {request : AccountRequest} {refusal : Option Refusal} {next : Registry}
    (answered : Answered site registry request refusal next) :
    AccountEffect site registry request next := by
  cases answered with
  | refused request reason => exact .nothing _
  | registered email named stored => exact .registered email named stored.enrolled
  | abandoned reason email named stored => exact .abandoned email named stored.enrolled
  | bootstrapped refusal stored =>
    have either : StoredOr site registry _ _ refusal _ := .inr stored
    exact .bootstrapped either.enrolled
  | posted refusal now owner named active flag entitled free fits expires =>
    exact .posted now owner named active entitled free
  | revoked refusal now => exact .revoked now _
  | deleted refusal now => exact .deleted now _
  | defaulted refusal now selected found => exact .defaulted now _

theorem handle_leaves (request : AccountRequest) :
    Leaves site (request.handle site) registry
      fun _ next => AccountEffect site registry request next :=
  (handle_answered request).weaken fun _ _ answered => answered.effect

theorem handle_effect {action : AccountRequest × (Nat → Moment)} {next : Registry}
    (taken : (accounts site).step registry action = some next) :
    AccountEffect site registry action.1 next := by
  obtain rfl := (Option.some.inj taken).symm
  exact (handle_leaves action.1).run action.2

/-- An active identity that was there before, perhaps with other marks. -/
def Kept (registry : Registry) (row : IdentityRow) : Prop :=
  ∃ old ∈ registry.identities, old.isActive = true ∧ old.email = row.email ∧ old.userID = row.userID

theorem kept_of_mem {row : IdentityRow} (member : row ∈ registry.identities)
    (active : row.isActive = true) : Kept registry row :=
  ⟨row, member, active, rfl, rfl⟩

def AccountRequest.owner (registry : Registry) : AccountRequest → Nat
  | register .. => registry.drawn + 1
  | bootstrap userID _ | post userID _ | revoke userID .. | delete userID _ | default userID _ => userID

/-- The addresses at which a request makes identities: those that an account key names, or
one that the user is entitled to and nobody has. -/
def AccountRequest.MakesAt (site : Site) (registry : Registry) (email : GoString) :
    AccountRequest → Prop
  | register _ (some body) => ∃ accountKey, body.accountKey = some accountKey ∧
      ∃ entry ∈ accountKey.identities, email = normalizeEmail site.lib entry.email
  | bootstrap _ (some body) => ∃ entry ∈ body.identities, email = normalizeEmail site.lib entry.email
  | post userID (some body) => email = normalizeEmail site.lib body.email ∧
      Entitled site registry userID email ∧
      ∀ other ∈ registry.identities, other.isActive = true →
        toLower site.lib other.email ≠ normalizeEmail site.lib email
  | _ => False

structure SameDomains (registry next : Registry) : Prop where
  aliases : next.aliases = registry.aliases
  domains : next.domains = registry.domains
  allowlist : next.allowlist = registry.allowlist
  keyFiles : next.keyFiles = registry.keyFiles

theorem sameDomains_withAccount {now : Time} {userID : Nat} {rows : List IdentityRow} :
    SameDomains registry (registry.withAccount now userID rows) := by
  unfold Registry.withAccount
  generalize before : ({ registry with accountKeys := registry.accountKeys ++ [userID] } : Registry) =
    keyed
  have same : SameDomains registry keyed := by
    rw [← before]
    exact ⟨rfl, rfl, rfl, rfl⟩
  clear before
  induction rows generalizing keyed with
  | nil => exact same
  | cons row rest ih =>
    exact ih _ ⟨same.aliases, same.domains, same.allowlist, same.keyFiles⟩

theorem Enrolled.sameDomains {userID : Nat} {accountKey : AccountKeyBootstrap} {next : Registry}
    (enrolled : Enrolled site registry userID accountKey next) : SameDomains registry next := by
  cases enrolled with
  | unchanged => exact ⟨rfl, rfl, rfl, rfl⟩
  | stored now parsed => exact sameDomains_withAccount

theorem AccountEffect.sameDomains {request : AccountRequest} {next : Registry}
    (effect : AccountEffect site registry request next) :
    SameDomains registry next ∨
      ∃ middle gone, SameDomains registry middle ∧ next = middle.withoutUser gone := by
  cases effect with
  | registered email named enrolled =>
    exact .inl ⟨enrolled.sameDomains.aliases, enrolled.sameDomains.domains,
      enrolled.sameDomains.allowlist, enrolled.sameDomains.keyFiles⟩
  | abandoned email named enrolled =>
    exact .inr ⟨_, _, ⟨enrolled.sameDomains.aliases, enrolled.sameDomains.domains,
      enrolled.sameDomains.allowlist, enrolled.sameDomains.keyFiles⟩, rfl⟩
  | bootstrapped enrolled => exact .inl enrolled.sameDomains
  | _ => exact .inl ⟨rfl, rfl, rfl, rfl⟩

theorem Enrolled.origin {userID : Nat} {accountKey : AccountKeyBootstrap} {start next : Registry}
    (enrolled : Enrolled site start userID accountKey next) {row : IdentityRow}
    (same : start.identities = registry.identities) (member : row ∈ next.identities)
    (active : row.isActive = true) :
    Kept registry row ∨ row.userID = userID ∧
      ∃ entry ∈ accountKey.identities, row.email = normalizeEmail site.lib entry.email := by
  rcases enrolled.mem member with old | new
  · exact .inl (kept_of_mem (same ▸ old) active)
  · exact .inr new

theorem kept_of_update {change : IdentityRow → IdentityRow} {row : IdentityRow}
    (same : ∀ row, (change row).email = row.email ∧ (change row).userID = row.userID)
    (active : ∀ row, (change row).isActive = true → row.isActive = true)
    (member : row ∈ (registry.updateIdentities change).identities) (isActive : row.isActive = true) :
    Kept registry row := by
  obtain ⟨old, oldMember, rfl⟩ := List.mem_map.mp member
  exact ⟨old, oldMember, active old isActive, (same old).1.symm, (same old).2.symm⟩

theorem AccountEffect.origin {request : AccountRequest} {next : Registry}
    (effect : AccountEffect site registry request next) {row : IdentityRow}
    (member : row ∈ next.identities) (active : row.isActive = true) :
    Kept registry row ∨
      row.userID = request.owner registry ∧ request.MakesAt site registry row.email := by
  cases effect with
  | nothing => exact .inl (kept_of_mem member active)
  | registered email named enrolled =>
    have same : (registry.withUser email).identities = registry.identities := rfl
    exact (enrolled.origin same member active).imp_right fun new => ⟨new.1, _, named, new.2⟩
  | abandoned email named enrolled =>
    have same : (registry.withUser email).identities = registry.identities := rfl
    exact (enrolled.origin same (List.mem_of_mem_filter member) active).imp_right
      fun new => ⟨new.1, _, named, new.2⟩
  | bootstrapped enrolled => exact enrolled.origin rfl member active
  | posted now owner named isActive entitled free =>
    rcases Registry.mem_withIdentity member with old | stores
    · exact .inl (kept_of_mem old active)
    · rw [stores.userID, stores.email]
      exact .inr ⟨owner, named, entitled, free⟩
  | revoked now fingerprint =>
    refine .inl (kept_of_update (fun row => ?_) (fun row active => ?_) member active)
    · split <;> exact ⟨rfl, rfl⟩
    · split at active
      · cases active
      · exact active
  | deleted now fingerprint => exact .inl (kept_of_mem (List.mem_of_mem_filter member) active)
  | defaulted now fingerprint =>
    refine .inl (kept_of_update (fun row => ?_) (fun row active => ?_) member active)
    · split <;> exact ⟨rfl, rfl⟩
    · split at active
      · exact active
      · exact active

end ElvishMail.Httpserver
