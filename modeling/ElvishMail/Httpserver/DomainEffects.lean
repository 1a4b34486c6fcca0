import ElvishMail.Httpserver.AccountEffects
import ElvishMail.Httpserver.CustomDomains

/-!
# What domain requests write

Each request issues few kinds of writes, and those only on the domain it names. What later
modules show of a request follows from what each of its writes does; the handlers are not
looked at again.
-/

namespace ElvishMail.Httpserver

open Go Smtp Mailmeta Semantics
open RegistryStatement (Writes)

/-- The file that holds the DKIM key of the domain. -/
def keyFileOf (site : DomainSite) (domain : GoString) : Option GoString :=
  match customDomainDKIMKeyBasename site.lib domain with
  | .error _ => none
  | .ok base => (secretFileUnderDir site.customDomainDKIMDir base).toOption

/-- The write concerns the DKIM key of the domain only. -/
def KeyWrite (site : DomainSite) (domain : GoString) : RegistryWrite → Prop
  | .writeKeyFile base _ | .removeKeyFile base => keyFileOf site domain = some base
  | .setOwnedDomainDKIM _ name _ _ => name = trimLower site.lib domain
  | _ => False

def pathDomain? (lib : Library) (name : GoString) : Option GoString :=
  (normalizeDNSDomain lib name).toOption.map (trimLower lib)

section Names

variable {lib : Library} {raw domain : GoString}

theorem labels_accepted (accepted : normalizeDNSDomain lib raw = .ok domain) :
    ((trimLower lib domain).splitOnP (· == 0x2E)).all validLabel = true := by
  unfold normalizeDNSDomain at accepted
  dsimp only at accepted
  split at accepted
  · cases accepted
  · split at accepted
    · cases accepted
    next valid =>
      cases accepted
      simp only [not_or, Bool.not_eq_false] at valid
      unfold validDNSName at valid
      dsimp only at valid
      simp only [Bool.and_eq_true] at valid
      exact valid.1.2

theorem normalizeOwnedDomain_accepted {stored : GoString}
    (accepted : normalizeDNSDomain lib raw = .ok domain)
    (normal : normalizeOwnedDomain lib domain = .ok stored) : stored = trimLower lib domain := by
  rw [(normalizeOwnedDomain_ok normal).1, trimDots_labels (labels_accepted accepted)]

theorem pathDomain?_accepted (accepted : normalizeDNSDomain lib raw = .ok domain) :
    pathDomain? lib raw = some (trimLower lib domain) := by
  rw [pathDomain?, accepted]
  rfl

end Names

section Programs

variable {site : DomainSite} {may : RegistryWrite → Prop} {userID : Nat} {domain : GoString}

theorem keyFileOf_eq {base file : GoString}
    (named : customDomainDKIMKeyBasename site.lib domain = .ok base)
    (under : secretFileUnderDir site.customDomainDKIMDir base = .ok file) :
    keyFileOf site domain = some file := by
  rw [keyFileOf, named]
  dsimp only
  rw [under]
  rfl

theorem getDomainDKIMByName_only :
    (getDomainDKIMByName site.lib domain).Only (Writes may) := by
  refine ⟨trivial, fun reply => ?_⟩
  cases reply with
  | error err => exact trivial
  | ok row => exact trivial

theorem getCustomDomainByName_only : (getCustomDomainByName site.lib domain).Only (Writes may) :=
  ⟨trivial, fun _ => trivial⟩

theorem provisionCustomDomainDKIM_only {key : Except GoError GoString}
    (keys : ∀ effect, KeyWrite site domain effect → may effect) :
    (provisionCustomDomainDKIM site userID domain key).Only (Writes may) := by
  refine ⟨trivial, fun made => ?_⟩
  cases made with
  | some err => exact trivial
  | none =>
    dsimp only
    split
    · exact trivial
    next base named =>
      split
      · exact trivial
      next file under =>
        have stays : keyFileOf site domain = some file := keyFileOf_eq named under
        split
        · exact trivial
        next pem =>
          refine ⟨keys (.writeKeyFile file pem) stays, fun written => ?_⟩
          cases written with
          | some err => exact trivial
          | none =>
            refine Program.Only.bind ⟨keys (.setOwnedDomainDKIM ..) rfl, fun _ => trivial⟩
              fun stored => ?_
            cases stored with
            | none => exact trivial
            | some err => exact ⟨keys (.removeKeyFile file) stays, fun _ => trivial⟩

theorem ensureCustomDomainDKIM_only {key : Except GoError GoString}
    (keys : ∀ effect, KeyWrite site (trimLower site.lib domain) effect → may effect) :
    (ensureCustomDomainDKIM site userID domain key).Only (Writes may) := by
  unfold ensureCustomDomainDKIM
  split
  · exact trivial
  · dsimp only
    split
    · exact trivial
    · refine getDomainDKIMByName_only.bind fun found => ?_
      match found with
      | .error err => exact trivial
      | .ok none => exact trivial
      | .ok (some (selector, keyRef)) =>
        dsimp only
        split
        · exact trivial
        · exact provisionCustomDomainDKIM_only keys

theorem removeCustomDomainDKIMFiles_only
    (keys : ∀ effect, KeyWrite site domain effect → may effect) :
    (removeCustomDomainDKIMFiles site domain).Only (Writes may) := by
  unfold removeCustomDomainDKIMFiles
  split
  · exact trivial
  · split
    · exact trivial
    next base named =>
      split
      · exact trivial
      next file under =>
        exact ⟨keys (.removeKeyFile file) (keyFileOf_eq named under), fun _ => trivial⟩

theorem deleteOwnedDomainFiles_only {label : GoString}
    (keys : ∀ effect, KeyWrite site domain effect → may effect)
    (deletes : may (.deleteOwnedDomain userID (trimLower site.lib domain))) :
    (deleteOwnedDomainFiles site label userID domain).Only (Writes may) := by
  refine Program.Only.bind ⟨deletes, fun _ => trivial⟩ fun deleted => ?_
  cases deleted with
  | some err => exact trivial
  | none => exact (removeCustomDomainDKIMFiles_only keys).bind fun _ => trivial

theorem saveVerification_only {label : GoString} {checks : DomainChecks}
    (updates : may (.updateDomainVerification userID (trimLower site.lib domain) checks.mx checks.spf
      checks.dkim checks.dmarc checks.status)) :
    (saveVerification site label userID domain checks).Only (Writes may) := by
  refine Program.Only.bind ⟨updates, fun _ => trivial⟩ fun updated => ?_
  cases updated with
  | some err => exact trivial
  | none => exact trivial

theorem apiCustomDomainsVerify_only {key : Except GoError GoString} {checks : DomainChecks}
    (keys : ∀ effect, KeyWrite site (trimLower site.lib domain) effect → may effect)
    (updates : may (.updateDomainVerification userID (trimLower site.lib domain) checks.mx checks.spf
      checks.dkim checks.dmarc checks.status)) :
    (apiCustomDomainsVerify site userID domain key checks).Only (Writes may) := by
  refine ⟨trivial, fun list => ?_⟩
  cases list with
  | error err => exact trivial
  | ok list =>
    dsimp only
    split
    · exact trivial
    · refine (ensureCustomDomainDKIM_only keys).bind fun ensured => ?_
      cases ensured with
      | some err => exact trivial
      | none => exact saveVerification_only updates

theorem verifyFound_only {key : Except GoError GoString} {checks : DomainChecks} {row : DomainRow}
    (keys : ∀ effect, KeyWrite site (trimLower site.lib row.domain) effect → may effect)
    (updates : may (.updateDomainVerification (ownerUserID row) (trimLower site.lib row.domain)
      checks.mx checks.spf checks.dkim checks.dmarc checks.status)) :
    (ensureCustomDomainDKIMForDomainName site row.domain key >>= fun ensured => match ensured with
      | some err => .done (some (.internal (ascii "admin domain dkim provision") err))
      | none => saveVerification site (ascii "admin domain verify save") (ownerUserID row) row.domain
          checks).Only (Writes may) := by
  have provides : (ensureCustomDomainDKIMForDomainName site row.domain key).Only (Writes may) := by
    refine getCustomDomainByName_only.bind fun found => ?_
    match found with
    | .error err => exact trivial
    | .ok none => exact trivial
    | .ok (some other) => exact ensureCustomDomainDKIM_only keys
  refine provides.bind fun ensured => ?_
  cases ensured with
  | some err => exact trivial
  | none => exact saveVerification_only updates

theorem saveCatchall_only {fingerprint : GoString}
    (catches : ∀ name print, may (.setDomainCatchall userID name print)) :
    (saveCatchall site userID domain fingerprint).Only (Writes may) := by
  refine Program.Only.bind ⟨catches _ _, fun _ => trivial⟩ fun saved => ?_
  cases saved with
  | some err => exact trivial
  | none => exact trivial

theorem resolveIdentitySelector_only {selector : GoString} :
    (resolveIdentitySelector site.toSite userID selector).Only (Writes may) := by
  unfold resolveIdentitySelector
  dsimp only
  split
  · exact trivial
  · split
    · exact trivial
    · refine ⟨trivial, fun found => ?_⟩
      match found with
      | .error err => exact trivial
      | .ok none => exact trivial
      | .ok (some row) => exact trivial

theorem identityByFingerprint_only {fingerprint : GoString} :
    (identityByFingerprint site.lib userID fingerprint).Only (Writes may) := by
  unfold identityByFingerprint
  dsimp only
  split
  · exact trivial
  · exact ⟨trivial, fun _ => trivial⟩

theorem apiCustomDomainsCatchall_only {body : Option (Option GoString)}
    (catches : ∀ name print, may (.setDomainCatchall userID name print)) :
    (apiCustomDomainsCatchall site userID domain body).Only (Writes may) := by
  unfold apiCustomDomainsCatchall
  split
  · exact trivial
  next selector =>
    dsimp only
    generalize trimSpace (selector.getD []) = raw
    split
    · exact saveCatchall_only catches
    · refine resolveIdentitySelector_only.bind fun resolved => ?_
      match resolved with
      | .error .notFound => exact trivial
      | .error (.failed err) => exact trivial
      | .ok fingerprint =>
        refine identityByFingerprint_only.bind fun found => ?_
        match found with
        | .error err => exact trivial
        | .ok none => exact trivial
        | .ok (some identity) =>
          dsimp only
          split
          · exact trivial
          · exact saveCatchall_only catches

theorem withAdminDomain_only {name : GoString} {next : DomainRow → Registering (Option Refusal)}
    (onward : ∀ row, (next row).Only (Writes may)) :
    (withAdminDomain site name next).Only (Writes may) := by
  refine getCustomDomainByName_only.bind fun found => ?_
  match found with
  | .error err => exact trivial
  | .ok none => exact trivial
  | .ok (some row) => exact onward row

theorem apiAdminDomainsPatchSharing_only {name : GoString} {body : Option AdminDomainSharingBody}
    (shares : ∀ domain mode, may (.setDomainShareMode domain mode))
    (lists : ∀ domain userIDs, may (.replaceDomainAllowlist domain userIDs)) :
    (apiAdminDomainsPatchSharing site name body).Only (Writes may) := by
  unfold apiAdminDomainsPatchSharing
  split
  · exact trivial
  split
  · exact trivial
  dsimp only
  iterate 2
    split
    · exact trivial
  split
  · exact trivial
  have sharing (domain mode : GoString) : (setDomainShareMode site.lib domain mode).Only (Writes may) := by
    unfold setDomainShareMode
    split
    · exact trivial
    · exact ⟨shares _ _, fun _ => trivial⟩
  refine (sharing ..).bind fun err => ?_
  cases err with
  | some err => exact trivial
  | none => exact ⟨lists _ _, fun err => by cases err <;> exact trivial⟩

end Programs

section Reads

variable {site : DomainSite} {registry : Registry} {wanted : Registry → Prop}

theorem onNamed_leaves {name : GoString} {next : GoString → Registering (Option Refusal)}
    (unchanged : wanted registry)
    (onward : ∀ domain, normalizeDNSDomain site.lib name = .ok domain →
      Leaves site.toSite (next domain) registry fun _ later => wanted later) :
    Leaves site.toSite (onNamed site name next) registry fun _ later => wanted later := by
  unfold onNamed
  split
  · exact unchanged
  next domain accepted => exact onward domain accepted

theorem onAdminNamed_leaves {name : GoString} {next : GoString → Registering (Option Refusal)}
    (unchanged : wanted registry)
    (onward : Leaves site.toSite (next (trimLower site.lib name)) registry fun _ later => wanted later) :
    Leaves site.toSite (onAdminNamed site name next) registry fun _ later => wanted later := by
  unfold onAdminNamed
  dsimp only
  split
  · exact unchanged
  · exact onward

theorem userByEmail_leaves {email : GoString} :
    Leaves site.toSite (userByEmail site.lib email) registry fun _ later => later = registry :=
  fun _ => rfl

theorem withAdminDomain_leaves {name : GoString} {next : DomainRow → Registering (Option Refusal)}
    (unchanged : wanted registry)
    (onward : ∀ row, registry.domain? (normalizeEmail site.lib name) = some row →
      Leaves site.toSite (next row) registry fun _ later => wanted later) :
    Leaves site.toSite (withAdminDomain site name next) registry fun _ later => wanted later := by
  unfold withAdminDomain
  intro moment
  dsimp only [RegistryStatement.answer, Outcome.read]
  cases moment.outcome.error? with
  | some err => exact unchanged
  | none =>
    cases found : registry.domain? (normalizeEmail site.lib name) with
    | none => exact unchanged
    | some row => exact onward row found

/-- What a request about sharing does: nothing, the first of its writes, or both. -/
inductive SharingEffect (site : DomainSite) (registry : Registry) (name : GoString)
    (body : Option AdminDomainSharingBody) : Registry → Prop where
  | nothing : SharingEffect site registry name body registry
  | mode {domain : GoString} {sharing : AdminDomainSharingBody} {userIDs : List Nat}
      (named : pathDomain? site.lib name = some domain) (given : body = some sharing)
      (parsed : parseAllowlist site sharing = some userIDs) :
      SharingEffect site registry name body
        (registry.withShareMode domain (trimLower site.lib (trimLower site.lib sharing.shareMode)))
  | both {domain : GoString} {sharing : AdminDomainSharingBody} {userIDs : List Nat}
      (named : pathDomain? site.lib name = some domain) (given : body = some sharing)
      (parsed : parseAllowlist site sharing = some userIDs) :
      SharingEffect site registry name body
        ((registry.withShareMode domain
          (trimLower site.lib (trimLower site.lib sharing.shareMode))).withAllowlist domain
            (if trimLower site.lib sharing.shareMode = shareModeAllowlist then userIDs else []))

theorem apiAdminDomainsPatchSharing_leaves {name : GoString} {body : Option AdminDomainSharingBody} :
    Leaves site.toSite (apiAdminDomainsPatchSharing site name body) registry
      fun _ later => SharingEffect site registry name body later := by
  unfold apiAdminDomainsPatchSharing
  split
  · exact .nothing
  next domain accepted =>
    have named : pathDomain? site.lib name = some (trimLower site.lib domain) := by
      rw [pathDomain?, accepted]
      rfl
    split
    · exact .nothing
    next sharing =>
      dsimp only
      split
      · exact .nothing
      · split
        · exact .nothing
        · split
          · exact .nothing
          next userIDs parsed =>
            rw [Leaves, Program.ensures_bind]
            unfold setDomainShareMode
            split
            · exact .nothing
            refine write_leaves (fun err => .nothing) (fun err now _ => .mode named rfl parsed)
              fun now _ => ?_
            rw [Leaves, Program.ensures_done]
            dsimp only
            rw [Program.ensures_bind]
            exact write_leaves (fun err => .mode named rfl parsed)
              (fun err _ _ => .both named rfl parsed) fun _ _ => .both named rfl parsed

theorem insertDomain_leaves {label : GoString} {userID : Nat} {raw domain : GoString} {drawn : Drawn}
    {Holds : Registry → Prop} (accepted : normalizeDNSDomain site.lib raw = .ok domain)
    (unchanged : wanted registry) (holds : ∀ later, Holds later → wanted later)
    (inserted : ∀ row, row.domain = trimLower site.lib domain → WellNamed row.domain →
      row.ownerUserID = some userID → row.dkimKeyID = [] → registry.domain? row.domain = none →
      Holds (registry.withDomain row))
    (each : ∀ effect now middle,
      KeyWrite site (trimLower site.lib domain) effect ∨
        effect = .deleteOwnedDomain userID (trimLower site.lib domain) →
      effect.violation middle = none → Holds middle → Holds (effect.apply now middle)) :
    Leaves site.toSite (insertDomain site label userID domain drawn) registry
      fun _ later => wanted later := by
  unfold insertDomain
  dsimp only
  rw [Leaves, Program.ensures_bind]
  unfold insertOwnedDomain
  split
  · exact unchanged
  next stored normal =>
    have wellNamed := (normalizeOwnedDomain_ok normal).2
    have same := normalizeOwnedDomain_accepted accepted normal
    generalize made : ({
        domain := stored
        ownerUserID := some userID
        status := ascii "pending"
        verificationTXTHost := ascii "_elvish-verify." ++ domain
        verificationTXTValue := ascii "elvish-domain-verify=" ++ drawn.token } : DomainRow) = row
    have named : row.domain = stored := by rw [← made]
    have owned : row.ownerUserID = some userID := by rw [← made]
    have keyless : row.dkimKeyID = [] := by rw [← made]
    have begins (free : (RegistryWrite.insertOwnedDomain row).violation registry = none) :
        Holds (registry.withDomain row) := by
      refine inserted row (named.trans same) (named ▸ wellNamed) owned keyless ?_
      cases found : registry.domain? row.domain with
      | none => rfl
      | some other => simp [RegistryWrite.violation, found] at free
    refine write_leaves (fun err => ?_) (fun err now free => ?_) fun now free => ?_
    · cases err with
      | duplicateKey => exact unchanged
      | notFound => exact unchanged
      | failed err => exact unchanged
    · cases err with
      | duplicateKey => exact holds _ (begins free)
      | notFound => exact holds _ (begins free)
      | failed err => exact holds _ (begins free)
    · have ensured : (ensureCustomDomainDKIM site userID domain drawn.key).Only
          (Writes fun effect => KeyWrite site (trimLower site.lib domain) effect ∨
            effect = .deleteOwnedDomain userID (trimLower site.lib domain)) :=
        ensureCustomDomainDKIM_only fun _ => .inl
      rw [Leaves, Program.ensures_done]
      refine Program.Ensures.weaken ((Program.Only.bind ensured fun err => ?_).ensures Holds
        (Writes.kept each) (begins free)) fun _ middle => holds middle
      cases err with
      | none => exact trivial
      | some err => exact Program.Only.bind ⟨.inr rfl, fun _ => trivial⟩ fun _ => trivial

theorem apiCustomDomainsAdd_leaves {userID : Nat} {body : Option GoString} {drawn : Drawn}
    (unchanged : wanted registry)
    (inserts : ∀ label raw domain, body = some raw → normalizeDNSDomain site.lib raw = .ok domain →
      Leaves site.toSite (insertDomain site label userID domain drawn) registry
        fun _ later => wanted later) :
    Leaves site.toSite (apiCustomDomainsAdd site userID body drawn) registry
      fun _ later => wanted later := by
  unfold apiCustomDomainsAdd
  split
  · exact unchanged
  next raw =>
    split
    · exact unchanged
    next domain accepted =>
      rw [Leaves, Program.ensures_bind]
      refine isDeletedAddressReserved_leaves.weaken fun reserved later kept => ?_
      cases kept
      rcases reserved with err | _ | _
      · exact unchanged
      · exact inserts _ raw domain rfl accepted
      · exact unchanged

theorem apiAdminDomainsAdd_leaves {body : Option AdminDomainAddBody} {drawn : Drawn}
    (unchanged : wanted registry)
    (inserts : ∀ label owner given domain, body = some given →
      normalizeDNSDomain site.lib given.domain = .ok domain →
      Leaves site.toSite (insertDomain site label owner domain drawn) registry
        fun _ later => wanted later) :
    Leaves site.toSite (apiAdminDomainsAdd site body drawn) registry
      fun _ later => wanted later := by
  unfold apiAdminDomainsAdd
  split
  · exact unchanged
  next given =>
    split
    · exact unchanged
    next domain accepted =>
      rw [Leaves, Program.ensures_bind]
      refine isDeletedAddressReserved_leaves.weaken fun reserved later kept => ?_
      cases kept
      rcases reserved with err | _ | _
      · exact unchanged
      · dsimp only
        split
        · exact unchanged
        · rw [Program.ensures_bind]
          refine userByEmail_leaves.weaken fun found later kept => ?_
          cases kept
          rcases found with err | _ | owner
          · exact unchanged
          · exact unchanged
          · exact inserts _ owner.id given domain rfl accepted
      · exact unchanged

end Reads

/-- The write leaves users and identities alone. -/
def OnDomains : RegistryWrite → Prop
  | .deleteUser _ | .storeBootstrap .. | .insertIdentityKey _ | .revokeIdentity .. | .deleteIdentity ..
  | .setDefaultIdentity .. => False
  | _ => True

theorem onDomains_of_keyWrite {site : DomainSite} {domain : GoString} {effect : RegistryWrite}
    (keyWrite : KeyWrite site domain effect) : OnDomains effect := by
  cases effect <;> first | exact trivial | exact keyWrite.elim

theorem insertDomain_only {site : DomainSite} {label domain : GoString} {userID : Nat} {drawn : Drawn} :
    (insertDomain site label userID domain drawn).Only (Writes OnDomains) := by
  have inserts (host value : GoString) :
      (insertOwnedDomain site.lib userID domain host value).Only (Writes OnDomains) := by
    unfold insertOwnedDomain
    split
    · exact trivial
    · exact ⟨trivial, fun _ => trivial⟩
  refine (inserts _ _).bind fun err => ?_
  match err with
  | some .duplicateKey => exact trivial
  | some .notFound => exact trivial
  | some (.failed err) => exact trivial
  | none =>
    refine (ensureCustomDomainDKIM_only fun _ => onDomains_of_keyWrite).bind fun err => ?_
    cases err with
    | none => exact trivial
    | some err => exact Program.Only.bind ⟨trivial, fun _ => trivial⟩ fun _ => trivial

theorem isDeletedAddressReserved_only {site : Site} {address : GoString} {may : RegistryWrite → Prop} :
    (isDeletedAddressReserved site address).Only (Writes may) := by
  unfold isDeletedAddressReserved
  dsimp only
  split
  · exact trivial
  · exact ⟨trivial, fun _ => trivial⟩

theorem DomainRequest.handle_only {site : DomainSite} (request : DomainRequest) :
    (request.handle site).Only (Writes OnDomains) := by
  have named {name : GoString} {next : GoString → Registering (Option Refusal)}
      (onward : ∀ domain, (next domain).Only (Writes OnDomains)) :
      (onNamed site name next).Only (Writes OnDomains) := by
    unfold onNamed
    split
    · exact trivial
    · exact onward _
  have adminNamed {name : GoString} {next : GoString → Registering (Option Refusal)}
      (onward : ∀ name, (next name).Only (Writes OnDomains)) :
      (onAdminNamed site name next).Only (Writes OnDomains) := by
    unfold onAdminNamed
    dsimp only
    split
    · exact trivial
    · exact onward _
  have keys {domain : GoString} : ∀ effect, KeyWrite site domain effect → OnDomains effect :=
    fun _ => onDomains_of_keyWrite
  cases request with
  | add userID body drawn =>
    refine Program.Only.bind ?_ fun _ => trivial
    unfold apiCustomDomainsAdd
    split
    · exact trivial
    split
    · exact trivial
    refine isDeletedAddressReserved_only.bind fun reserved => ?_
    match reserved with
    | .error err => exact trivial
    | .ok true => exact trivial
    | .ok false => exact insertDomain_only
  | delete userID name => exact named fun _ => deleteOwnedDomainFiles_only keys trivial
  | verify userID name key checks => exact named fun _ => apiCustomDomainsVerify_only keys trivial
  | catchall userID name body => exact named fun _ => apiCustomDomainsCatchall_only fun _ _ => trivial
  | adminAdd body drawn =>
    refine Program.Only.bind ?_ fun _ => trivial
    unfold apiAdminDomainsAdd
    split
    · exact trivial
    split
    · exact trivial
    refine isDeletedAddressReserved_only.bind fun reserved => ?_
    match reserved with
    | .error err => exact trivial
    | .ok true => exact trivial
    | .ok false =>
      dsimp only
      split
      · exact trivial
      · refine ⟨trivial, fun found => ?_⟩
        match found with
        | .error err => exact trivial
        | .ok none => exact trivial
        | .ok (some owner) => exact insertDomain_only
  | adminDelete name =>
    exact adminNamed fun _ => withAdminDomain_only fun _ => deleteOwnedDomainFiles_only keys trivial
  | adminVerify name key checks =>
    show (onAdminNamed site name fun name => apiAdminDomainsVerify site name key checks).Only _
    exact adminNamed fun _ => withAdminDomain_only fun _ => verifyFound_only keys trivial
  | adminSharing name body =>
    exact adminNamed fun _ =>
      apiAdminDomainsPatchSharing_only (fun _ _ => trivial) fun _ _ => trivial

/-- A request about domains changes no identity and no user. -/
theorem DomainRequest.handle_keeps {site : DomainSite} {registry : Registry} (request : DomainRequest) :
    Leaves site.toSite (request.handle site) registry fun _ later =>
      later.identities = registry.identities ∧ later.users = registry.users ∧
        later.drawn = registry.drawn := by
  refine request.handle_only.ensures (fun later : Registry => later.identities = registry.identities ∧
    later.users = registry.users ∧ later.drawn = registry.drawn) (Writes.kept ?_) ⟨rfl, rfl, rfl⟩
  intro effect now later onDomains _ same
  cases effect with
  | insertOwnedDomain row =>
    rw [← same.1, ← same.2.1, ← same.2.2]
    show (later.withDomain row).identities = _ ∧ (later.withDomain row).users = _ ∧
      (later.withDomain row).drawn = _
    unfold Registry.withDomain
    split <;> exact ⟨rfl, rfl, rfl⟩
  | deleteUser | storeBootstrap | insertIdentityKey | revokeIdentity | deleteIdentity
  | setDefaultIdentity => exact onDomains.elim
  | _ => exact same

end ElvishMail.Httpserver
