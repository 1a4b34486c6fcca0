import ElvishMail.Mailmeta.Identities

/-!
# Who sees the profile of an identity

`internal/mailmeta/visibility.go`: once a user has sent mail from an identity to another
user of the server, the other sees its avatar, and once mail has gone both ways, its
status badge. The table `identity_profile_visibility` has one row for each viewer and
fingerprint, and says to whose identity it was that the viewer was exposed last.

The lookup goes by viewer and fingerprint and does not ask whose identity it was. Keys are
uploaded, and a fingerprint is unique only among the identities of one user. As long as no
two identities share a fingerprint, a profile is seen by whom it was sent to, and a badge
where mail went both ways: `profile_sent`. A user who uploads the key of somebody else
shows the other's profile around: `profile_leaked`.
-/

namespace ElvishMail.Mailmeta

open Go Smtp Semantics

/-- A row of `identity_profile_visibility`. -/
structure VisibilityRow where
  viewerUserID : Nat
  remoteUserID : Nat
  remoteIdentityFingerprint : GoString
  avatarVisible : Bool
  statusVisible : Bool
  firstSharedAt : Time
  statusVisibleAt : Option Time
  updatedAt : Time
deriving DecidableEq

/-- `PRIMARY KEY (viewer_user_id, remote_identity_fingerprint)`. -/
def VisibilityRow.key (row : VisibilityRow) : Nat × GoString :=
  (row.viewerUserID, row.remoteIdentityFingerprint)

/-- A fingerprint as the table has it. It is not computed while a program is looked at. -/
@[irreducible]
def normalFingerprint (lib : Library) (fingerprint : GoString) : GoString :=
  toUpper lib (trimSpace fingerprint)

/-- The first write of `AdvanceIdentityVisibilityOnLocalSend`. -/
def shareAvatar (viewer remote : Nat) (fingerprint : GoString) (sentAt : Time) (rows : List VisibilityRow) :
    List VisibilityRow :=
  Rows.upsert VisibilityRow.key
    (match Rows.find VisibilityRow.key (viewer, fingerprint) rows with
      | some row =>
        { row with
          remoteUserID := remote
          avatarVisible := true
          firstSharedAt := min row.firstSharedAt sentAt
          updatedAt := sentAt }
      | none =>
        { viewerUserID := viewer
          remoteUserID := remote
          remoteIdentityFingerprint := fingerprint
          avatarVisible := true
          statusVisible := false
          firstSharedAt := sentAt
          statusVisibleAt := none
          updatedAt := sentAt })
    rows

def showStatus (viewer : Nat) (fingerprint : GoString) (sentAt : Time) (rows : List VisibilityRow) :
    List VisibilityRow :=
  rows.map fun row =>
    if row.key = (viewer, fingerprint) then
      { row with
        statusVisible := true
        statusVisibleAt := some (row.statusVisibleAt.getD sentAt)
        updatedAt := sentAt }
    else row

/-- The transaction as a whole: a badge is shown on both sides if the sender has been exposed
to the recipient's identity. -/
def exposed (sender recipient : Nat × GoString) (sentAt : Time) (rows : List VisibilityRow) :
    List VisibilityRow :=
  let shared := shareAvatar recipient.1 sender.1 sender.2 sentAt rows
  if (Rows.find VisibilityRow.key (sender.1, recipient.2) shared).any VisibilityRow.avatarVisible then
    showStatus sender.1 recipient.2 sentAt (showStatus recipient.1 sender.2 sentAt shared)
  else shared

/-- The tables, and for the record whose identity has sent mail to which other. -/
structure Exposure where
  registry : Registry
  rows : List VisibilityRow
  sent : List (IdentityRow × IdentityRow)

section Statements

variable (lib : Library)

/-- `AdvanceIdentityVisibilityOnLocalSend`. No user has the id 0. -/
def advanceIdentityVisibilityOnLocalSend (sender recipient : IdentityRow) (sentAt : Time) (moment : Moment)
    (system : Exposure) : Option GoError × Exposure :=
  if sender.userID = 0 ∨ recipient.userID = 0 then
    (some (.plain (ascii "mailmeta: user ids required")), system)
  else
    let senderFP := normalFingerprint lib sender.fingerprint
    let recipientFP := normalFingerprint lib recipient.fingerprint
    if senderFP = [] ∨ recipientFP = [] then
      (some (.plain (ascii "mailmeta: fingerprints required")), system)
    else if sender.userID = recipient.userID then (none, system)
    else
      let sentAt := if sentAt = zeroTime then moment.now else sentAt
      moment.outcome.exec
        (fun system =>
          { system with
            rows := exposed (sender.userID, senderFP) (recipient.userID, recipientFP) sentAt system.rows })
        system

structure VisibleIdentityProfile where
  userID : Nat
  email : GoString
  fingerprint : GoString
  primaryUID : GoString
  avatarDataURL : GoString
  avatarColor : GoString
  statusBadgeEnabled : Bool
  statusBadgeVisible : Bool
deriving DecidableEq

def profileOf (remote : IdentityRow) (statusBadgeVisible : Bool) : VisibleIdentityProfile where
  userID := remote.userID
  email := remote.email
  fingerprint := remote.fingerprint
  primaryUID := remote.primaryUID
  avatarDataURL := remote.avatarDataURL
  avatarColor := normalizeIdentityAvatarColor lib remote.avatarColor remote.email
  statusBadgeEnabled := remote.statusBadgeEnabled
  statusBadgeVisible

/-- `LookupVisibleIdentityProfile` where no query fails; one that fails shows nothing. -/
def lookupVisibleIdentityProfile (system : Exposure) (viewerUserID : Nat) (email : GoString) :
    Except LookupError VisibleIdentityProfile :=
  match system.registry.identityForEmail lib email with
  | none => .error .notFound
  | some remote =>
    if remote.userID = viewerUserID then .ok (profileOf lib remote remote.statusBadgeEnabled)
    else
      match Rows.find VisibilityRow.key (viewerUserID, normalFingerprint lib remote.fingerprint)
          system.rows with
      | none => .error .notFound
      | some row =>
        if row.avatarVisible = false then .error .notFound
        else .ok (profileOf lib remote (row.statusVisible && remote.statusBadgeEnabled))

/-- What happens to the tables: users and identities are created, and users send mail from one
identity to another. -/
inductive ExposureAction where
  | createUser (email : GoString)
  | insertIdentityKey (row : IdentityRow)
  | storeBootstrap (userID : Nat) (rows : List IdentityRow)
  | send (sender recipient : IdentityRow) (sentAt : Time)

def ExposureAction.create (lib : Library) : ExposureAction → Registering Unit
  | createUser email => .ask (.createUserWithSRP email) fun _ => .done ()
  | insertIdentityKey row => do
      let _ ← Mailmeta.insertIdentityKey lib row
      return ()
  | storeBootstrap userID rows => .ask (.write (.storeBootstrap userID rows)) fun _ => .done ()
  | send .. => .done ()

/-- Identities are created by anybody with any key. Mail is sent between identities that are in
the table. -/
def exposure : Machine Exposure (ExposureAction × Moment) where
  step system action :=
    match action.1 with
    | .send sender recipient sentAt =>
      if sender ∈ system.registry.identities ∧ recipient ∈ system.registry.identities then
        let next := (advanceIdentityVisibilityOnLocalSend lib sender recipient sentAt action.2 system).2
        some { next with sent := next.sent ++ [(sender, recipient)] }
      else none
    | creation =>
      some { system with
        registry := ((creation.create lib).run (RegistryStatement.answer lib) (fun _ => action.2)
          system.registry).2 }

end Statements

def ExposureAction.created : ExposureAction → List IdentityRow
  | insertIdentityKey row => [row]
  | storeBootstrap _ rows => rows
  | _ => []

/-- No identity that is created has the fingerprint of another one. -/
def Unshared (lib : Library) (system : Exposure) (action : ExposureAction × Moment) : Prop :=
  ∀ row ∈ action.1.created, ∀ other ∈ system.registry.identities ++ action.1.created,
    normalFingerprint lib other.fingerprint = normalFingerprint lib row.fingerprint →
      other.print = row.print

instance (lib : Library) (system : Exposure) (action : ExposureAction × Moment) :
    Decidable (Unshared lib system action) :=
  inferInstanceAs (Decidable (∀ row ∈ action.1.created, _))

section Created

variable {lib : Library} {registry : Registry}

theorem mem_withAccount_of_mem {now : Time} {userID : Nat} {rows : List IdentityRow} {row : IdentityRow}
    (member : row ∈ registry.identities) :
    row ∈ (registry.withAccount now userID rows).identities := by
  unfold Registry.withAccount
  generalize before : ({ registry with accountKeys := registry.accountKeys ++ [userID] } : Registry) =
    keyed
  have kept : row ∈ keyed.identities := by
    rw [← before]
    exact member
  clear before
  induction rows generalizing keyed with
  | nil => exact kept
  | cons first rest ih =>
    exact ih _ (List.mem_append_left _ kept)

theorem create_identities (action : ExposureAction) (moment : Moment) :
    (∀ row ∈ registry.identities, row ∈ ((action.create lib).run (RegistryStatement.answer lib)
      (fun _ => moment) registry).2.identities) ∧
    ∀ stored ∈ ((action.create lib).run (RegistryStatement.answer lib) (fun _ => moment)
      registry).2.identities,
      stored ∈ registry.identities ∨ ∃ row ∈ action.created, row.Stores stored := by
  cases action with
  | createUser email =>
    have same : (RegistryStatement.answer lib moment (.createUserWithSRP email) registry).2.identities =
        registry.identities := by
      rcases RegistryStatement.createUserWithSRP_cases lib moment registry email with
        ⟨err, next, answered, rfl | rfl⟩ | answered
      · rw [answered]
      · rw [answered]
        rfl
      · rw [answered]
        rfl
    exact ⟨fun row member => same ▸ member, fun stored member => .inl (same ▸ member)⟩
  | insertIdentityKey row =>
    generalize stores : ({ row with
        avatarDataURL := trimSpace row.avatarDataURL
        avatarColor := normalizeIdentityAvatarColor lib row.avatarColor row.email } : IdentityRow) = given
    have alike : row.Stores given := by
      rw [← stores]
      exact ⟨rfl, rfl, rfl, rfl⟩
    have ran : ((ExposureAction.insertIdentityKey row).create lib).run (RegistryStatement.answer lib)
        (fun _ => moment) registry =
          ((), ((RegistryWrite.insertIdentityKey given).attempt moment registry).2) := by
      rw [← stores]
      rfl
    rw [ran]
    rcases (RegistryWrite.insertIdentityKey given).attempt_cases moment registry with same | ⟨-, done⟩
    · dsimp only
      rw [same]
      exact ⟨fun row member => member, fun stored member => .inl member⟩
    · dsimp only
      rw [done]
      refine ⟨fun row member => List.mem_append_left _ member, fun stored member => ?_⟩
      refine (Registry.mem_withIdentity member).imp_right fun new => ⟨row, List.mem_cons_self, ?_⟩
      exact ⟨new.userID.trans alike.userID, new.email.trans alike.email,
        new.fingerprint.trans alike.fingerprint, new.isActive.trans alike.isActive⟩
  | storeBootstrap userID rows =>
    have ran : ((ExposureAction.storeBootstrap userID rows).create lib).run
        (RegistryStatement.answer lib) (fun _ => moment) registry =
          ((), ((RegistryWrite.storeBootstrap userID rows).attempt moment registry).2) := rfl
    rw [ran]
    rcases (RegistryWrite.storeBootstrap userID rows).attempt_cases moment registry with same | ⟨-, done⟩
    · dsimp only
      rw [same]
      exact ⟨fun row member => member, fun stored member => .inl member⟩
    · dsimp only
      rw [done]
      exact ⟨fun row member => mem_withAccount_of_mem member,
        fun stored member => Registry.mem_withAccount member⟩
  | send sender recipient sentAt => exact ⟨fun row member => member, fun stored member => .inl member⟩

end Created

/-- A row stands for mail: from an identity with its fingerprint to its viewer, and if it shows
a badge, from the viewer to the user of that identity as well. -/
def Accounted (lib : Library) (sent : List (IdentityRow × IdentityRow)) (row : VisibilityRow) : Prop :=
  ∃ mail ∈ sent, mail.2.userID = row.viewerUserID ∧
    normalFingerprint lib mail.1.fingerprint = row.remoteIdentityFingerprint ∧
    (row.statusVisible = true →
      ∃ back ∈ sent, back.1.userID = row.viewerUserID ∧ back.2.userID = mail.1.userID)

/-- Every row stands for mail between identities of the table, no two of which share a
fingerprint. -/
structure Exposure.Sound (lib : Library) (system : Exposure) : Prop where
  present : ∀ mail ∈ system.sent, mail.1 ∈ system.registry.identities
  apart : ∀ row ∈ system.registry.identities, ∀ other ∈ system.registry.identities,
    normalFingerprint lib row.fingerprint = normalFingerprint lib other.fingerprint →
      row.print = other.print
  accounted : ∀ row ∈ system.rows, Accounted lib system.sent row

section Rows

variable {lib : Library} {sent : List (IdentityRow × IdentityRow)} {rows : List VisibilityRow}
  {sender recipient : IdentityRow} {sentAt : Time}

theorem Accounted.mono {row : VisibilityRow} {more : List (IdentityRow × IdentityRow)}
    (accounted : Accounted lib sent row) : Accounted lib (sent ++ more) row := by
  obtain ⟨mail, member, viewer, print, status⟩ := accounted
  refine ⟨mail, List.mem_append_left _ member, viewer, print, fun shown => ?_⟩
  obtain ⟨back, backMember, returns, meets⟩ := status shown
  exact ⟨back, List.mem_append_left _ backMember, returns, meets⟩

theorem accounted_shareAvatar (accounted : ∀ row ∈ rows, Accounted lib sent row)
    (alike : ∀ mail ∈ sent, normalFingerprint lib mail.1.fingerprint =
      normalFingerprint lib sender.fingerprint → mail.1.userID = sender.userID) :
    ∀ row ∈ shareAvatar recipient.userID sender.userID (normalFingerprint lib sender.fingerprint) sentAt
      rows, Accounted lib (sent ++ [(sender, recipient)]) row := by
  intro row member
  have latest : (sender, recipient) ∈ sent ++ [(sender, recipient)] :=
    List.mem_append_right _ (List.mem_singleton.mpr rfl)
  rcases Rows.mem_upsert member with old | rfl
  · exact (accounted row old).mono
  · split
    next row found =>
      obtain ⟨rowMember, key⟩ := Rows.mem_of_find found
      have names : row.viewerUserID = recipient.userID ∧
          row.remoteIdentityFingerprint = normalFingerprint lib sender.fingerprint := by
        simpa [VisibilityRow.key] using key
      refine ⟨(sender, recipient), latest, names.1.symm, names.2.symm, fun shown => ?_⟩
      obtain ⟨mail, mailMember, -, print, status⟩ := accounted row rowMember
      obtain ⟨back, backMember, returns, meets⟩ := status shown
      exact ⟨back, List.mem_append_left _ backMember, returns,
        meets.trans (alike mail mailMember (print.trans names.2))⟩
    · exact ⟨(sender, recipient), latest, rfl, rfl, nofun⟩

theorem accounted_showStatus (accounted : ∀ row ∈ rows, Accounted lib sent row) {viewer : Nat}
    {fingerprint : GoString} {mail back : IdentityRow × IdentityRow} (mailMember : mail ∈ sent)
    (backMember : back ∈ sent) (reaches : mail.2.userID = viewer)
    (print : normalFingerprint lib mail.1.fingerprint = fingerprint) (returns : back.1.userID = viewer)
    (meets : back.2.userID = mail.1.userID) :
    ∀ row ∈ showStatus viewer fingerprint sentAt rows, Accounted lib sent row := by
  intro row member
  obtain ⟨old, oldMember, rfl⟩ := List.mem_map.mp member
  split
  next key =>
    have names : old.viewerUserID = viewer ∧ old.remoteIdentityFingerprint = fingerprint := by
      simpa [VisibilityRow.key] using key
    exact ⟨mail, mailMember, reaches.trans names.1.symm, print.trans names.2.symm,
      fun _ => ⟨back, backMember, returns.trans names.1.symm, meets⟩⟩
  · exact accounted old oldMember

end Rows

section Steps

variable {lib : Library} {system next : Exposure}

theorem Exposure.Sound.create (sound : system.Sound lib) {action : ExposureAction} {moment : Moment}
    (unshared : Unshared lib system (action, moment)) :
    Exposure.Sound lib { system with
      registry := ((action.create lib).run (RegistryStatement.answer lib) (fun _ => moment)
        system.registry).2 } := by
  obtain ⟨kept, origin⟩ := @create_identities lib system.registry action moment
  refine ⟨fun mail member => kept _ (sound.present mail member), ?_, sound.accounted⟩
  intro row member other otherMember same
  rcases origin row member with old | ⟨given, givenMember, stores⟩
  · rcases origin other otherMember with otherOld | ⟨otherGiven, otherGivenMember, otherStores⟩
    · exact sound.apart row old other otherOld same
    · rw [otherStores.fingerprint] at same
      rw [unshared otherGiven otherGivenMember row (List.mem_append_left _ old) same,
        IdentityRow.print, IdentityRow.print, otherStores.userID, otherStores.fingerprint]
  · rw [stores.fingerprint] at same
    rcases origin other otherMember with otherOld | ⟨otherGiven, otherGivenMember, otherStores⟩
    · rw [unshared given givenMember other (List.mem_append_left _ otherOld) same.symm,
        IdentityRow.print, IdentityRow.print, stores.userID, stores.fingerprint]
    · rw [otherStores.fingerprint] at same
      have alike := unshared given givenMember otherGiven (List.mem_append_right _ otherGivenMember)
        same.symm
      rw [IdentityRow.print, IdentityRow.print, stores.userID, stores.fingerprint, otherStores.userID,
        otherStores.fingerprint]
      exact alike.symm

theorem accounted_exposed (sound : system.Sound lib) {sender recipient : IdentityRow} {sentAt : Time}
    (sends : sender ∈ system.registry.identities) (receives : recipient ∈ system.registry.identities) :
    ∀ row ∈ exposed (sender.userID, normalFingerprint lib sender.fingerprint)
      (recipient.userID, normalFingerprint lib recipient.fingerprint) sentAt system.rows,
      Accounted lib (system.sent ++ [(sender, recipient)]) row := by
  have latest : (sender, recipient) ∈ system.sent ++ [(sender, recipient)] :=
    List.mem_append_right _ (List.mem_singleton.mpr rfl)
  have sameUser {mail : IdentityRow × IdentityRow} {other : IdentityRow} (member : mail ∈ system.sent)
      (otherMember : other ∈ system.registry.identities)
      (same : normalFingerprint lib mail.1.fingerprint = normalFingerprint lib other.fingerprint) :
      mail.1.userID = other.userID :=
    congrArg Prod.fst (sound.apart _ (sound.present mail member) _ otherMember same)
  have shared := @accounted_shareAvatar lib system.sent system.rows sender recipient sentAt
    sound.accounted fun mail member same => sameUser member sends same
  unfold exposed
  dsimp only
  split
  next answered =>
    obtain ⟨row, found, -⟩ := (Option.any_eq_true ..).mp answered
    obtain ⟨rowMember, key⟩ := Rows.mem_of_find found
    have names : row.viewerUserID = sender.userID ∧
        row.remoteIdentityFingerprint = normalFingerprint lib recipient.fingerprint := by
      simpa [VisibilityRow.key] using key
    -- the recipient has sent mail to the sender before
    obtain ⟨mail, mailMember, reaches, print, -⟩ := shared row rowMember
    have back : mail.1.userID = recipient.userID := by
      rcases List.mem_append.mp mailMember with old | new
      · exact sameUser old receives (print.trans names.2)
      · rw [List.mem_singleton.mp new] at print ⊢
        exact congrArg Prod.fst (sound.apart _ sends _ receives (print.trans names.2))
    refine accounted_showStatus (accounted_showStatus shared latest mailMember rfl rfl back ?_)
      mailMember latest (reaches.trans names.1) (print.trans names.2) rfl back.symm
    exact reaches.trans names.1
  · exact shared

theorem Exposure.Sound.send (sound : system.Sound lib) {sender recipient : IdentityRow} {sentAt : Time}
    {moment : Moment} (sends : sender ∈ system.registry.identities)
    (receives : recipient ∈ system.registry.identities) :
    let next := (advanceIdentityVisibilityOnLocalSend lib sender recipient sentAt moment system).2
    Exposure.Sound lib { next with sent := next.sent ++ [(sender, recipient)] } := by
  have recorded : Exposure.Sound lib { system with sent := system.sent ++ [(sender, recipient)] } := by
    refine ⟨fun mail member => ?_, sound.apart, fun row member => (sound.accounted row member).mono⟩
    rcases List.mem_append.mp member with old | new
    · exact sound.present mail old
    · rw [List.mem_singleton.mp new]
      exact sends
  unfold advanceIdentityVisibilityOnLocalSend
  dsimp only
  split
  · exact recorded
  · split
    · exact recorded
    · split
      · exact recorded
      · unfold Outcome.exec
        dsimp only
        split
        · exact ⟨recorded.present, recorded.apart, accounted_exposed sound sends receives⟩
        · exact recorded

theorem sound_run {start final : Exposure} (sound : start.Sound lib)
    (runs : (exposure lib).Runs (Unshared lib) start final) : final.Sound lib := by
  refine Machine.Runs.invariant (Exposure.Sound lib) sound ?_ runs
  rintro state ⟨action, moment⟩ later holds unshared taken
  cases action with
  | send sender recipient sentAt =>
    dsimp only [exposure] at taken
    split at taken
    next within =>
      cases taken
      exact holds.send within.1 within.2
    · cases taken
  | createUser email =>
    cases taken
    exact holds.create unshared
  | insertIdentityKey row =>
    cases taken
    exact holds.create unshared
  | storeBootstrap userID rows =>
    cases taken
    exact holds.create unshared

end Steps

/-- In every state reached, a profile is seen by another user only if its identity has sent mail
to one of the viewer's, and its badge only if one of the viewer's has sent mail to its user. -/
theorem profile_sent {lib : Library} {start final : Exposure} (sound : start.Sound lib)
    (runs : (exposure lib).Runs (Unshared lib) start final) {viewer : Nat} {email : GoString}
    {profile : VisibleIdentityProfile}
    (seen : lookupVisibleIdentityProfile lib final viewer email = .ok profile)
    (other : profile.userID ≠ viewer) :
    (∃ mail ∈ final.sent, mail.1.print = (profile.userID, profile.fingerprint) ∧
      mail.2.userID = viewer) ∧
    (profile.statusBadgeVisible = true →
      ∃ back ∈ final.sent, back.1.userID = viewer ∧ back.2.userID = profile.userID) := by
  have reached := sound_run sound runs
  unfold lookupVisibleIdentityProfile at seen
  split at seen
  · cases seen
  next remote found =>
    split at seen
    next own =>
      cases seen
      exact absurd own other
    · split at seen
      · cases seen
      next row here =>
        split at seen
        · cases seen
        · cases seen
          obtain ⟨rowMember, key⟩ := Rows.mem_of_find here
          have names : row.viewerUserID = viewer ∧ row.remoteIdentityFingerprint =
              normalFingerprint lib remote.fingerprint := by
            simpa [VisibilityRow.key] using key
          obtain ⟨mail, member, reaches, print, status⟩ := reached.accounted row rowMember
          have owner : mail.1.print = remote.print :=
            reached.apart _ (reached.present mail member) _
              (Registry.identityForEmail_active lib found).1 (print.trans names.2)
          refine ⟨⟨mail, member, owner, reaches.trans names.1⟩, fun shown => ?_⟩
          obtain ⟨back, backMember, returns, meets⟩ := status (Bool.and_eq_true .. |>.mp shown).1
          exact ⟨back, backMember, returns.trans names.1,
            meets.trans (congrArg Prod.fst owner)⟩

def sampleIdentity (id userID : Nat) (email fingerprint : String) : IdentityRow where
  id
  userID
  email := ascii email
  fingerprint := ascii fingerprint
  armoredPublic := ascii fingerprint
  primaryUID := []
  isDefault := true
  isActive := true
  createdAt := 1
  avatarColor := ascii "red"
  statusBadgeEnabled := true

/-- Alice, Bob and Carol have an identity each, Bob's with one key or another. Then Bob and Carol
send mail to each other. -/
def correspondence (key : String) : Exposure :=
  (exposure .plain).after
    ([.createUser (ascii "alice"), .createUser (ascii "bob"), .createUser (ascii "carol"),
      .insertIdentityKey (sampleIdentity 0 1 "alice@elvish.local" "A1"),
      .insertIdentityKey (sampleIdentity 0 2 "bob@elvish.local" key),
      .insertIdentityKey (sampleIdentity 0 3 "carol@elvish.local" "C1"),
      .send (sampleIdentity 5 2 "bob@elvish.local" key) (sampleIdentity 6 3 "carol@elvish.local" "C1") 1,
      .send (sampleIdentity 6 3 "carol@elvish.local" "C1") (sampleIdentity 5 2 "bob@elvish.local" key)
        2].map fun action => (action, ⟨.done, 1, false⟩))
    ⟨.empty, [], []⟩

theorem profile_sent_both_ways :
    ∃ profile, lookupVisibleIdentityProfile .plain (correspondence "B1") 3 (ascii "bob@elvish.local") =
        .ok profile ∧ profile.statusBadgeVisible = true ∧
      (∃ mail ∈ (correspondence "B1").sent, mail.1.print = (profile.userID, profile.fingerprint) ∧
        mail.2.userID = 3) ∧
      ∃ back ∈ (correspondence "B1").sent, back.1.userID = 3 ∧ back.2.userID = profile.userID := by
  have seen : (lookupVisibleIdentityProfile .plain (correspondence "B1") 3
      (ascii "bob@elvish.local")).toOption.map (fun profile => (profile.userID,
        profile.statusBadgeVisible)) = some (2, true) := by decide +kernel
  cases answer : lookupVisibleIdentityProfile .plain (correspondence "B1") 3
      (ascii "bob@elvish.local") with
  | error err =>
    rw [answer] at seen
    cases seen
  | ok profile =>
    rw [answer] at seen
    have shown : profile.userID = 2 ∧ profile.statusBadgeVisible = true := by
      simpa [Except.toOption] using seen
    have start : Exposure.Sound .plain ⟨.empty, [], []⟩ :=
      ⟨fun _ member => absurd member List.not_mem_nil, fun _ member => absurd member List.not_mem_nil,
        fun _ member => absurd member List.not_mem_nil⟩
    obtain ⟨sent, badge⟩ := @profile_sent .plain _ (correspondence "B1") start
      (Machine.after_runs _ (by decide +kernel)) 3 (ascii "bob@elvish.local") profile answer
      (by rw [shown.1]; decide)
    exact ⟨profile, rfl, shown.2, sent, badge shown.2⟩

/-- Bob uses Alice's key: Carol sees Alice's profile and her badge, though Alice has sent no mail
and got none. -/
theorem profile_leaked :
    (exposure .plain).Runs (fun _ _ => True) ⟨.empty, [], []⟩ (correspondence "A1") ∧
      ((lookupVisibleIdentityProfile .plain (correspondence "A1") 3
        (ascii "alice@elvish.local")).toOption.map fun profile =>
          (profile.userID, profile.statusBadgeVisible)) = some (1, true) ∧
      ∀ mail ∈ (correspondence "A1").sent, mail.1.userID ≠ 1 ∧ mail.2.userID ≠ 1 := by
  refine ⟨Machine.after_runs _ (Machine.permits_of_forall (fun _ _ => trivial) _ _), ?_, ?_⟩
  · decide +kernel
  · decide +kernel

end ElvishMail.Mailmeta
