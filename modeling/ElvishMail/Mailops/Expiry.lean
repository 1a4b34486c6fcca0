import ElvishMail.Mailops.Sweeping

/-!
# What a sweep deletes

A sweep reads which messages are expired once, and deletes them later without a second
look. A message that a user moves out of the trash in between, or whose folder gets a
longer retention, is deleted all the same.

As long as every message that a sweep has selected and not deleted yet stays expired, a
sweep touches nothing of a message that is not.
-/

namespace ElvishMail.Mailops

open Go Smtp Mailmeta Mailstore Mailpipe Semantics

/-- A lifecycle row has been in its folder for as long as a positive retention says. -/
def Due (tables : Tables) (now : Time) (lc : MessageLifecycle) : Prop :=
  ∃ setting days, retentionOf tables lc.userID lc.currentFolder = some setting ∧
    setting.retentionDays = some days ∧ 0 < days ∧ lc.folderEnteredAt + days * day ≤ now

/-- A message is in a folder with a positive retention whose window has elapsed. -/
def Expired (tables : Tables) (now : Time) (userID messageID : Nat) : Prop :=
  ∃ lc, lifecycleOf tables userID messageID = some lc ∧ Due tables now lc

/-- A message of a user, with its body. A manifest without a user is none: a move leaves
one if it updates a manifest that is gone. -/
def Owns (tables : Tables) (userID messageID : Nat) (bodyBlobRef : GoString) : Prop :=
  ∃ row, manifestOf tables messageID = some row ∧ row.userID = userID ∧ userID ≠ 0 ∧
    row.bodyBlobRef = bodyBlobRef

structure Spared (before after : Tables) (userID messageID : Nat) (bodyBlobRef : GoString) :
    Prop where
  manifest : manifestOf after messageID = manifestOf before messageID
  listed : listing after messageID = listing before messageID
  flags : flagsOf after userID messageID = flagsOf before userID messageID
  optIn : optInOf after userID messageID = optInOf before userID messageID
  lifecycle : lifecycleOf after userID messageID = lifecycleOf before userID messageID
  blob : blobOf after bodyBlobRef = blobOf before bodyBlobRef

theorem Spared.refl {tables : Tables} {userID messageID : Nat} {bodyBlobRef : GoString} :
    Spared tables tables userID messageID bodyBlobRef := ⟨rfl, rfl, rfl, rfl, rfl, rfl⟩

/-- The primary key of `mail_message_lifecycle`. -/
def lifecycleKey (row : MessageLifecycle) : Nat × Nat := (row.userID, row.messageID)

/-- What the schema and the keys of the bodies promise: lifecycle rows have a primary key,
and the body of a message has a key that no other manifest names. -/
structure Sound (tables : Tables) : Prop where
  keyed : Rows.Keyed lifecycleKey tables.lifecycle
  bodies : ∀ {userID messageID bodyBlobRef}, Owns tables userID messageID bodyBlobRef →
    bodyBlobRef ≠ [] ∧ ∀ other row, manifestOf tables other = some row →
      row.bodyBlobRef = bodyBlobRef → other = messageID

namespace MailServer

variable (server : MailServer)

/-- A sweep has selected a message that still exists, and not deleted it yet. -/
def Awaits (userID messageID : Nat) : Prop :=
  (∃ bodyBlobRef, Owns server.stores.tables userID messageID bodyBlobRef) ∧
    ∃ index thread marks, server.threads index = some thread ∧ thread.marks = some marks ∧
      (userID, messageID) ∈ marks.selected

/-- A statement that takes effect leaves expired what a sweep is about to delete. -/
def Harmless : Query → Prop
  -- A move files the message in a folder where it is expired too.
  | .mail (.write (.upsertMessageLifecycle row)) =>
    server.Awaits row.userID row.messageID → Due server.stores.tables server.now row
  -- New settings leave the message expired where it is.
  | .commitTx rows =>
    ∀ userID messageID lc, server.Awaits userID messageID →
      lifecycleOf server.stores.tables userID messageID = some lc →
        Due (setRetention rows server.stores).tables server.now lc
  | _ => True

def asks (index : Nat) : Option Query :=
  (server.threads index).bind fun thread => thread.program.query?

def returned (index : Nat) : Option MailResult :=
  (server.threads index).bind fun thread =>
    match thread.program with
    | .done value => some value
    | .ask _ _ => none

/-- No message that a sweep has selected is moved to where it is not expired, or spared
by new settings, until the sweep has deleted it. -/
def Undisturbed : MailEvent → Prop
  | .tick _ | .begin _ _ => True
  | .advance index outcome =>
    ∀ query ∈ server.asks index, outcome.applied = true → server.Harmless query

/-- The next statement of a sweep touches nothing of a message that is not expired. -/
def Spares (service : Service) : Prop :=
  ∀ index outcome thread next, server.threads index = some thread → thread.marks.isSome →
    server.step service (.advance index outcome) = some next →
      ∀ userID messageID bodyBlobRef, Owns server.stores.tables userID messageID bodyBlobRef →
        ¬Expired server.stores.tables server.now userID messageID →
          Spared server.stores.tables next.stores.tables userID messageID bodyBlobRef

end MailServer

/-- Manifests only go away; one without a user may appear. -/
def Descends (before after : Tables) : Prop :=
  ∀ messageID row, manifestOf after messageID = some row →
    (∃ old, manifestOf before messageID = some old ∧ old.userID = row.userID ∧
      old.bodyBlobRef = row.bodyBlobRef) ∨
    row.userID = 0 ∧ row.bodyBlobRef = []

section Tables

variable {before after : Tables} {stores : Stores} {now reached : Time} {outcome : Outcome GoError}
  {query : Query} {userID messageID : Nat} {bodyBlobRef : GoString}

theorem Descends.refl : Descends before before := fun _ row found => .inl ⟨row, found, rfl, rfl⟩

theorem Descends.owns (descends : Descends before after)
    (owns : Owns after userID messageID bodyBlobRef) :
    Owns before userID messageID bodyBlobRef := by
  obtain ⟨row, found, owner, someone, body⟩ := owns
  obtain ⟨old, kept, user, ref⟩ | ⟨nobody, -⟩ := descends messageID row found
  · exact ⟨old, kept, user.trans owner, someone, ref.trans body⟩
  · exact absurd (owner.symm.trans nobody) someone

theorem Descends.bodies (descends : Descends before after)
    (bodies : ∀ {userID messageID bodyBlobRef}, Owns before userID messageID bodyBlobRef →
      bodyBlobRef ≠ [] ∧ ∀ other row, manifestOf before other = some row →
        row.bodyBlobRef = bodyBlobRef → other = messageID)
    (owns : Owns after userID messageID bodyBlobRef) :
    bodyBlobRef ≠ [] ∧ ∀ other row, manifestOf after other = some row →
      row.bodyBlobRef = bodyBlobRef → other = messageID := by
  obtain ⟨named, alone⟩ := bodies (descends.owns owns)
  refine ⟨named, fun other row found body => ?_⟩
  obtain ⟨old, kept, -, ref⟩ | ⟨-, empty⟩ := descends other row found
  · exact alone other old kept (ref.trans body)
  · exact absurd (body.symm.trans empty) named

theorem apply_descends {write : Write} (kind : ∀ row, write ≠ .insertManifestRow row) :
    Descends stores.tables (stores.apply write).tables := by
  intro messageID row found
  cases write with
  | insertManifestRow added => exact absurd rfl (kind added)
  | deleteManifestRow id =>
    by_cases same : messageID = id
    · subst same
      cases (Rows.find_remove_self.symm.trans found : none = some row)
    · exact .inl ⟨row, (Rows.find_remove_of_ne same).symm.trans found, rfl, rfl⟩
  | updateManifestFolder id folder =>
    by_cases same : id = messageID
    · subst same
      cases kept : manifestOf stores.tables id with
      | none =>
        obtain rfl := Option.some.inj ((manifestOf_update_of_none kept).symm.trans found)
        exact .inr ⟨rfl, rfl⟩
      | some old =>
        obtain rfl : old.refiled folder = row :=
          Option.some.inj ((manifestOf_update kept).symm.trans found)
        exact .inl ⟨old, rfl, rfl, rfl⟩
    · exact .inl ⟨row, (manifestOf_update_of_ne same).symm.trans found, rfl, rfl⟩
  | _ => exact .inl ⟨row, found, rfl, rfl⟩

theorem answer_cases (now : Time) (outcome : Outcome GoError) (query : Query) (stores : Stores) :
    (query.answer now outcome stores).2 = stores ∨ outcome.applied = true ∧
      ((∃ write, query = .mail (.write write) ∧
        (query.answer now outcome stores).2 = stores.apply write) ∨
      ∃ rows, query = .commitTx rows ∧
        (query.answer now outcome stores).2 = setRetention rows stores) := by
  cases query with
  | mail statement =>
    cases statement with
    | write write =>
      cases effect : outcome.applied with
      | false => exact .inl (if_neg (by simp [effect]))
      | true => exact .inr ⟨rfl, .inl ⟨write, rfl, if_pos effect⟩⟩
    | _ => exact .inl rfl
  | commitTx rows =>
    cases effect : outcome.applied with
    | false => exact .inl (if_neg (by simp [effect]))
    | true => exact .inr ⟨rfl, .inr ⟨rows, rfl, if_pos effect⟩⟩
  | _ => exact .inl rfl

theorem answer_descends (kind : ∀ row, query ≠ .mail (.write (.insertManifestRow row))) :
    Descends stores.tables (query.answer now outcome stores).2.tables := by
  obtain same | ⟨-, ⟨write, rfl, effect⟩ | ⟨rows, rfl, effect⟩⟩ :=
    answer_cases now outcome query stores
  · rw [same]
    exact .refl
  · rw [effect]
    refine apply_descends fun row same => ?_
    exact kind row (congrArg (fun write => Query.mail (.write write)) same)
  · rw [effect]
    exact .refl

theorem apply_keyed {write : Write} (keyed : Rows.Keyed lifecycleKey stores.tables.lifecycle) :
    Rows.Keyed lifecycleKey (stores.apply write).tables.lifecycle := by
  cases write with
  | upsertMessageLifecycle row => exact keyed.upsert
  | deleteMessageLifecycle userID messageID => exact keyed.remove
  | _ => exact keyed

theorem answer_sound (kind : ∀ row, query ≠ .mail (.write (.insertManifestRow row)))
    (sound : Sound stores.tables) : Sound (query.answer now outcome stores).2.tables := by
  refine ⟨?_, (answer_descends kind).bodies sound.bodies⟩
  obtain same | ⟨-, ⟨write, rfl, effect⟩ | ⟨rows, rfl, effect⟩⟩ :=
    answer_cases now outcome query stores
  · rw [same]
    exact sound.keyed
  · rw [effect]
    exact apply_keyed sound.keyed
  · rw [effect]
    exact sound.keyed

theorem Due.later {lc : MessageLifecycle} (due : Due before now lc) (passes : now ≤ reached) :
    Due before reached lc := by
  obtain ⟨setting, days, found, set, positive, elapsed⟩ := due
  exact ⟨setting, days, found, set, positive, elapsed.trans passes⟩

theorem Expired.later (expired : Expired before now userID messageID) (passes : now ≤ reached) :
    Expired before reached userID messageID := by
  obtain ⟨lc, found, due⟩ := expired
  exact ⟨lc, found, due.later passes⟩

theorem Due.ensured {lc : MessageLifecycle} (due : Due stores.tables now lc) {owner : Nat} :
    Due (stores.apply (.ensureDefaultFolderRetention owner)).tables now lc := by
  obtain ⟨setting, days, found, set⟩ := due
  refine ⟨setting, days, ?_, set⟩
  have kept (entries : List (GoString × Option Nat)) (rows : List FolderRetention)
      (found : Rows.find retentionKey (lc.userID, lc.currentFolder) rows = some setting) :
      Rows.find retentionKey (lc.userID, lc.currentFolder) (entries.foldl (fun rows entry =>
        Rows.insertNew retentionKey ⟨owner, entry.1, entry.2⟩ rows) rows) = some setting := by
    induction entries generalizing rows with
    | nil => exact found
    | cons entry rest ih => exact ih _ (Rows.find_insertNew found)
  exact kept defaultFolderRetention stores.tables.retention found

theorem expired_of_selected {limit : Int} {item : ExpiredMessage} (sound : Sound stores.tables)
    (member : item ∈ expiredMessages stores.tables now limit) :
    Expired stores.tables now item.userID item.messageID := by
  have listed := (List.mem_insertionSort _).mp (List.mem_of_mem_take member)
  obtain ⟨lc, stored, joined⟩ := List.mem_filterMap.mp listed
  obtain ⟨setting, found, joined⟩ := Option.bind_eq_some_iff.mp joined
  obtain ⟨days, set, joined⟩ := Option.bind_eq_some_iff.mp joined
  split at joined
  next window =>
    cases joined
    have elapsed : lc.folderEnteredAt + days * day ≤ now := Int.add_le_of_le_sub_right window.2
    exact ⟨lc, sound.keyed lc stored, setting, days, found, set, window.1, elapsed⟩
  · cases joined

end Tables

structure Names (tables : Tables) (target : Target) : Prop where
  owner : ∀ userID bodyBlobRef, Owns tables userID target.messageID bodyBlobRef →
    userID = target.userID
  body : ∀ userID messageID, Owns tables userID messageID target.bodyBlobRef →
    messageID = target.messageID

/-- What a sweep has selected is expired as long as it exists, and what it deletes does not
exist any more. -/
structure Noted (tables : Tables) (now : Time) (marks : Marks) : Prop where
  selected : ∀ userID messageID bodyBlobRef, (userID, messageID) ∈ marks.selected →
    Owns tables userID messageID bodyBlobRef → Expired tables now userID messageID
  found : ∀ target ∈ marks.found, Names tables target
  deleted : ∀ target ∈ marks.deleted, Names tables target ∧
    ∀ userID bodyBlobRef, ¬Owns tables userID target.messageID bodyBlobRef

section Marks

variable {before after : Tables} {stores : Stores} {now reached : Time} {outcome : Outcome GoError}
  {query : Query} {marks : Marks}

theorem Names.mono {target : Target} (names : Names before target)
    (fewer : ∀ {userID messageID bodyBlobRef}, Owns after userID messageID bodyBlobRef →
      Owns before userID messageID bodyBlobRef) : Names after target :=
  ⟨fun userID bodyBlobRef owns => names.owner userID bodyBlobRef (fewer owns),
    fun userID messageID owns => names.body userID messageID (fewer owns)⟩

theorem Noted.mono (noted : Noted before now marks)
    (fewer : ∀ {userID messageID bodyBlobRef}, Owns after userID messageID bodyBlobRef →
      Owns before userID messageID bodyBlobRef)
    (stay : ∀ {userID messageID bodyBlobRef}, (userID, messageID) ∈ marks.selected →
      Owns after userID messageID bodyBlobRef → Expired before now userID messageID →
        Expired after reached userID messageID) : Noted after reached marks := by
  refine ⟨fun userID messageID bodyBlobRef member owns => ?_, fun target member => ?_,
    fun target member => ?_⟩
  · exact stay member owns (noted.selected userID messageID bodyBlobRef member (fewer owns))
  · exact (noted.found target member).mono fewer
  · obtain ⟨names, gone⟩ := noted.deleted target member
    exact ⟨names.mono fewer, fun userID bodyBlobRef owns => gone userID bodyBlobRef (fewer owns)⟩

theorem target_names {userID messageID : Nat} {target : Target} (sound : Sound stores.tables)
    (found : Marks.target userID messageID
      (Statement.read outcome (manifestOf stores.tables messageID)) = some target) :
    Names stores.tables target ∧ target.userID = userID ∧ target.messageID = messageID := by
  unfold Statement.read at found
  split at found
  · cases found
  cases stored : manifestOf stores.tables messageID with
  | none =>
    rw [stored] at found
    cases found
  | some row =>
    rw [stored, Marks.target] at found
    split at found
    next owner =>
      cases found
      refine ⟨⟨?_, ?_⟩, rfl, rfl⟩
      · rintro other bodyBlobRef ⟨twin, kept, named, -⟩
        obtain rfl : row = twin := Option.some.inj (stored.symm.trans kept)
        exact named.symm.trans owner
      · intro other id owns
        exact ((sound.bodies owns).2 messageID row stored rfl).symm
    · cases found

theorem Noted.look {userID id : Nat} {rest : List (Nat × Nat)} (sound : Sound stores.tables)
    (noted : Noted stores.tables now marks) (pending : marks.pending = (userID, id) :: rest) :
    Noted stores.tables now (marks.advance (.mail (.selectManifest id))
      (Statement.read outcome (manifestOf stores.tables id))) := by
  have looked : marks.advance (.mail (.selectManifest id))
      (Statement.read outcome (manifestOf stores.tables id)) =
        ⟨rest, Marks.target userID id (Statement.read outcome (manifestOf stores.tables id)),
          none⟩ := by
    simp [Marks.advance, pending]
  rw [looked]
  refine ⟨fun owner messageID bodyBlobRef member owns => ?_, fun target found => ?_,
    fun target deleted => by cases deleted⟩
  · refine noted.selected owner messageID bodyBlobRef (List.mem_append_left _ ?_) owns
    rw [pending]
    rcases List.mem_append.mp member with waiting | looking
    · exact List.mem_cons_of_mem _ waiting
    · obtain ⟨target, found, named⟩ := Option.map_eq_some_iff.mp (Option.mem_toList.mp looking)
      obtain ⟨-, user, message⟩ := target_names sound found
      rw [← named, user, message]
      exact List.mem_cons_self
  · exact (target_names sound found).1

theorem Noted.delete {id : Nat}
    (kept : Noted (Query.answer now outcome (.mail (.write (.deleteManifestRow id))) stores).2.tables
      now marks) (named : ∃ target ∈ marks.found, target.messageID = id) :
    Noted (Query.answer now outcome (.mail (.write (.deleteManifestRow id))) stores).2.tables now
      (marks.advance (.mail (.write (.deleteManifestRow id))) outcome.error?) := by
  refine ⟨fun owner messageID bodyBlobRef member owns => ?_, nofun, fun target deleted => ?_⟩
  · refine kept.selected owner messageID bodyBlobRef ?_ owns
    simp only [Marks.selected, Marks.advance, Option.map_none, Option.toList_none,
      List.append_nil] at member
    exact List.mem_append_left _ member
  · obtain ⟨twin, found, same⟩ := named
    dsimp only [Marks.advance] at deleted
    split at deleted
    next reported =>
      obtain rfl : twin = target := Option.some.inj (found.symm.trans deleted)
      refine ⟨kept.found twin found, ?_⟩
      rintro userID bodyBlobRef ⟨row, stays, -⟩
      have effect : (Query.answer now outcome (.mail (.write (.deleteManifestRow id))) stores).2 =
          stores.apply (.deleteManifestRow id) :=
        if_pos (Outcome.applied_of_error?_none reported)
      rw [effect, same] at stays
      cases (Rows.find_remove_self.symm.trans stays : none = some row)
    · cases deleted

theorem Noted.advance (sound : Sound stores.tables)
    (noted : Noted (query.answer now outcome stores).2.tables now marks) (may : marks.May query) :
    Noted (query.answer now outcome stores).2.tables now
      (marks.advance query (query.answer now outcome stores).1) := by
  cases query with
  | selectExpired limit =>
    obtain listed | ⟨err, failed⟩ := outcome.read_cases (expiredMessages stores.tables now limit)
    · have answered : (Query.answer now outcome (.selectExpired limit) stores).1 =
          .ok (expiredMessages stores.tables now limit) := listed
      rw [answered]
      refine ⟨fun userID messageID bodyBlobRef member _ => ?_, nofun, nofun⟩
      simp only [Marks.advance, Marks.selected, Option.map_none, Option.toList_none,
        List.append_nil] at member
      obtain ⟨item, listed, named⟩ := List.mem_map.mp member
      cases named
      exact expired_of_selected sound listed
    · have answered : (Query.answer now outcome (.selectExpired limit) stores).1 = .error err :=
        failed
      rw [answered]
      exact noted
  | mail statement =>
    cases statement with
    | selectManifest id =>
      obtain ⟨userID, rest, pending⟩ := may
      exact noted.look sound pending
    | write write =>
      cases write with
      | deleteManifestRow id => exact noted.delete may
      | _ => exact noted
    | _ => exact noted
  | _ => exact noted

theorem Noted.other {userID messageID owner id : Nat} {bodyBlobRef : GoString}
    (noted : Noted stores.tables now marks) (deleted : marks.Deleted owner id)
    (owns : Owns stores.tables userID messageID bodyBlobRef) : messageID ≠ id := by
  rintro rfl
  obtain ⟨target, member, -, same⟩ := deleted
  rw [← same] at owns
  exact (noted.deleted target member).2 userID bodyBlobRef owns

theorem Noted.spares {write : Write} {userID messageID : Nat} {bodyBlobRef : GoString}
    (noted : Noted stores.tables now marks) (may : marks.May (.mail (.write write)))
    (owns : Owns stores.tables userID messageID bodyBlobRef)
    (fresh : ¬Expired stores.tables now userID messageID) :
    Spared stores.tables (stores.apply write).tables userID messageID bodyBlobRef := by
  have unlike {owner id : Nat} (different : messageID ≠ id) : (userID, messageID) ≠ (owner, id) :=
    fun same => different (congrArg Prod.snd same)
  cases write with
  | deleteManifestRow id =>
    obtain ⟨target, found, rfl⟩ := may
    have different : messageID ≠ target.messageID := by
      rintro rfl
      have owner := (noted.found target found).owner userID bodyBlobRef owns
      refine fresh (noted.selected userID target.messageID bodyBlobRef ?_ owns)
      rw [owner]
      exact List.mem_append_right _
        (Option.mem_toList.mpr (Option.map_eq_some_iff.mpr ⟨target, found, rfl⟩))
    exact { Spared.refl with manifest := Rows.find_remove_of_ne different }
  | deleteMailboxRow owner folder receivedAt id =>
    have different := noted.other may owns
    exact { Spared.refl with listed := listing_delete_of_ne different.symm }
  | deleteFlags owner id =>
    exact { Spared.refl with flags := Rows.find_remove_of_ne (unlike (noted.other may owns)) }
  | deleteOptInMetadata owner id =>
    exact { Spared.refl with optIn := Rows.find_remove_of_ne (unlike (noted.other may owns)) }
  | deleteMessageLifecycle owner id =>
    exact { Spared.refl with lifecycle := Rows.find_remove_of_ne (unlike (noted.other may owns)) }
  | deleteBlob key =>
    obtain ⟨target, deleted, rfl⟩ := may
    obtain ⟨names, gone⟩ := noted.deleted target deleted
    have different : bodyBlobRef ≠ target.bodyBlobRef := by
      rintro rfl
      rw [names.body userID messageID owns] at owns
      exact gone userID _ owns
    exact ⟨rfl, rfl, rfl, rfl, rfl, Rows.find_remove_of_ne different⟩
  | appendEvent event => exact ⟨rfl, rfl, rfl, rfl, rfl, rfl⟩
  | _ => exact may.elim

end Marks

/-- Every sweep keeps to its protocol and what is noted of it is right, and the other calls
are mild. -/
structure Watched (server : MailServer) : Prop where
  sound : Sound server.stores.tables
  sweeping : ∀ {index thread marks}, server.threads index = some thread → thread.marks = some marks →
    thread.program.Follows sweepProtocol marks (fun _ _ => True) ∧
      Noted server.stores.tables server.now marks
  mild : ∀ {index thread}, server.threads index = some thread → thread.marks = none →
    thread.program.Only Mild

namespace Watched

variable {service : Service} {server : MailServer} {index : Nat} {outcome : Outcome GoError}
  {thread : MailThread} {query : Query} {next : query.Answer → Queries MailResult}
  {userID messageID : Nat}

theorem asks (watched : Watched server) (found : server.threads index = some thread)
    (asking : thread.program = .ask query next) :
    Mild query ∨ ∃ marks : Marks, marks.May query ∧ Noted server.stores.tables server.now marks := by
  cases noted : thread.marks with
  | none =>
    have mild := watched.mild found noted
    rw [asking] at mild
    exact .inl mild.1
  | some marks =>
    obtain ⟨follows, right⟩ := watched.sweeping found noted
    rw [asking] at follows
    exact .inr ⟨marks, follows.1, right⟩

theorem no_insert (watched : Watched server) (found : server.threads index = some thread)
    (asking : thread.program = .ask query next) (row : ManifestRow) :
    query ≠ .mail (.write (.insertManifestRow row)) := by
  rintro rfl
  rcases watched.asks found asking with mild | ⟨marks, may, -⟩
  · simp [Mild, mildKinds, Write.op] at mild
  · exact may

theorem deleted_first (watched : Watched server) (found : server.threads index = some thread)
    {next : Query.Answer (.mail (.write (.deleteMessageLifecycle userID messageID))) →
      Queries MailResult}
    (asking : thread.program = .ask (.mail (.write (.deleteMessageLifecycle userID messageID))) next)
    (bodyBlobRef : GoString) : ¬Owns server.stores.tables userID messageID bodyBlobRef := by
  rcases watched.asks found asking with mild | ⟨marks, may, right⟩
  · simp [Mild, mildKinds, Write.op] at mild
  · obtain ⟨target, deleted, rfl, rfl⟩ := may
    exact (right.deleted target deleted).2 _ _

theorem stays_expired (watched : Watched server) (found : server.threads index = some thread)
    (asking : thread.program = .ask query next)
    (harmless : outcome.applied = true → server.Harmless query)
    (awaits : server.Awaits userID messageID)
    (expired : Expired server.stores.tables server.now userID messageID) :
    Expired (query.answer server.now outcome server.stores).2.tables server.now userID
      messageID := by
  obtain ⟨lc, stored, due⟩ := expired
  obtain same | ⟨applied, ⟨write, rfl, effect⟩ | ⟨rows, rfl, effect⟩⟩ :=
    answer_cases server.now outcome query server.stores
  · rw [same]
    exact ⟨lc, stored, due⟩
  · rw [effect]
    cases write with
    | upsertMessageLifecycle row =>
      by_cases same : (userID, messageID) = lifecycleKey row
      · cases same
        exact ⟨row, lifecycleOf_upsert, harmless applied awaits⟩
      · exact ⟨lc, (Rows.find_upsert_of_ne same).trans stored, due⟩
    | deleteMessageLifecycle owner id =>
      by_cases same : (userID, messageID) = (owner, id)
      · cases same
        obtain ⟨⟨bodyBlobRef, owns⟩, -⟩ := awaits
        exact absurd owns (watched.deleted_first found asking bodyBlobRef)
      · exact ⟨lc, (Rows.find_remove_of_ne same).trans stored, due⟩
    | ensureDefaultFolderRetention owner => exact ⟨lc, stored, due.ensured⟩
    | _ => exact ⟨lc, stored, due⟩
  · rw [effect]
    exact ⟨lc, stored, harmless applied userID messageID lc awaits stored⟩

theorem execute (watched : Watched server) (found : server.threads index = some thread)
    (asking : thread.program = .ask query next)
    (harmless : outcome.applied = true → server.Harmless query) :
    Watched (server.execute index thread outcome query next) := by
  have descends : Descends server.stores.tables
      (query.answer server.now outcome server.stores).2.tables :=
    answer_descends (watched.no_insert found asking)
  have noted_after {other : Nat} {waiting : MailThread} {marks : Marks}
      (there : server.threads other = some waiting) (noted : waiting.marks = some marks) :
      Noted (query.answer server.now outcome server.stores).2.tables server.now marks := by
    refine (watched.sweeping there noted).2.mono descends.owns ?_
    intro userID messageID bodyBlobRef member owns expired
    exact watched.stays_expired found asking harmless
      ⟨⟨bodyBlobRef, descends.owns owns⟩, other, waiting, marks, there, noted, member⟩ expired
  refine ⟨answer_sound (watched.no_insert found asking) watched.sound, ?_, ?_⟩
  · intro other waiting marks there noted
    by_cases same : other = index
    · subst same
      cases (Function.update_self ..).symm.trans there
      obtain ⟨prior, before, rfl⟩ := Option.map_eq_some_iff.mp noted
      have follows := (watched.sweeping found before).1
      rw [asking] at follows
      exact ⟨follows.2 _, (noted_after found before).advance watched.sound follows.1⟩
    · have kept : server.threads other = some waiting :=
        (Function.update_of_ne same ..).symm.trans there
      exact ⟨(watched.sweeping kept noted).1, noted_after kept noted⟩
  · intro other waiting there noted
    by_cases same : other = index
    · subst same
      cases (Function.update_self ..).symm.trans there
      have mild := watched.mild found (Option.map_eq_none_iff.mp noted)
      rw [asking] at mild
      exact mild.2 _
    · exact watched.mild ((Function.update_of_ne same ..).symm.trans there) noted

theorem launched {stores : Stores} (sound : Sound stores.tables) (now : Time) :
    Watched (.launched stores now) := by
  refine ⟨sound, fun there => ?_, fun there => ?_⟩
  · cases there
  · cases there

theorem begin (watched : Watched server) (call : MailCall) :
    Watched { server with
      threads := Function.update server.threads index (some ⟨call.marks, call.program service⟩) } := by
  refine ⟨watched.sound, ?_, ?_⟩
  · intro other thread marks there noted
    by_cases same : other = index
    · subst same
      cases (Function.update_self ..).symm.trans there
      cases call with
      | sweep limit times =>
        cases noted
        exact ⟨sweep_follows, nofun, nofun, nofun⟩
      | _ => cases noted
    · exact watched.sweeping ((Function.update_of_ne same ..).symm.trans there) noted
  · intro other thread there noted
    by_cases same : other = index
    · subst same
      cases (Function.update_self ..).symm.trans there
      exact program_mild noted
    · exact watched.mild ((Function.update_of_ne same ..).symm.trans there) noted

theorem step {event : MailEvent} {after : MailServer} (watched : Watched server)
    (undisturbed : server.Undisturbed event) (taken : server.step service event = some after) :
    Watched after := by
  cases event with
  | tick duration =>
    cases taken
    refine ⟨watched.sound, fun there noted => ?_, watched.mild⟩
    obtain ⟨follows, right⟩ := watched.sweeping there noted
    refine ⟨follows, right.mono id fun _ _ expired => expired.later ?_⟩
    exact Int.le_add_of_nonneg_right (Int.natCast_nonneg duration)
  | begin index call =>
    dsimp only [MailServer.step] at taken
    split at taken
    · cases taken
      exact watched.begin call
    · cases taken
  | advance index outcome =>
    dsimp only [MailServer.step] at taken
    split at taken
    · cases taken
    next thread found =>
    split at taken
    · cases taken
    next query next asking =>
      cases taken
      have asked : server.asks index = some query := by
        rw [MailServer.asks, found]
        exact congrArg Program.query? asking
      exact watched.execute found asking (undisturbed query asked)

theorem spares (watched : Watched server) : server.Spares service := by
  intro index outcome thread after found sweeps taken userID messageID bodyBlobRef owns fresh
  obtain ⟨marks, noted⟩ := Option.isSome_iff_exists.mp sweeps
  obtain ⟨follows, right⟩ := watched.sweeping found noted
  dsimp only [MailServer.step] at taken
  rw [found] at taken
  dsimp only at taken
  split at taken
  · cases taken
  next query next asking =>
  cases taken
  rw [asking] at follows
  have effects := answer_cases server.now outcome query server.stores
  have may : marks.May query := follows.1
  obtain same | ⟨-, ⟨write, rfl, effect⟩ | ⟨rows, rfl, -⟩⟩ := effects
  · have stores : (server.execute index thread outcome query next).stores = server.stores := same
    rw [stores]
    exact .refl
  · have stores : (server.execute index thread outcome (.mail (.write write)) next).stores =
        server.stores.apply write := effect
    rw [stores]
    exact right.spares may owns fresh
  · exact may.elim

end Watched

/-- As long as what a sweep has selected stays expired until it is deleted, sweeps touch
nothing of a message that is not expired, in whatever order the statements of sweeps,
moves and changes of settings come and however they end. -/
theorem sweeps_spare (service : Service) (stores : Stores) (now : Time) (server : MailServer)
    (sound : Sound stores.tables)
    (runs : (mailServer service).Runs MailServer.Undisturbed (.launched stores now) server) :
    server.Spares service := by
  have watched : Watched server :=
    runs.invariant Watched (.launched sound now) fun watched undisturbed taken =>
      watched.step undisturbed taken
  exact watched.spares

/-- The message of the small installation after it was put into the trash. -/
def sampleTrashed : Stores :=
  ((moveMessage sampleService (sampleMove folderTrash 7)).run Statement.answer (fun _ => .done)
    (sampleStored samplePackage)).2

def sampleExpiry : Time := 7 + 30 * day

def trashedManifest : ManifestRow := sampleManifest.refiled folderTrash

theorem sampleTrashed_sound : Sound sampleTrashed.tables := by
  have lifecycle : sampleTrashed.tables.lifecycle = [⟨1, 1, folderTrash, 7⟩] := by decide
  have manifests : sampleTrashed.tables.manifests = [trashedManifest] := by decide
  have only {messageID : Nat} {row : ManifestRow}
      (found : manifestOf sampleTrashed.tables messageID = some row) :
      row = trashedManifest ∧ messageID = 1 := by
    have member := List.mem_of_find?_eq_some found
    rw [manifests, List.mem_singleton] at member
    subst member
    exact ⟨rfl, (manifestOf_id found).symm⟩
  constructor
  · rw [lifecycle]
    intro row member
    cases List.mem_singleton.mp member
    decide
  · rintro userID messageID bodyBlobRef ⟨row, found, -, -, rfl⟩
    obtain ⟨rfl, rfl⟩ := only found
    exact ⟨by decide, fun other row found _ => (only found).2⟩

def sweepTrash : List MailEvent :=
  [.begin 0 (.sweep 200 fun _ => sampleExpiry), .advance 0 .done, .advance 0 .done,
    .advance 0 .done]

theorem sweepTrash_asks :
    ((mailServer sampleService).after (sweepTrash.take 2)
      (.launched sampleTrashed sampleExpiry)).asks 0 = some (.mail (.selectManifest 1)) ∧
    ((mailServer sampleService).after (sweepTrash.take 3)
      (.launched sampleTrashed sampleExpiry)).asks 0 =
      some (.mail (.selectMessageLifecycle 1 1)) := by
  decide

/-- It spares what is not expired, and deletes the message, which is. -/
theorem sweeps_spare_expired :
    ((mailServer sampleService).after sweepTrash (.launched sampleTrashed sampleExpiry)).Spares
        sampleService ∧
      manifestOf ((mailServer sampleService).after (sweepTrash ++ [MailEvent.advance 0 .done])
        (.launched sampleTrashed sampleExpiry)).stores.tables 1 = none := by
  refine ⟨?_, by decide⟩
  refine sweeps_spare sampleService sampleTrashed sampleExpiry _ sampleTrashed_sound
    (Machine.after_runs sweepTrash ⟨trivial, ?_, ?_, ?_, trivial⟩)
  · rintro query asked -
    cases asked
    trivial
  · rintro query asked -
    obtain rfl : query = .mail (.selectManifest 1) :=
      (Option.some.inj (sweepTrash_asks.1.symm.trans asked)).symm
    trivial
  · rintro query asked -
    obtain rfl : query = .mail (.selectMessageLifecycle 1 1) :=
      (Option.some.inj (sweepTrash_asks.2.symm.trans asked)).symm
    trivial

/-- A sweep selects the message in the trash, a user moves it back to the inbox, and the
sweep looks it up. -/
def sweepRestored : List MailEvent :=
  [.begin 0 (.sweep 200 fun _ => sampleExpiry), .advance 0 .done,
    .begin 1 (.move (sampleMove folderInbox sampleExpiry)), .advance 1 .done, .advance 1 .done,
    .advance 1 .done, .advance 1 .done, .advance 1 .done, .advance 1 .done, .advance 1 .done,
    .advance 1 .done, .advance 1 .done, .advance 0 .done, .advance 0 .done]

/-- The move has returned, and the sweep deletes the message from the inbox, where nothing
expires. -/
theorem restored_message_deleted :
    ((mailServer sampleService).after sweepRestored
        (.launched sampleTrashed sampleExpiry)).returned 1 =
      some (.moved (.ok ⟨1, folderTrash, folderInbox⟩)) ∧
    ¬∀ (service : Service) (stores : Stores) (now : Time) (server : MailServer),
      Sound stores.tables →
        (mailServer service).Runs (fun _ _ => True) (.launched stores now) server →
          server.Spares service := by
  refine ⟨by decide, fun spare => ?_⟩
  have spares := spare sampleService sampleTrashed sampleExpiry _ sampleTrashed_sound
    (Machine.after_runs sweepRestored (Machine.permits_of_forall (fun _ _ => trivial) _ _))
  generalize reached : (mailServer sampleService).after sweepRestored
    (.launched sampleTrashed sampleExpiry) = server at spares
  have filed : manifestOf server.stores.tables 1 = some sampleManifest := by
    rw [← reached]
    decide
  have deletes : ((server.step sampleService (.advance 0 .done)).map fun after =>
      manifestOf after.stores.tables 1) = some none := by
    rw [← reached]
    decide
  have sweeps : ((server.threads 0).map fun thread => thread.marks.isSome) = some true := by
    rw [← reached]
    decide
  obtain ⟨after, taken, gone⟩ := Option.map_eq_some_iff.mp deletes
  obtain ⟨thread, found, noted⟩ := Option.map_eq_some_iff.mp sweeps
  have owns : Owns server.stores.tables 1 1 (mailBodyKey 1 1) :=
    ⟨sampleManifest, filed, rfl, Nat.one_ne_zero, rfl⟩
  have kept := (spares 0 .done thread after found noted taken 1 1 _ owns ?_).manifest
  · rw [gone, filed] at kept
    cases kept
  · rintro ⟨lc, stored, setting, days, retained, set, -⟩
    have inbox : lifecycleOf server.stores.tables 1 1 = some ⟨1, 1, folderInbox, sampleExpiry⟩ := by
      rw [← reached]
      decide
    have forever : retentionOf server.stores.tables 1 folderInbox = some ⟨1, folderInbox, none⟩ := by
      rw [← reached]
      decide
    obtain rfl := Option.some.inj (inbox.symm.trans stored)
    obtain rfl := Option.some.inj (forever.symm.trans retained)
    cases set

end ElvishMail.Mailops
