import Mathlib.Data.Fintype.Basic
import ElvishMail.Mailops.Agreement

/-!
# Concurrent moves

Nothing keeps two calls of `MoveMessage` on one message apart. A call reads where
the message is, and then writes a new row, the manifest, deletes the old row and
writes the lifecycle row; what it read is stale if another call does the same
meanwhile.
-/

namespace ElvishMail.Mailops

open Go Smtp Mailmeta Mailstore Mailpipe Semantics

/-- Calls of `MoveMessage` on the same stores. -/
abbrev Calls (Index : Type) : Type :=
  Race Index Statement Statement.Answer (Except GoError MoveResult) Stores

variable {Index : Type} [DecidableEq Index] (service : Service) (calls : Index → MoveCall)

def launched (stores : Stores) : Calls Index := ⟨fun index => moveMessage service (calls index), stores⟩

def moveKinds : List Op :=
  [.insertMailboxRow, .updateManifestFolder, .deleteMailboxRow, .upsertMessageLifecycle]

def writing (thread : Statements (Except GoError MoveResult)) : Option Write :=
  match thread.query? with
  | some (.write write) => some write
  | _ => none

/-- The message whose place a thread is about to look up, with its user. -/
def looking (thread : Statements (Except GoError MoveResult)) : Option (Nat × Nat) :=
  match thread.query? with
  | some (.selectMessageLifecycle userID messageID) => some (userID, messageID)
  | _ => none

/-- What a listing row would keep of the place in a lifecycle row. -/
def trackedKey (lc : MessageLifecycle) : GoString × Time :=
  Place.key ⟨lc.currentFolder, lc.folderEnteredAt⟩

/-- A call is under way from a place to another: the next statement is one of these
writes. -/
def Moving (thread : Statements (Except GoError MoveResult)) : Prop :=
  ∃ write ∈ writing thread, write.op ∈ moveKinds

/-- Every statement succeeds, and a call looks up the place of the message only while
no other call is under way, and not in the millisecond of its own clock in which another
moved it to the same folder. -/
def Exclusive (system : Calls Index) (step : Index × Outcome GoError) : Prop :=
  step.2 = .done ∧
    ∀ key ∈ looking (system.thread step.1),
      (∀ other, other ≠ step.1 → ¬Moving (system.thread other)) ∧
        (lifecycleOf system.state.tables key.1 key.2).map trackedKey ≠
          some (Place.key ⟨(calls step.1).target service, (calls step.1).now⟩)

instance (thread : Statements (Except GoError MoveResult)) : Decidable (Moving thread) :=
  inferInstanceAs (Decidable (∃ write ∈ writing thread, write.op ∈ moveKinds))

instance [Fintype Index] (system : Calls Index) (step : Index × Outcome GoError) :
    Decidable (Exclusive service calls system step) :=
  inferInstanceAs (Decidable (_ ∧ _))

/-- No call has a statement left. -/
def Finished (system : Calls Index) : Prop := ∀ index, (system.thread index).query? = none

instance [Fintype Index] (system : Calls Index) : Decidable (Finished system) :=
  inferInstanceAs (Decidable (∀ index, (system.thread index).query? = none))

/-- A message has one row that lists it, and manifest and lifecycle row name the same
folder. -/
def Settled (tables : Tables) (userID messageID : Nat) : Prop :=
  ∃ row manifest lc, listing tables messageID = [row] ∧
    manifestOf tables messageID = some manifest ∧ lifecycleOf tables userID messageID = some lc ∧
    manifest.folder = row.folder ∧ lc.currentFolder = row.folder

def Telling : Statement → Prop
  | .selectFlags .. => True
  | .write write => write.op ∈ [Op.insertFlags, .appendEvent]
  | _ => False

structure Found (entry : Entry) (call : MoveCall) (row : ManifestRow) : Prop where
  target : call.target service ≠ []
  owner : call.userID = entry.userID
  named : listingRow (scanned row) = entry.bare.row

/-- A call that is not under way: it has not read the manifest yet, or has read it and
not the lifecycle row, or has nothing to write but flags and events. -/
inductive Quiet (entry : Entry) (call : MoveCall) :
    Statements (Except GoError MoveResult) → Prop where
  | fresh : Quiet entry call (moveMessage service call)
  | reading {row : ManifestRow} (found : Found service entry call row) :
      Quiet entry call (locate call.userID call.messageID (scanned row) >>= fun old =>
        moveListing service.lib call.userID call.messageID (scanned row) old
          ⟨call.target service, call.now⟩)
  | telling {thread : Statements (Except GoError MoveResult)} (only : thread.Only Telling) :
      Quiet entry call thread

theorem announce_only {userID messageID : Nat} {old new : Place} :
    (announce userID messageID old new).Only Telling := by
  refine ⟨trivial, fun reply => ?_⟩
  cases reply with
  | error err => exact execBlindly_only (by simp [Telling, Write.op])
  | ok flags => exact execBlindly_only (by simp [Telling, Write.op])

/-- A message is listed once, in the place that manifest and lifecycle row name. -/
def Stands (tables : Tables) (entry : Entry) : Prop :=
  ∃ place row, row.key = (entry.row place).key ∧ Records tables entry place.folder [row] place

/-- A call under way, with the records of the message between its writes. -/
inductive Underway (entry : Entry) (call : MoveCall) (tables : Tables) :
    Statements (Except GoError MoveResult) → Prop where
  | listing {row : ManifestRow} {old : Place} {listed : MailboxRow}
      (found : Found service entry call row) (different : old.key ≠ Place.key ⟨call.target service, call.now⟩)
      (key : listed.key = (entry.row old).key)
      (records : Records tables entry old.folder [listed] old) :
      Underway entry call tables (moveListing service.lib call.userID call.messageID (scanned row)
        old ⟨call.target service, call.now⟩)
  | manifest {row : ManifestRow} {old : Place} {listed : MailboxRow}
      (found : Found service entry call row) (different : old.key ≠ Place.key ⟨call.target service, call.now⟩)
      (key : listed.key = (entry.row old).key)
      (records : Records tables entry old.folder
        [listed, entry.bare.row ⟨call.target service, call.now⟩] old) :
      Underway entry call tables (moveManifest service.lib call.userID call.messageID (scanned row)
        old ⟨call.target service, call.now⟩)
  | unlist {row : ManifestRow} {old : Place} {listed : MailboxRow}
      (found : Found service entry call row) (different : old.key ≠ Place.key ⟨call.target service, call.now⟩)
      (key : listed.key = (entry.row old).key)
      (records : Records tables entry (call.target service)
        [listed, entry.bare.row ⟨call.target service, call.now⟩] old) :
      Underway entry call tables (moveUnlist service.lib call.userID call.messageID (scanned row)
        old ⟨call.target service, call.now⟩)
  | lifecycle {row : ManifestRow} {old : Place} (found : Found service entry call row)
      (records : Records tables entry (call.target service)
        [entry.bare.row ⟨call.target service, call.now⟩] old) :
      Underway entry call tables (moveLifecycle service.lib call.userID call.messageID
        (scanned row) old ⟨call.target service, call.now⟩)

/-- At most one call is under way, and otherwise the message stands in one place. -/
def Orderly (entry : Entry) (system : Calls Index) : Prop :=
  (∀ index, Quiet service entry (calls index) (system.thread index)) ∧
      Stands system.state.tables entry ∨
    ∃ index, (∀ other, other ≠ index → Quiet service entry (calls other) (system.thread other)) ∧
      Underway service entry (calls index) system.state.tables (system.thread index)

section Steps

variable {service} {entry : Entry} {call : MoveCall} {stores : Stores}
  {thread : Statements (Except GoError MoveResult)} {query : Statement}
  {following : query.Answer → Statements (Except GoError MoveResult)}

theorem listingRow_scanned {row : ManifestRow} {folder : GoString}
    (manifest : Manifested stores.tables entry folder)
    (found : manifestOf stores.tables entry.messageID = some row) :
    listingRow (scanned row) = entry.bare.row := by
  obtain ⟨other, found', owner, -, size, provenance⟩ := manifest
  obtain rfl : row = other := Option.some.inj (found.symm.trans found')
  have id : row.messageID = entry.messageID := manifestOf_id found
  funext place
  simp [listingRow, scanned, Entry.row, Entry.bare, owner, id, size, provenance]

theorem Found.id {row : ManifestRow} (found : Found service entry call row) :
    (scanned row).messageID = entry.messageID :=
  congrArg MailboxRow.messageID (congrFun found.named ⟨[], 0⟩)

theorem Found.unlist {row : ManifestRow} (found : Found service entry call row) (place : Place) :
    unlist (scanned row) place =
      .deleteMailboxRow entry.userID place.folder (timestamp place.enteredAt) entry.messageID := by
  have owner : (scanned row).userID = entry.userID :=
    congrArg MailboxRow.userID (congrFun found.named place)
  rw [Mailops.unlist, owner, found.id]

theorem target_of_accepted (accepted : call.refusal service = none) : call.target service ≠ [] := by
  intro empty
  unfold MoveCall.refusal at accepted
  split at accepted
  · cases accepted
  · rw [if_pos empty] at accepted
    cases accepted

theorem quiet_step {folder : GoString} (own : call.messageID = entry.messageID)
    (manifest : Manifested stores.tables entry folder)
    (quiet : Quiet service entry call (.ask query following))
    (other : ∀ userID messageID, query ≠ .selectMessageLifecycle userID messageID) :
    Quiet service entry call (following (Statement.answer .done query stores).1) ∧
      filing (Statement.answer .done query stores).2.tables = filing stores.tables := by
  generalize asking : (Program.ask query following : Statements _) = thread at quiet
  cases quiet with
  | fresh =>
    rw [moveMessage] at asking
    split at asking
    · cases asking
    next accepted =>
    dsimp only at asking
    rw [getManifest, Program.ask_bind] at asking
    cases asking
    obtain ⟨row, found, owner, -⟩ := id manifest
    have answered : (Statement.answer .done (.selectManifest call.messageID) stores).1 =
        .ok (some row) := by
      rw [own]
      exact congrArg Except.ok found
    refine ⟨?_, rfl⟩
    rw [answered]
    dsimp only
    split
    · exact .telling trivial
    next user =>
    rw [Program.pure_bind]
    dsimp only
    split
    · exact .telling trivial
    · exact .reading ⟨target_of_accepted accepted, (not_not.mp user).symm.trans owner,
        listingRow_scanned manifest found⟩
  | reading found =>
    rw [locate, Program.ask_bind] at asking
    cases asking
    exact absurd rfl (other _ _)
  | telling only =>
    subst asking
    refine ⟨.telling (only.2 _), ?_⟩
    cases query with
    | selectManifest messageID => exact only.1.elim
    | selectMessageLifecycle userID messageID => exact only.1.elim
    | selectFlags userID messageID => rfl
    | write write =>
      have kind : write.op ∈ [Op.insertFlags, .appendEvent] := only.1
      cases write <;> first | rfl | simp [Write.op] at kind

theorem reading_step {userID messageID : Nat} (stands : Stands stores.tables entry)
    {following : Except GoError (Option MessageLifecycle) → Statements (Except GoError MoveResult)}
    (own : call.messageID = entry.messageID)
    (quiet : Quiet service entry call (.ask (.selectMessageLifecycle userID messageID) following))
    (elsewhere : (lifecycleOf stores.tables userID messageID).map trackedKey ≠
      some (Place.key ⟨call.target service, call.now⟩)) :
    Underway service entry call stores.tables
      (following (.ok (lifecycleOf stores.tables userID messageID))) := by
  generalize asking : (Program.ask (.selectMessageLifecycle userID messageID) following :
    Statements _) = thread at quiet
  cases quiet with
  | fresh =>
    rw [moveMessage] at asking
    split at asking
    · cases asking
    · dsimp only at asking
      rw [getManifest, Program.ask_bind] at asking
      cases asking
  | reading found =>
    rw [locate, Program.ask_bind] at asking
    cases asking
    obtain ⟨place, listed, key, records⟩ := stands
    have looked : lifecycleOf stores.tables call.userID call.messageID =
        some ⟨call.userID, call.messageID, place.folder, place.enteredAt⟩ := by
      rw [own, found.owner]
      exact records.lifecycle
    rw [looked] at elsewhere ⊢
    have different : place.key ≠ Place.key ⟨call.target service, call.now⟩ :=
      fun same => elsewhere (congrArg some same)
    exact .listing found different key records
  | telling only =>
    subst asking
    exact only.1.elim

theorem underway_step (own : call.messageID = entry.messageID)
    (fits : normalizeFolderName service.lib (call.target service) = call.target service)
    (ids : entry.userID ≠ 0 ∧ entry.messageID ≠ 0)
    (underway : Underway service entry call stores.tables (.ask query following)) :
    Underway service entry call (Statement.answer .done query stores).2.tables
        (following (Statement.answer .done query stores).1) ∨
      Quiet service entry call (following (Statement.answer .done query stores).1) ∧
        Stands (Statement.answer .done query stores).2.tables entry := by
  generalize asking : (Program.ask query following : Statements _) = thread at underway
  cases underway with
  | @listing row old listed found different key records =>
    rw [moveListing, found.named] at asking
    cases asking
    have keys : listed.key ≠ (entry.bare.row ⟨call.target service, call.now⟩).key := by
      rw [key]
      exact Entry.key_ne different
    have inserted := records.insert (entry.bare.row ⟨call.target service, call.now⟩) rfl
    rw [upsert_beside keys] at inserted
    exact .inl (.manifest found different key inserted)
  | @manifest row old listed found different key records =>
    rw [moveManifest, found.id] at asking
    cases asking
    exact .inl (.unlist found different key (records.update (call.target service)))
  | @unlist row old listed found different key records =>
    rw [moveUnlist, found.unlist] at asking
    cases asking
    have keys : listed.key ≠ (entry.bare.row ⟨call.target service, call.now⟩).key := by
      rw [key]
      exact Entry.key_ne different
    have deleted := records.delete old
    rw [← key, remove_beside keys] at deleted
    exact .inl (.lifecycle found deleted)
  | @lifecycle row old found records =>
    have known : ¬(call.userID = 0 ∨ call.messageID = 0) := by
      rw [found.owner, own]
      exact not_or.mpr ids
    rw [moveLifecycle, upsertLifecycle, if_neg known] at asking
    dsimp only at asking
    rw [fits, if_neg found.target, found.owner, own] at asking
    cases asking
    refine .inr ⟨.telling announce_only, ⟨call.target service, call.now⟩, _, ?_,
      records.track ⟨call.target service, call.now⟩⟩
    rfl

theorem underway_moving (ids : entry.userID ≠ 0 ∧ entry.messageID ≠ 0)
    (own : call.messageID = entry.messageID)
    (fits : normalizeFolderName service.lib (call.target service) = call.target service)
    (underway : Underway service entry call stores.tables thread) : Moving thread := by
  cases underway with
  | listing => exact ⟨_, rfl, by simp [moveKinds, Write.op]⟩
  | manifest => exact ⟨_, rfl, by simp [moveKinds, Write.op]⟩
  | unlist => exact ⟨_, rfl, by simp [moveKinds, Write.op, Mailops.unlist]⟩
  | lifecycle found records =>
    have known : ¬(call.userID = 0 ∨ call.messageID = 0) := by
      rw [found.owner, own]
      exact not_or.mpr ids
    rw [moveLifecycle, upsertLifecycle, if_neg known]
    dsimp only
    rw [fits, if_neg found.target]
    exact ⟨_, rfl, by simp [moveKinds, Write.op]⟩

theorem Underway.of_filing {after : Stores}
    (underway : Underway service entry call stores.tables thread)
    (same : filing after.tables = filing stores.tables) :
    Underway service entry call after.tables thread := by
  cases underway with
  | listing found different key records =>
    exact .listing found different key (records.of_filing same)
  | manifest found different key records =>
    exact .manifest found different key (records.of_filing same)
  | unlist found different key records =>
    exact .unlist found different key (records.of_filing same)
  | lifecycle found records => exact .lifecycle found (records.of_filing same)

theorem Underway.manifested (underway : Underway service entry call stores.tables thread) :
    ∃ folder, Manifested stores.tables entry folder := by
  cases underway with
  | listing _ _ _ records => exact ⟨_, records.manifest⟩
  | manifest _ _ _ records => exact ⟨_, records.manifest⟩
  | unlist _ _ _ records => exact ⟨_, records.manifest⟩
  | lifecycle _ records => exact ⟨_, records.manifest⟩

end Steps

section Runs

variable {service} {calls} {entry : Entry} {system next : Calls Index}

theorem orderly_step (own : ∀ index, (calls index).messageID = entry.messageID)
    (fits : ∀ index, normalizeFolderName service.lib ((calls index).target service) =
      (calls index).target service)
    (ids : entry.userID ≠ 0 ∧ entry.messageID ≠ 0) {step : Index × Outcome GoError}
    (orderly : Orderly service calls entry system) (exclusive : Exclusive service calls system step)
    (taken : (race Statement.answer).step system step = some next) :
    Orderly service calls entry next := by
  obtain ⟨index, outcome⟩ := step
  obtain ⟨query, following, asking, threads, state⟩ := race_step taken
  obtain ⟨healthy, alone⟩ := exclusive
  dsimp only at healthy alone
  subst healthy
  have self : next.thread index = following (Statement.answer .done query system.state).1 := by
    rw [threads, Function.update_self]
  have others : ∀ other, other ≠ index → next.thread other = system.thread other := by
    intro other different
    rw [threads, Function.update_of_ne different]
  rcases orderly with ⟨quiet, stands⟩ | ⟨mover, quiet, underway⟩
  · by_cases looks : ∃ userID messageID, query = .selectMessageLifecycle userID messageID
    · obtain ⟨userID, messageID, rfl⟩ := looks
      have elsewhere := (alone (userID, messageID) (by rw [asking]; rfl)).2
      refine .inr ⟨index, fun other different => ?_, ?_⟩
      · rw [others other different]
        exact quiet other
      · rw [self, state]
        exact reading_step stands (own index) (asking ▸ quiet index) elsewhere
    · push Not at looks
      obtain ⟨place, row, key, records⟩ := stands
      have kept := quiet_step (own index) records.manifest (asking ▸ quiet index) looks
      refine .inl ⟨fun other => ?_, place, row, key, ?_⟩
      · by_cases same : other = index
        · rw [same, self]
          exact kept.1
        · rw [others other same]
          exact quiet other
      · rw [state]
        exact records.of_filing kept.2
  · by_cases same : index = mover
    · subst same
      rw [asking] at underway
      rcases underway_step (own index) (fits index) ids underway with on | ⟨ended, stands⟩
      · refine .inr ⟨index, fun other different => ?_, ?_⟩
        · rw [others other different]
          exact quiet other different
        · rw [self, state]
          exact on
      · refine .inl ⟨fun other => ?_, ?_⟩
        · by_cases same : other = index
          · rw [same, self]
            exact ended
          · rw [others other same]
            exact quiet other same
        · rw [state]
          exact stands
    · -- the mover forbids this call to look up the place
      have looks : ∀ userID messageID, query ≠ .selectMessageLifecycle userID messageID := by
        rintro userID messageID rfl
        have idle := (alone (userID, messageID) (by rw [asking]; rfl)).1 mover (Ne.symm same)
        exact idle (underway_moving ids (own mover) (fits mover) underway)
      obtain ⟨folder, manifest⟩ := underway.manifested
      have kept := quiet_step (own index) manifest (asking ▸ quiet index same) looks
      refine .inr ⟨mover, fun other different => ?_, ?_⟩
      · by_cases this : other = index
        · rw [this, self]
          exact kept.1
        · rw [others other this]
          exact quiet other different
      · rw [others mover (Ne.symm same), state]
        exact underway.of_filing kept.2

end Runs

/-- Calls that exclude each other leave a message, once all have returned, with one row
and agreement on its folder. -/
theorem moves_settled {Index : Type} [DecidableEq Index] (service : Service)
    (calls : Index → MoveCall) (entry : Entry) (place : Place) (stores : Stores)
    (final : Calls Index) (filed : Filed stores.tables entry place)
    (ids : entry.userID ≠ 0 ∧ entry.messageID ≠ 0)
    (own : ∀ index, (calls index).messageID = entry.messageID)
    (fits : ∀ index, normalizeFolderName service.lib ((calls index).target service) =
      (calls index).target service)
    (runs : (race Statement.answer).Runs (Exclusive service calls)
      (launched service calls stores) final)
    (finished : Finished final) : Settled final.state.tables entry.userID entry.messageID := by
  have orderly : Orderly service calls entry final := by
    refine runs.invariant (Orderly service calls entry) ?_ ?_
    · exact .inl ⟨fun index => .fresh, place, entry.row place, rfl, filed⟩
    · intro system step next orderly exclusive taken
      exact orderly_step own fits ids orderly exclusive taken
  rcases orderly with ⟨-, place, row, key, records⟩ | ⟨mover, -, underway⟩
  · obtain ⟨manifest, found, -, folder, -⟩ := records.manifest
    have filed : row.folder = place.folder := congrArg (fun key => key.2.1) key
    exact ⟨row, manifest, _, records.listed, found, records.lifecycle, folder.trans filed.symm,
      filed.symm⟩
  · obtain ⟨write, asks, -⟩ := underway_moving ids (own mover) (fits mover) underway
    rw [writing, finished mover] at asks
    cases asks

def sampleMoves : Bool → MoveCall
  | false => sampleMove folderArchive 5000
  | true => sampleMove folderTrash 7000

def turns (index : Bool) (count : Nat) : List (Bool × Outcome GoError) :=
  List.replicate count (index, .done)

/-- A call that has read the manifest is overtaken by the other one. -/
theorem moves_settled_overtaken :
    Settled ((race Statement.answer).after (turns true 1 ++ turns false 9 ++ turns true 8)
        (launched sampleService sampleMoves (sampleStored samplePackage))).state.tables 1 1 ∧
      listing ((race Statement.answer).after (turns true 1 ++ turns false 9 ++ turns true 8)
        (launched sampleService sampleMoves (sampleStored samplePackage))).state.tables 1 =
        [(ingested samplePackage 1).row ⟨folderTrash, 7000⟩] := by
  refine ⟨?_, by decide⟩
  exact moves_settled sampleService sampleMoves (ingested samplePackage 1) ⟨folderInbox, 0⟩
    (sampleStored samplePackage) _ (persist_filed sample_stored (by decide)) (by decide) (by decide)
    (by decide) (Machine.after_runs (turns true 1 ++ turns false 9 ++ turns true 8) (by decide))
    (by decide)

/-- Two calls that both look up the place of a message before either writes leave it
in both folders. -/
theorem moves_list_twice :
    Finished ((race Statement.answer).after
        (turns false 2 ++ turns true 2 ++ turns false 7 ++ turns true 7)
        (launched sampleService sampleMoves (sampleStored samplePackage))) ∧
      ¬Settled ((race Statement.answer).after
        (turns false 2 ++ turns true 2 ++ turns false 7 ++ turns true 7)
        (launched sampleService sampleMoves (sampleStored samplePackage))).state.tables 1 1 := by
  refine ⟨by decide, ?_⟩
  rintro ⟨row, manifest, lc, listed, -⟩
  have both : listing ((race Statement.answer).after
      (turns false 2 ++ turns true 2 ++ turns false 7 ++ turns true 7)
      (launched sampleService sampleMoves (sampleStored samplePackage))).state.tables 1 =
      [(ingested samplePackage 1).row ⟨folderArchive, 5000⟩,
        (ingested samplePackage 1).row ⟨folderTrash, 7000⟩] := by
    decide
  rw [both] at listed
  cases listed

end ElvishMail.Mailops
