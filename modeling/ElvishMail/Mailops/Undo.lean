import ElvishMail.Mailops.Agreement

/-!
# What a failed move undoes

`MoveMessage` issues four writes and answers an error of each with writes that are to take
back the others. This module follows one failure through the move: every statement is
executed, but for one that fails, and that one may take effect all the same.

The old row is written again from the manifest, which knows nothing of attachments, and
nothing takes back a write that was reported as failed and yet took effect.
-/

namespace ElvishMail.Mailops

open Go Smtp Mailmeta Mailstore Mailpipe Semantics

def outcomeAt (point : Statement) (failure : Outcome GoError) (statement : Statement) :
    Outcome GoError :=
  if statement = point then failure else .done

def failingOn (point : Statement) (failure : Outcome GoError) (_ : Unit) (statement : Statement) :
    Stores → statement.Answer × Stores :=
  statement.answer (outcomeAt point failure statement)

section Failing

variable {point : Statement} {failure : Outcome GoError} {stores after : Stores} {env : Nat → Unit}
  {Value : Type}

theorem write_run {write : Write} {next : Option GoError → Statements Value}
    (other : point ≠ .write write) :
    (Program.ask (.write write) next : Statements Value).run (failingOn point failure) env stores =
      (next none).run (failingOn point failure) (fun count => env (count + 1)) (stores.apply write) := by
  have done : failingOn point failure (env 0) (.write write) stores = (none, stores.apply write) := by
    rw [failingOn, outcomeAt, if_neg other.symm]
    rfl
  rw [Program.run_ask, done]

theorem write_fails {write : Write} {next : Option GoError → Statements Value} {result : Value × Stores}
    (fails : failure.fails = true) (failing : point = .write write)
    (ran : (Program.ask (.write write) next : Statements Value).run (failingOn point failure) env
      stores = result) :
    ∃ err, (next (some err)).run (failingOn point failure) (fun count => env (count + 1))
      (if failure.applied then stores.apply write else stores) = result := by
  obtain ⟨err, reported⟩ := Option.isSome_iff_exists.mp fails
  have failed : failingOn point failure (env 0) (.write write) stores =
      (some err, if failure.applied then stores.apply write else stores) := by
    rw [failingOn, outcomeAt, if_pos failing.symm, ← reported]
    rfl
  rw [Program.run_ask, failed] at ran
  exact ⟨err, ran⟩

theorem execBlindly_fst {value : Value} {writes : List Write} :
    ((execBlindly value writes).run (failingOn point failure) env stores).1 = value := by
  induction writes generalizing env stores with
  | nil => rfl
  | cons write rest ih => exact ih

theorem announce_fst {userID messageID : Nat} {old new : Place} :
    ((announce userID messageID old new).run (failingOn point failure) env stores).1 =
      .ok ⟨messageID, old.folder, new.folder⟩ := by
  rw [announce, Program.run_ask]
  split <;> exact execBlindly_fst

theorem execBlindly_run {value : Value} {writes : List Write}
    (others : ∀ write ∈ writes, point ≠ .write write) :
    (execBlindly value writes).run (failingOn point failure) env stores =
      (value, writes.foldl (fun stores write => stores.apply write) stores) := by
  induction writes generalizing env stores with
  | nil => rfl
  | cons write rest ih =>
    obtain ⟨first, rest⟩ := List.forall_mem_cons.mp others
    rw [execBlindly, write_run first, ih rest]
    rfl

end Failing

def Entry.lifecycle (entry : Entry) (place : Place) : MessageLifecycle :=
  ⟨entry.userID, entry.messageID, place.folder, place.enteredAt⟩

theorem Entry.lifecycle_inj {entry : Entry} {place other : Place} :
    some (entry.lifecycle place) = some (entry.lifecycle other) ↔ place = other := by
  cases place
  cases other
  simp [Entry.lifecycle]

def recordsOf (tables : Tables) (entry : Entry) :
    Option ManifestRow × List MailboxRow × Option MessageLifecycle :=
  (manifestOf tables entry.messageID, listing tables entry.messageID,
    lifecycleOf tables entry.userID entry.messageID)

section Records

variable {stores : Stores} {entry : Entry} {manifest : ManifestRow} {rows : List MailboxRow}
  {tracked : Option MessageLifecycle}

theorem recordsOf_insert (row : MailboxRow)
    (records : recordsOf stores.tables entry = (some manifest, rows, tracked))
    (own : row.messageID = entry.messageID) :
    recordsOf (stores.apply (.insertMailboxRow row)).tables entry =
      (some manifest, Rows.upsert MailboxRow.key row rows, tracked) := by
  simp only [recordsOf, Prod.mk.injEq] at records ⊢
  refine ⟨records.1, ?_, records.2.2⟩
  rw [← records.2.1, ← own]
  exact listing_insert stores row

theorem recordsOf_update (folder : GoString)
    (records : recordsOf stores.tables entry = (some manifest, rows, tracked)) :
    recordsOf (stores.apply (.updateManifestFolder entry.messageID folder)).tables entry =
      (some (manifest.refiled folder), rows, tracked) := by
  simp only [recordsOf, Prod.mk.injEq] at records ⊢
  exact ⟨manifestOf_update records.1, records.2⟩

theorem recordsOf_delete (row : MailboxRow)
    (records : recordsOf stores.tables entry = (some manifest, rows, tracked)) :
    recordsOf (stores.apply (.deleteMailboxRow row.userID row.folder row.receivedAt
      row.messageID)).tables entry = (some manifest, Rows.remove MailboxRow.key row.key rows, tracked) := by
  simp only [recordsOf, Prod.mk.injEq] at records ⊢
  refine ⟨records.1, ?_, records.2.2⟩
  rw [← records.2.1]
  exact listing_delete

theorem recordsOf_track {place : Place}
    (records : recordsOf stores.tables entry = (some manifest, rows, tracked)) :
    recordsOf (stores.apply (.upsertMessageLifecycle (entry.lifecycle place))).tables entry =
      (some manifest, rows, some (entry.lifecycle place)) := by
  simp only [recordsOf, Prod.mk.injEq] at records ⊢
  exact ⟨records.1, records.2.1, lifecycleOf_upsert⟩

end Records

def filingWrites (mf : Manifest) (old new : Place) : List Write :=
  [.insertMailboxRow (listingRow mf new), .updateManifestFolder mf.messageID new.folder, unlist mf old]

def undoWrites (mf : Manifest) (old new : Place) : List Write :=
  [.insertMailboxRow (listingRow mf old), .updateManifestFolder mf.messageID old.folder, unlist mf new]

def Place.tracked (lib : Library) (place : Place) : Place :=
  ⟨normalizeFolderName lib place.folder, place.enteredAt⟩

/-- The write of the lifecycle row, unless the row is turned down. -/
def trackWrite (lib : Library) (userID messageID : Nat) (new : Place) : Option Write :=
  if userID = 0 ∨ messageID = 0 ∨ (new.tracked lib).folder = [] then none
  else some (.upsertMessageLifecycle
    ⟨userID, messageID, (new.tracked lib).folder, (new.tracked lib).enteredAt⟩)

theorem upsertLifecycle_none {lib : Library} {userID messageID : Nat} {new : Place}
    (none' : trackWrite lib userID messageID new = none) :
    ∃ err, upsertLifecycle lib ⟨userID, messageID, new.folder, new.enteredAt⟩ = .done (some err) := by
  unfold trackWrite at none'
  unfold upsertLifecycle
  dsimp only
  split
  · exact ⟨_, rfl⟩
  next valid =>
    split
    · exact ⟨_, rfl⟩
    next named =>
      rw [if_neg (by rw [Place.tracked]; tauto)] at none'
      cases none'

theorem upsertLifecycle_some {lib : Library} {userID messageID : Nat} {new : Place} {write : Write}
    (some' : trackWrite lib userID messageID new = some write) :
    upsertLifecycle lib ⟨userID, messageID, new.folder, new.enteredAt⟩ = .ask (.write write) .done ∧
      write = .upsertMessageLifecycle
        ⟨userID, messageID, (new.tracked lib).folder, (new.tracked lib).enteredAt⟩ := by
  unfold trackWrite at some'
  split at some'
  · cases some'
  next valid =>
    cases some'
    simp only [not_or] at valid
    rw [upsertLifecycle, if_neg (by tauto)]
    dsimp only
    exact ⟨if_neg valid.2.2, rfl⟩

/-- When a failed move leaves the records of its message as they were: the write that fails
takes no effect, and if it is the lifecycle row that is not written, the old row is found and
is without attachments. -/
structure Undone (lib : Library) (point : Statement) (failure : Outcome GoError) (entry : Entry)
    (mf : Manifest) (place found new : Place) : Prop where
  filing : ∀ write ∈ filingWrites mf found new, point = .write write → failure.applied = false
  tracking : point ≠ .selectManifest entry.messageID →
    (∀ write ∈ filingWrites mf found new, point ≠ .write write) →
    entry.hasAttachments = false ∧ found.key = place.key ∧
      ∀ write ∈ trackWrite lib entry.userID entry.messageID new, point = .write write →
        failure.applied = false ∨ new.tracked lib = place

section Stages

variable {lib : Library} {point : Statement} {failure : Outcome GoError} {stores after : Stores}
  {env : Nat → Unit} {entry : Entry} {row : ManifestRow} {place found new : Place} {err : GoError}
  {rows : List MailboxRow} {tracked : Option MessageLifecycle}

structure Source (entry : Entry) (row : ManifestRow) (place found new : Place) : Prop where
  messageID : row.messageID = entry.messageID
  userID : row.userID = entry.userID
  size : row.bodySizeBytes = entry.bodySizeBytes
  provenance : row.provenance = entry.provenance
  folder : row.folder = place.folder
  found : found.folder = place.folder
  elsewhere : row.folder ≠ new.folder

namespace Source

theorem listingRow (source : Source entry row place found new) (spot : Place) :
    Mailops.listingRow (scanned row) spot = entry.bare.row spot := by
  simp [Mailops.listingRow, scanned, Entry.row, Entry.bare, source.messageID, source.userID,
    source.size, source.provenance]

theorem unlist (source : Source entry row place found new) (spot : Place) :
    Mailops.unlist (scanned row) spot = .deleteMailboxRow (entry.bare.row spot).userID
      (entry.bare.row spot).folder (entry.bare.row spot).receivedAt (entry.bare.row spot).messageID := by
  simp [Mailops.unlist, scanned, Entry.row, Entry.bare, source.messageID, source.userID]

theorem key_ne (source : Source entry row place found new) {entry' other : Entry} {spot : Place}
    (there : spot.folder = place.folder) : (entry'.row spot).key ≠ (other.row new).key := by
  refine Entry.key_ne fun same => ?_
  have folder : spot.folder = new.folder := (Prod.mk.inj same).1
  exact source.elsewhere (source.folder.trans (there.symm.trans folder))

end Source

theorem insert_undone (source : Source entry row place found new)
    (records : recordsOf stores.tables entry = (some row, [entry.row place], tracked)) :
    recordsOf (if failure.applied then
        stores.apply (.insertMailboxRow (listingRow (scanned row) new)) else stores).tables entry =
      recordsOf stores.tables entry ↔ failure.applied = false := by
  cases failure.applied with
  | false => exact iff_of_true rfl rfl
  | true =>
    refine iff_of_false ?_ fun same => by cases same
    have added := recordsOf_insert (entry.bare.row new) records rfl
    rw [if_pos rfl, source.listingRow, added, records, upsert_beside (source.key_ne rfl)]
    exact fun same => by simpa using congrArg (fun records => records.2.1.length) same

theorem update_undone (source : Source entry row place found new)
    (records : recordsOf stores.tables entry = (some row, [entry.row place, entry.bare.row new], tracked)) :
    recordsOf ((if failure.applied then
        stores.apply (.updateManifestFolder (scanned row).messageID new.folder)
        else stores).apply (unlist (scanned row) new)).tables entry = (some row, [entry.row place], tracked) ↔
      failure.applied = false := by
  have left : Rows.remove MailboxRow.key (entry.bare.row new).key [entry.row place, entry.bare.row new] =
      [entry.row place] := by
    simp [Rows.remove, source.key_ne rfl]
  have id : (scanned row).messageID = entry.messageID := source.messageID
  rw [source.unlist, id]
  cases failure.applied with
  | false =>
    refine iff_of_true ?_ rfl
    rw [if_neg Bool.false_ne_true, recordsOf_delete _ records, left]
  | true =>
    refine iff_of_false ?_ fun same => by cases same
    rw [if_pos rfl, recordsOf_delete _ (recordsOf_update _ records), left]
    intro same
    have refiled : row.refiled new.folder = row := Option.some.inj (congrArg Prod.fst same)
    exact source.elsewhere (congrArg ManifestRow.folder refiled).symm

theorem Source.refiled (source : Source entry row place found new) :
    (row.refiled new.folder).refiled found.folder = row := by
  rw [source.found, ← source.folder]
  rfl

theorem unlist_undone (source : Source entry row place place new)
    (records : recordsOf stores.tables entry =
      (some (row.refiled new.folder), [entry.row place, entry.bare.row new], tracked)) :
    recordsOf (((if failure.applied then stores.apply (unlist (scanned row) place) else stores).apply
        (.updateManifestFolder (scanned row).messageID place.folder)).apply
          (unlist (scanned row) new)).tables entry = (some row, [entry.row place], tracked) ↔
      failure.applied = false := by
  have id : (scanned row).messageID = entry.messageID := source.messageID
  rw [source.unlist, source.unlist, id]
  cases failure.applied with
  | false =>
    refine iff_of_true ?_ rfl
    rw [if_neg Bool.false_ne_true, recordsOf_delete _ (recordsOf_update _ records), source.refiled]
    simp [Rows.remove, source.key_ne rfl]
  | true =>
    refine iff_of_false ?_ fun same => by cases same
    rw [if_pos rfl, recordsOf_delete _ (recordsOf_update _ (recordsOf_delete _ records))]
    intro same
    have shown := congrArg (fun records => entry.row place ∈ records.2.1) same
    have dropped : (entry.row place).key = (entry.bare.row place).key := rfl
    simp [Rows.remove, dropped] at shown

theorem track_undone (source : Source entry row place found new)
    (records : recordsOf stores.tables entry =
      (some (row.refiled new.folder),
        Rows.remove MailboxRow.key (entry.bare.row found).key [entry.row place, entry.bare.row new],
        tracked)) :
    ∃ rows, recordsOf (((stores.apply (.insertMailboxRow (listingRow (scanned row) found))).apply
        (.updateManifestFolder (scanned row).messageID found.folder)).apply
          (unlist (scanned row) new)).tables entry = (some row, rows, tracked) ∧
      (rows = [entry.row place] ↔ entry.hasAttachments = false ∧ found.key = place.key) := by
  have id : (scanned row).messageID = entry.messageID := source.messageID
  rw [source.unlist, source.listingRow, id]
  have after := recordsOf_delete (entry.bare.row new)
    (recordsOf_update found.folder (recordsOf_insert (entry.bare.row found) records rfl))
  rw [source.refiled] at after
  refine ⟨_, after, ?_⟩
  have beside : (entry.bare.row found).key ≠ (entry.bare.row new).key := source.key_ne source.found
  have apart : (entry.row place).key ≠ (entry.bare.row new).key := source.key_ne rfl
  by_cases there : found.key = place.key
  · rw [← Entry.row_congr there]
    have own : (entry.row found).key = (entry.bare.row found).key := rfl
    have alone : Rows.remove MailboxRow.key (entry.bare.row new).key
        (Rows.upsert MailboxRow.key (entry.bare.row found)
          (Rows.remove MailboxRow.key (entry.bare.row found).key
            [entry.row found, entry.bare.row new])) = [entry.bare.row found] := by
      simp [Rows.upsert, Rows.remove, own, beside]
    rw [alone, List.singleton_inj]
    constructor
    · intro same
      exact ⟨(congrArg MailboxRow.hasAttachments same).symm, there⟩
    · rintro ⟨plain, -⟩
      simp [Entry.row, Entry.bare, plain]
  · have other : (entry.row place).key ≠ (entry.bare.row found).key := Entry.key_ne (Ne.symm there)
    have two : Rows.remove MailboxRow.key (entry.bare.row new).key
        (Rows.upsert MailboxRow.key (entry.bare.row found)
          (Rows.remove MailboxRow.key (entry.bare.row found).key
            [entry.row place, entry.bare.row new])) = [entry.row place, entry.bare.row found] := by
      simp [Rows.upsert, Rows.remove, other, beside, apart]
    rw [two]
    exact iff_of_false (by simp) fun both => there both.2

theorem undone_filing {write : Write} {mf : Manifest} (member : write ∈ filingWrites mf found new)
    (failing : point = .write write) :
    Undone lib point failure entry mf place found new ↔ failure.applied = false :=
  ⟨fun undone => undone.filing write member failing,
    fun refused => ⟨fun _ _ _ => refused, fun _ others => absurd failing (others write member)⟩⟩

theorem moveLifecycle_undone (source : Source entry row place found new)
    (fails : failure.fails = true)
    (records : recordsOf stores.tables entry =
      (some (row.refiled new.folder),
        Rows.remove MailboxRow.key (entry.bare.row found).key [entry.row place, entry.bare.row new],
        some (entry.lifecycle place)))
    (compensated : ∀ write ∈ undoWrites (scanned row) found new, point ≠ .write write)
    (ran : (moveLifecycle lib entry.userID entry.messageID (scanned row) found new).run
      (failingOn point failure) env stores = (.error err, after)) :
    recordsOf after.tables entry = (some row, [entry.row place],
        some (entry.lifecycle place)) ↔
      entry.hasAttachments = false ∧ found.key = place.key ∧
        ∀ write ∈ trackWrite lib entry.userID entry.messageID new, point = .write write →
          failure.applied = false ∨ new.tracked lib = place := by
  have undone {stores' after' : Stores} {tracked : Option MessageLifecycle} {env : Nat → Unit}
      {err' : GoError}
      (records : recordsOf stores'.tables entry =
        (some (row.refiled new.folder),
          Rows.remove MailboxRow.key (entry.bare.row found).key [entry.row place, entry.bare.row new],
          tracked))
      (ran : (execBlindly (.error err') (undoWrites (scanned row) found new)).run
        (failingOn point failure) env stores' = ((.error err : Except GoError MoveResult), after')) :
      ∃ rows, recordsOf after'.tables entry = (some row, rows, tracked) ∧
        (rows = [entry.row place] ↔ entry.hasAttachments = false ∧ found.key = place.key) := by
    rw [execBlindly_run compensated] at ran
    cases ran
    exact track_undone source records
  rw [moveLifecycle] at ran
  cases issued : trackWrite lib entry.userID entry.messageID new with
  | none =>
    obtain ⟨failed, rejected⟩ := upsertLifecycle_none issued
    rw [rejected, Program.pure_bind] at ran
    obtain ⟨rows, final, plain⟩ := undone records ran
    rw [final]
    simp [plain]
  | some write =>
    obtain ⟨asks, what⟩ := upsertLifecycle_some issued
    rw [asks, Program.ask_bind] at ran
    by_cases failing : point = .write write
    · obtain ⟨failed, ran⟩ := write_fails fails failing ran
      rw [Program.pure_bind] at ran
      by_cases applied : failure.applied
      · rw [if_pos applied, what] at ran
        obtain ⟨rows, final, plain⟩ := undone (recordsOf_track records) ran
        rw [final, Prod.mk.injEq, Prod.mk.injEq, plain, Entry.lifecycle_inj]
        simp [failing, applied, and_assoc]
      · rw [if_neg applied] at ran
        obtain ⟨rows, final, plain⟩ := undone records ran
        rw [final]
        simp [plain, applied]
    · rw [write_run failing] at ran
      have value := congrArg Prod.fst ran
      rw [Program.pure_bind, announce_fst] at value
      cases value

theorem moveListing_undone (source : Source entry row place found new) (fails : failure.fails = true)
    (records : recordsOf stores.tables entry = (some row, [entry.row place],
      some (entry.lifecycle place)))
    (reads : point ≠ .selectManifest entry.messageID)
    (located : ∀ write, point = .write write → found = place)
    (compensated : ∀ write ∈ undoWrites (scanned row) found new, point ≠ .write write)
    (ran : (moveListing lib entry.userID entry.messageID (scanned row) found new).run
      (failingOn point failure) env stores = (.error err, after)) :
    recordsOf after.tables entry = recordsOf stores.tables entry ↔
      Undone lib point failure entry (scanned row) place found new := by
  have id : (scanned row).messageID = entry.messageID := source.messageID
  have back : point ≠ .write (unlist (scanned row) new) := compensated _ (by simp [undoWrites])
  have refile : point ≠ .write (.updateManifestFolder (scanned row).messageID found.folder) :=
    compensated _ (by simp [undoWrites])
  rw [moveListing] at ran
  by_cases inserting : point = .write (.insertMailboxRow (listingRow (scanned row) new))
  · rw [undone_filing (by simp [filingWrites]) inserting]
    obtain ⟨failed, ran⟩ := write_fails fails inserting ran
    cases ran
    exact insert_undone source records
  rw [write_run inserting] at ran
  have inserted : recordsOf (stores.apply (.insertMailboxRow (listingRow (scanned row) new))).tables entry =
      (some row, [entry.row place, entry.bare.row new], some (entry.lifecycle place)) := by
    rw [source.listingRow, recordsOf_insert _ records rfl, upsert_beside (source.key_ne rfl)]
  rw [records]
  dsimp only at ran
  rw [moveManifest] at ran
  by_cases updating : point = .write (.updateManifestFolder (scanned row).messageID new.folder)
  · rw [undone_filing (by simp [filingWrites]) updating]
    obtain ⟨failed, ran⟩ := write_fails fails updating ran
    dsimp only at ran
    rw [execBlindly_run (by simpa using back)] at ran
    cases ran
    exact update_undone source inserted
  rw [write_run updating] at ran
  have updated : recordsOf ((stores.apply (.insertMailboxRow (listingRow (scanned row) new))).apply
        (.updateManifestFolder (scanned row).messageID new.folder)).tables entry =
      (some (row.refiled new.folder), [entry.row place, entry.bare.row new],
        some (entry.lifecycle place)) := by
    rw [id]
    exact recordsOf_update new.folder inserted
  dsimp only at ran
  rw [moveUnlist] at ran
  by_cases unlisting : point = .write (unlist (scanned row) found)
  · rw [undone_filing (by simp [filingWrites]) unlisting]
    obtain ⟨failed, ran⟩ := write_fails fails unlisting ran
    obtain rfl := located _ unlisting
    dsimp only at ran
    rw [execBlindly_run (by simpa using ⟨refile, back⟩)] at ran
    cases ran
    exact unlist_undone source updated
  rw [write_run unlisting] at ran
  have unlisted := recordsOf_delete (entry.bare.row found) updated
  rw [← source.unlist] at unlisted
  dsimp only at ran
  rw [moveLifecycle_undone source fails unlisted compensated ran]
  have others : ∀ write ∈ filingWrites (scanned row) found new, point ≠ .write write := by
    simpa [filingWrites] using ⟨inserting, updating, unlisting⟩
  exact ⟨fun tracking => ⟨fun write member same => absurd same (others write member), fun _ _ => tracking⟩,
    fun undone => undone.tracking reads others⟩

end Stages

section Moves

variable {service : Service} {call : MoveCall} {point : Statement} {failure : Outcome GoError}
  {stores after : Stores} {entry : Entry} {row : ManifestRow} {place : Place} {err : GoError}

/-- The place from which a move takes the message: the lifecycle row's, or the manifest's if that
row cannot be read. -/
def foundAt (point : Statement) (failure : Outcome GoError) (call : MoveCall) (tables : Tables)
    (row : ManifestRow) : Place :=
  placeFound (outcomeAt point failure (.selectMessageLifecycle call.userID call.messageID)) tables
    call.userID call.messageID row

theorem locate_found {Value : Type} {next : Place → Statements Value} {env : Nat → Unit} :
    (locate call.userID call.messageID (scanned row) >>= next).run (failingOn point failure) env stores =
      (next (foundAt point failure call stores.tables row)).run (failingOn point failure)
        (fun count => env (count + 1)) stores := by
  rw [locate, Program.ask_bind, Program.run_ask, foundAt, placeFound]
  dsimp only [failingOn, Statement.answer]
  cases Statement.read (outcomeAt point failure (.selectMessageLifecycle call.userID call.messageID))
      (lifecycleOf stores.tables call.userID call.messageID) with
  | error err => rfl
  | ok lc? => cases lc? <;> rfl

theorem foundAt_folder (filed : Filed stores.tables entry place)
    (user : call.userID = entry.userID) (own : call.messageID = entry.messageID)
    (folder : row.folder = place.folder) :
    (foundAt point failure call stores.tables row).folder = place.folder := by
  rw [foundAt, placeFound, user, own, filed.lifecycle, Statement.read]
  cases (outcomeAt point failure (.selectMessageLifecycle entry.userID entry.messageID)).error? with
  | none => rfl
  | some err => exact folder

theorem foundAt_write {write : Write} (filed : Filed stores.tables entry place)
    (user : call.userID = entry.userID) (own : call.messageID = entry.messageID) :
    foundAt (.write write) failure call stores.tables row = place := by
  have other : Statement.selectMessageLifecycle entry.userID entry.messageID ≠ .write write :=
    fun same => by cases same
  rw [foundAt, placeFound, user, own, filed.lifecycle, outcomeAt, if_neg other]
  rfl

/-- A move that fails leaves the manifest, the listing and the lifecycle row of its message as
they were, once its compensating writes have succeeded, if and only if it was turned down before
the first write, or the write that failed took no effect and, where it is the lifecycle row that
was not written, the message has no attachments. -/
theorem moveMessage_undone (filed : Filed stores.tables entry place)
    (stored : manifestOf stores.tables entry.messageID = some row)
    (own : call.messageID = entry.messageID) (fails : failure.fails = true)
    (compensated : ∀ write ∈ undoWrites (scanned row) (foundAt point failure call stores.tables row)
      ⟨call.target service, call.now⟩, point ≠ .write write)
    (ran : (moveMessage service call).run (failingOn point failure) (fun _ => ()) stores =
      (.error err, after)) :
    recordsOf after.tables entry = recordsOf stores.tables entry ↔
      call.refusal service ≠ none ∨ call.userID ≠ entry.userID ∨
        Undone service.lib point failure entry (scanned row) place
          (foundAt point failure call stores.tables row) ⟨call.target service, call.now⟩ := by
  obtain ⟨other, stored', owner, folder, size, provenance⟩ := filed.manifest
  obtain rfl : row = other := Option.some.inj (stored.symm.trans stored')
  rw [moveMessage] at ran
  split at ran
  next refused =>
    cases ran
    exact iff_of_true rfl (.inl (by rw [refused]; exact Option.some_ne_none _))
  next accepted =>
  rw [getManifest, Program.ask_bind, Program.run_ask] at ran
  by_cases reads : point = .selectManifest entry.messageID
  · obtain ⟨failed, reported⟩ := Option.isSome_iff_exists.mp fails
    have unread : failingOn point failure () (.selectManifest call.messageID) stores =
        (.error failed, stores) := by
      rw [failingOn, outcomeAt, own, if_pos reads.symm, Statement.answer, Statement.read, reported]
    rw [unread] at ran
    cases ran
    exact iff_of_true rfl (.inr (.inr ⟨fun _ _ same => (by cases reads.symm.trans same),
      fun read => absurd reads read⟩))
  have read : failingOn point failure () (.selectManifest call.messageID) stores =
      (.ok (some row), stores) := by
    rw [failingOn, outcomeAt, own, if_neg (Ne.symm reads), Statement.answer, stored]
    rfl
  rw [read] at ran
  dsimp only at ran
  by_cases user : call.userID = entry.userID
  · rw [if_neg (by rw [user, owner]; simp), Program.pure_bind] at ran
    dsimp only at ran
    split at ran
    · cases ran
    next elsewhere =>
      have source : Source entry row place (foundAt point failure call stores.tables row)
          ⟨call.target service, call.now⟩ :=
        ⟨manifestOf_id stored, owner, size, provenance, folder, foundAt_folder filed user own folder,
          elsewhere⟩
      have records : recordsOf stores.tables entry =
          (some row, [entry.row place], some (entry.lifecycle place)) := by
        rw [recordsOf, stored, filed.listed, filed.lifecycle]
        rfl
      rw [locate_found, user, own] at ran
      rw [moveListing_undone source fails records reads
        (fun write same => by rw [same]; exact foundAt_write filed user own) compensated ran]
      simp [accepted, user]
  · rw [if_pos (by rw [owner]; exact Ne.symm user)] at ran
    cases ran
    exact iff_of_true rfl (.inr (.inl user))

end Moves

theorem sample_filed {package : Package} {result : IngestResult}
    (stored : (samplePipe.persist (sampleConditions none) package emptyStores).1 = .ok result)
    (fits : normalizeFolderName samplePipe.lib package.folder = package.folder) :
    Filed (sampleStored package).tables (ingested package 1) ⟨package.folder, 0⟩ :=
  persist_filed (Prod.ext stored rfl) fits

theorem attached_stored : samplePipe.persist (sampleConditions none) attachedPackage emptyStores =
    (.ok
      { userID := 1
        messageID := 1
        folder := folderInbox
        bodyBlobRef := mailBodyKey 1 1
        provenance := provenanceAlreadyEncrypted
        sizeBytes := 27 }, sampleStored attachedPackage) :=
  Prod.ext (by decide) rfl

def storedManifest (package : Package) : ManifestRow :=
  (manifestOf (sampleStored package).tables 1).getD (.unset 1)

def failedMove (package : Package) (point : Statement) : Except GoError MoveResult × Stores :=
  (moveMessage sampleService (sampleMove folderArchive 5)).run
    (failingOn point (.refused (.plain (ascii "timeout")))) (fun _ => ()) (sampleStored package)

/-- A move that fails at the update of the manifest. -/
theorem moveMessage_undone_manifest :
    recordsOf (failedMove samplePackage (.write (.updateManifestFolder 1 folderArchive))).2.tables
        (ingested samplePackage 1) =
      recordsOf (sampleStored samplePackage).tables (ingested samplePackage 1) := by
  have returned : (failedMove samplePackage (.write (.updateManifestFolder 1 folderArchive))).1 =
      .error (.plain (ascii "timeout")) := by decide
  refine (@moveMessage_undone sampleService (sampleMove folderArchive 5) _ _ _ _
    (ingested samplePackage 1) (storedManifest samplePackage) ⟨folderInbox, 0⟩ _
    (sample_filed (congrArg Prod.fst sample_stored) (by decide)) (by decide) rfl rfl
    (by decide) (Prod.ext returned rfl)).mpr (.inr (.inr ⟨fun _ _ _ => rfl, fun _ others => ?_⟩))
  exact absurd rfl (others _ (.tail _ (.head _)))

/-- A message with an attachment is listed without one when the write of its lifecycle row has
failed and the move has been taken back. -/
theorem moveMessage_forgets : ¬∀ (service : Service) (call : MoveCall) (point : Statement)
    (failure : Outcome GoError) (stores after : Stores) (entry : Entry) (row : ManifestRow)
    (place : Place) (err : GoError), Filed stores.tables entry place →
    manifestOf stores.tables entry.messageID = some row → call.messageID = entry.messageID →
    failure.fails = true →
    (∀ write ∈ undoWrites (scanned row) (foundAt point failure call stores.tables row)
      ⟨call.target service, call.now⟩, point ≠ .write write) →
    (moveMessage service call).run (failingOn point failure) (fun _ => ()) stores = (.error err, after) →
    recordsOf after.tables entry = recordsOf stores.tables entry := by
  intro unchanged
  have returned : (failedMove attachedPackage
      (.write (.upsertMessageLifecycle ⟨1, 1, folderArchive, 5⟩))).1 =
      .error (.plain (ascii "timeout")) := by decide
  have same := unchanged sampleService (sampleMove folderArchive 5)
    (.write (.upsertMessageLifecycle ⟨1, 1, folderArchive, 5⟩)) _ (sampleStored attachedPackage) _
    (ingested attachedPackage 1) (storedManifest attachedPackage) ⟨folderInbox, 0⟩ _
    (sample_filed (congrArg Prod.fst attached_stored) (by decide)) (by decide) rfl rfl
    (by decide) (Prod.ext returned rfl)
  revert same
  decide

end ElvishMail.Mailops
