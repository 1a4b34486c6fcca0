import ElvishMail.Mailops.Service
import ElvishMail.Mailpipe.Compensation

/-!
# Agreement of the stores

Where a message is filed is written down three times: in its manifest, in the
row that lists it, and in its lifecycle row. The stores agree after an ingest;
which operations keep it so is the subject of this module.
-/

namespace ElvishMail.Mailops

open Go Smtp Mailmeta Mailstore Mailpipe Semantics

section Views

variable {stores : Stores} {tables : Tables} {userID messageID : Nat}

theorem listing_insert (stores : Stores) (row : MailboxRow) :
    listing (stores.apply (.insertMailboxRow row)).tables row.messageID =
      Rows.upsert MailboxRow.key row (listing stores.tables row.messageID) :=
  Rows.filter_upsert_of_shown (by simp)

theorem listing_insert_of_ne {row : MailboxRow} (other : row.messageID ≠ messageID) :
    listing (Write.onTables tables (.insertMailboxRow row)) messageID = listing tables messageID := by
  refine Rows.filter_upsert_of_hidden (by simpa using other) ?_
  intro twin same
  have id : twin.messageID = row.messageID := congrArg (fun key => key.2.2.2) same
  simpa [id] using other

theorem listing_delete {owner : Nat} {folder : GoString} {receivedAt : Time} {id : Nat} :
    listing (Write.onTables tables (.deleteMailboxRow owner folder receivedAt id)) messageID =
      Rows.remove MailboxRow.key (owner, folder, receivedAt, id) (listing tables messageID) :=
  Rows.filter_remove _

theorem listing_delete_of_ne {owner : Nat} {folder : GoString} {receivedAt : Time} {id : Nat}
    (other : id ≠ messageID) :
    listing (Write.onTables tables (.deleteMailboxRow owner folder receivedAt id)) messageID =
      listing tables messageID := by
  rw [listing_delete]
  apply Rows.remove_of_absent
  intro row member same
  have listed : row.messageID = messageID := by simpa [listing] using (List.mem_filter.mp member).2
  have named : row.messageID = id := congrArg (fun key => key.2.2.2) same
  exact other (named.symm.trans listed)

theorem manifestOf_id {row : ManifestRow} (found : manifestOf stores.tables messageID = some row) :
    row.messageID = messageID := by
  simpa using List.find?_some found

theorem manifestOf_update {row : ManifestRow} {folder : GoString}
    (found : manifestOf stores.tables messageID = some row) :
    manifestOf (stores.apply (.updateManifestFolder messageID folder)).tables messageID =
      some (row.refiled folder) := by
  have named : row.messageID = messageID := manifestOf_id found
  have id : (row.refiled folder).messageID = messageID := named
  have written : manifestOf (stores.apply (.updateManifestFolder messageID folder)).tables messageID =
      Rows.find ManifestRow.messageID messageID
        (Rows.upsert ManifestRow.messageID (row.refiled folder) stores.tables.manifests) := by
    have read : Rows.find ManifestRow.messageID messageID stores.tables.manifests = some row := found
    simp only [manifestOf, Stores.apply, Write.onTables, read, Option.getD_some]
  rw [written]
  conv_lhs => rw [← id]
  exact Rows.find_upsert_self

theorem manifestOf_update_of_ne {id : Nat} {folder : GoString} (other : id ≠ messageID) :
    manifestOf (Write.onTables tables (.updateManifestFolder id folder)) messageID =
      manifestOf tables messageID := by
  refine Rows.find_upsert_of_ne ?_
  cases found : Rows.find ManifestRow.messageID id tables.manifests with
  | none => exact other.symm
  | some row =>
    have same : row.messageID = id := by simpa using List.find?_some found
    simpa [ManifestRow.refiled, same] using other.symm

theorem manifestOf_update_of_none {folder : GoString}
    (gone : manifestOf stores.tables messageID = none) :
    manifestOf (stores.apply (.updateManifestFolder messageID folder)).tables messageID =
      some ((ManifestRow.unset messageID).refiled folder) := by
  have written : manifestOf (stores.apply (.updateManifestFolder messageID folder)).tables messageID =
      Rows.find ManifestRow.messageID messageID
        (Rows.upsert ManifestRow.messageID ((ManifestRow.unset messageID).refiled folder)
          stores.tables.manifests) := by
    have read : Rows.find ManifestRow.messageID messageID stores.tables.manifests = none := gone
    simp only [manifestOf, Stores.apply, Write.onTables, read, Option.getD_none]
  have stored : Rows.find ManifestRow.messageID ((ManifestRow.unset messageID).refiled folder).messageID
      (Rows.upsert ManifestRow.messageID ((ManifestRow.unset messageID).refiled folder)
        stores.tables.manifests) = some ((ManifestRow.unset messageID).refiled folder) :=
    Rows.find_upsert_self
  exact written.trans stored

theorem lifecycleOf_upsert {row : MessageLifecycle} :
    lifecycleOf (stores.apply (.upsertMessageLifecycle row)).tables row.userID row.messageID =
      some row :=
  Rows.find_upsert_self

theorem lifecycleOf_upsert_of_ne {row : MessageLifecycle} (other : row.messageID ≠ messageID) :
    lifecycleOf (Write.onTables tables (.upsertMessageLifecycle row)) userID messageID =
      lifecycleOf tables userID messageID := by
  refine Rows.find_upsert_of_ne ?_
  intro same
  exact other (congrArg Prod.snd same).symm

end Views

/-- What a message is listed with, wherever it is filed. -/
structure Entry where
  userID : Nat
  messageID : Nat
  bodySizeBytes : Int
  provenance : GoString
  hasAttachments : Bool
deriving DecidableEq

/-- The row that lists a message in a place. Its time is cut to milliseconds. -/
def Entry.row (entry : Entry) (place : Place) : MailboxRow where
  userID := entry.userID
  folder := place.folder
  receivedAt := timestamp place.enteredAt
  messageID := entry.messageID
  bodySizeBytes := entry.bodySizeBytes
  provenance := entry.provenance
  hasAttachments := entry.hasAttachments

def Entry.bare (entry : Entry) : Entry := { entry with hasAttachments := false }

def Manifested (tables : Tables) (entry : Entry) (folder : GoString) : Prop :=
  ∃ row, manifestOf tables entry.messageID = some row ∧ row.userID = entry.userID ∧
    row.folder = folder ∧ row.bodySizeBytes = entry.bodySizeBytes ∧
    row.provenance = entry.provenance

def filing (tables : Tables) : List ManifestRow × List MailboxRow × List MessageLifecycle :=
  (tables.manifests, tables.mailbox, tables.lifecycle)

/-- A statement that writes for this message only. -/
def Statement.Files (messageID : Nat) : Statement → Prop
  | write effect => effect.Files messageID
  | _ => True

/-- The records of a message: the folder of its manifest, the rows that list it, and
the place in its lifecycle row. -/
structure Records (tables : Tables) (entry : Entry) (folder : GoString) (rows : List MailboxRow)
    (tracked : Place) : Prop where
  manifest : Manifested tables entry folder
  listed : listing tables entry.messageID = rows
  lifecycle : lifecycleOf tables entry.userID entry.messageID =
    some ⟨entry.userID, entry.messageID, tracked.folder, tracked.enteredAt⟩

/-- A message is filed in a place: it is listed there and nowhere else, and its
manifest and its lifecycle row say so. -/
def Filed (tables : Tables) (entry : Entry) (place : Place) : Prop :=
  Records tables entry place.folder [entry.row place] place

/-- The stores agree on a message: it is filed in a place, and the times in its listing row and
in its lifecycle row are equal. -/
def Agree (tables : Tables) (entry : Entry) : Prop :=
  ∃ place, Filed tables entry place ∧ (entry.row place).receivedAt = place.enteredAt

namespace Records

variable {stores : Stores} {entry : Entry} {folder : GoString} {rows : List MailboxRow}
  {tracked : Place}

theorem congr {before after : Tables} (records : Records before entry folder rows tracked)
    (manifest : manifestOf after entry.messageID = manifestOf before entry.messageID)
    (listed : listing after entry.messageID = listing before entry.messageID)
    (lifecycle : lifecycleOf after entry.userID entry.messageID =
      lifecycleOf before entry.userID entry.messageID) :
    Records after entry folder rows tracked := by
  constructor
  · rw [Manifested, manifest]
    exact records.manifest
  · rw [listed]
    exact records.listed
  · rw [lifecycle]
    exact records.lifecycle

theorem insert (records : Records stores.tables entry folder rows tracked) (row : MailboxRow)
    (own : row.messageID = entry.messageID) :
    Records (stores.apply (.insertMailboxRow row)).tables entry folder
      (Rows.upsert MailboxRow.key row rows) tracked := by
  refine ⟨records.manifest, ?_, records.lifecycle⟩
  rw [← records.listed, ← own]
  exact listing_insert stores row

theorem delete (records : Records stores.tables entry folder rows tracked) (place : Place) :
    Records (stores.apply (.deleteMailboxRow entry.userID place.folder (timestamp place.enteredAt)
      entry.messageID)).tables entry folder
      (Rows.remove MailboxRow.key (entry.row place).key rows) tracked := by
  refine ⟨records.manifest, ?_, records.lifecycle⟩
  rw [← records.listed]
  exact listing_delete

theorem update (records : Records stores.tables entry folder rows tracked) (other : GoString) :
    Records (stores.apply (.updateManifestFolder entry.messageID other)).tables entry other rows
      tracked := by
  obtain ⟨row, found, owner, -, size, provenance⟩ := records.manifest
  exact ⟨⟨row.refiled other, manifestOf_update found, owner, rfl, size, provenance⟩,
    records.listed, records.lifecycle⟩

theorem track (records : Records stores.tables entry folder rows tracked) (place : Place) :
    Records (stores.apply (.upsertMessageLifecycle
      ⟨entry.userID, entry.messageID, place.folder, place.enteredAt⟩)).tables entry folder rows
      place :=
  ⟨records.manifest, records.listed, lifecycleOf_upsert⟩

/-- A write for another message leaves the records as they are. -/
theorem apart {tables : Tables} (records : Records tables entry folder rows tracked) {write : Write}
    {id : Nat} (files : write.Files id) (other : id ≠ entry.messageID) :
    Records (write.onTables tables) entry folder rows tracked := by
  cases write with
  | insertManifestRow row =>
    exact records.congr (Rows.find_upsert_of_ne fun same => other (files.symm.trans same.symm)) rfl rfl
  | insertMailboxRow row =>
    exact records.congr rfl (listing_insert_of_ne fun same => other (files.symm.trans same)) rfl
  | upsertMessageLifecycle row =>
    exact records.congr rfl rfl (lifecycleOf_upsert_of_ne fun same => other (files.symm.trans same))
  | deleteManifestRow =>
    cases files
    exact records.congr (Rows.find_remove_of_ne other.symm) rfl rfl
  | deleteMailboxRow =>
    cases files
    exact records.congr rfl (listing_delete_of_ne other) rfl
  | updateManifestFolder =>
    cases files
    exact records.congr (manifestOf_update_of_ne other) rfl rfl
  | deleteMessageLifecycle =>
    cases files
    exact records.congr rfl rfl
      (Rows.find_remove_of_ne fun same => other (congrArg Prod.snd same).symm)
  | _ => exact records.congr rfl rfl rfl

theorem run {Value : Type} {program : Statements Value} {id : Nat}
    (records : Records stores.tables entry folder rows tracked)
    (only : program.Only (Statement.Files id)) (other : id ≠ entry.messageID)
    (env : Nat → Outcome GoError) :
    Records (program.run Statement.answer env stores).2.tables entry folder rows tracked := by
  refine only.run_holds (fun next : Stores => Records next.tables entry folder rows tracked)
    (fun outcome statement stores files held => ?_) records env
  cases statement with
  | write effect =>
    exact Outcome.exec_holds (fun next : Stores => Records next.tables entry folder rows tracked)
      outcome held (held.apart files other)
  | _ => exact held

theorem bare (records : Records stores.tables entry folder rows tracked) :
    Records stores.tables entry.bare folder rows tracked :=
  ⟨records.manifest, records.listed, records.lifecycle⟩

end Records

/-- What a listing row keeps of a place. -/
def Place.key (place : Place) : GoString × Time := (place.folder, timestamp place.enteredAt)

theorem Entry.key_ne {entry other : Entry} {old new : Place} (different : old.key ≠ new.key) :
    (entry.row old).key ≠ (other.row new).key :=
  fun same => different (congrArg (fun key => (key.2.1, key.2.2.1)) same)

theorem Entry.row_congr {entry : Entry} {old new : Place} (same : old.key = new.key) :
    entry.row old = entry.row new := by
  obtain ⟨folder, enteredAt⟩ := Prod.mk.inj same
  rw [Entry.row, Entry.row, folder, enteredAt]

theorem upsert_beside {row added : MailboxRow} (different : row.key ≠ added.key) :
    Rows.upsert MailboxRow.key added [row] = [row, added] := by
  refine Rows.upsert_of_absent ?_
  intro other member
  rw [List.mem_singleton] at member
  rwa [member]

theorem remove_beside {row added : MailboxRow} (different : row.key ≠ added.key) :
    Rows.remove MailboxRow.key row.key [row, added] = [added] := by
  simp [Rows.remove, different.symm]

section Moves

variable {lib : Library} {service : Service} {env : Nat → Outcome GoError} {stores after : Stores}
  {mf : Manifest} {old new : Place} {userID messageID : Nat} {result : MoveResult}

theorem execBlindly_value {Value : Type} (value : Value) (writes : List Write) :
    ((execBlindly value writes).run Statement.answer env stores).1 = value := by
  induction writes generalizing env stores with
  | nil => rfl
  | cons write rest ih => exact ih

theorem execBlindly_keeps {Value Part : Type} (part : Tables → Part) (value : Value)
    {writes : List Write}
    (elsewhere : ∀ write ∈ writes, ∀ tables, part (write.onTables tables) = part tables) :
    part ((execBlindly value writes).run Statement.answer env stores).2.tables =
      part stores.tables := by
  induction writes generalizing env stores with
  | nil => rfl
  | cons write rest ih =>
    have first : part ((env 0).exec (Stores.apply write) stores).2.tables = part stores.tables :=
      Outcome.exec_holds (fun next : Stores => part next.tables = part stores.tables) _ rfl
        (elsewhere write List.mem_cons_self stores.tables)
    refine Eq.trans ?_ first
    exact ih fun other member => elsewhere other (List.mem_cons_of_mem _ member)

theorem execBlindly_only {Value : Type} {asks : Statement → Prop} {value : Value}
    {writes : List Write} (each : ∀ write ∈ writes, asks (.write write)) :
    (execBlindly value writes).Only asks := by
  induction writes with
  | nil => trivial
  | cons write rest ih =>
    refine ⟨each write List.mem_cons_self, fun _ => ?_⟩
    exact ih fun other member => each other (List.mem_cons_of_mem _ member)

theorem announce_filing :
    filing ((announce userID messageID old new).run Statement.answer env stores).2.tables =
      filing stores.tables := by
  rw [announce, Program.run_ask]
  split
  · refine execBlindly_keeps filing _ ?_
    simp [filing, Write.onTables]
  · refine execBlindly_keeps filing _ ?_
    simp [filing, Write.onTables]

theorem write_ok {Value : Type} {write : Write} {next : Option GoError → Statements (Except GoError Value)}
    {result : Value}
    (returned : ∀ err env stores, ∃ failure, ((next (some err)).run Statement.answer env stores).1 =
      .error failure)
    (ran : (Program.ask (.write write) next : Statements (Except GoError Value)).run Statement.answer
      env stores = (.ok result, after)) :
    (next none).run Statement.answer (fun count => env (count + 1)) (stores.apply write) =
      (.ok result, after) := by
  rw [Program.run_ask] at ran
  cases reported : ((env 0).exec (Stores.apply write) stores).1 with
  | none =>
    have effect := Outcome.exec_of_error?_none reported
    rw [← effect, ← reported]
    exact ran
  | some err =>
    obtain ⟨failure, failed⟩ := returned err (fun count => env (count + 1))
      ((env 0).exec (Stores.apply write) stores).2
    have same := congrArg Prod.fst ran
    dsimp only [Statement.answer] at same
    rw [reported, failed] at same
    cases same

def relocated (lib : Library) (userID messageID : Nat) (mf : Manifest) (old new : Place)
    (stores : Stores) : Stores :=
  (((stores.apply (.insertMailboxRow (listingRow mf new))).apply
    (.updateManifestFolder mf.messageID new.folder)).apply (unlist mf old)).apply
    (.upsertMessageLifecycle
      ⟨userID, messageID, normalizeFolderName lib new.folder, new.enteredAt⟩)

theorem moveListing_announces
    (ran : (moveListing lib userID messageID mf old new).run Statement.answer env stores =
      (.ok result, after)) :
    (announce userID messageID old new).run Statement.answer (fun count => env (count + 4))
      (relocated lib userID messageID mf old new stores) = (.ok result, after) := by
  have inserted := write_ok (fun err env stores => ⟨err, rfl⟩) ran
  have updated := write_ok (fun err env stores => ⟨err, execBlindly_value _ _⟩) inserted
  have deleted := write_ok (fun err env stores => ⟨err, execBlindly_value _ _⟩) updated
  dsimp only at deleted
  rw [moveLifecycle, upsertLifecycle] at deleted
  split at deleted
  · have failed := congrArg Prod.fst deleted
    rw [Program.pure_bind, execBlindly_value] at failed
    cases failed
  dsimp only at deleted
  split at deleted
  · have failed := congrArg Prod.fst deleted
    rw [Program.pure_bind, execBlindly_value] at failed
    cases failed
  rw [Program.ask_bind] at deleted
  exact write_ok (fun err env stores => ⟨err, execBlindly_value _ _⟩) deleted

/-- The place that `locate` finds. -/
def placeFound (outcome : Outcome GoError) (tables : Tables) (userID messageID : Nat)
    (row : ManifestRow) : Place :=
  match Statement.read outcome (lifecycleOf tables userID messageID) with
  | .ok (some lc) => ⟨lc.currentFolder, lc.folderEnteredAt⟩
  | _ => ⟨row.folder, row.createdAt⟩

/-- The manifest that `getManifest` finds. -/
def manifestFound (outcome : Outcome GoError) (tables : Tables) (userID messageID : Nat) :
    Except GoError Manifest :=
  match Statement.read outcome (manifestOf tables messageID) with
  | .error err => .error err
  | .ok none => .error errNotFound
  | .ok (some row) => if row.userID ≠ userID then .error errNotFound else .ok (scanned row)

theorem manifestFound_ok {outcome : Outcome GoError} {tables : Tables}
    (found : manifestFound outcome tables userID messageID = .ok mf) :
    ∃ row, manifestOf tables messageID = some row ∧ row.userID = userID ∧ mf = scanned row := by
  unfold manifestFound Statement.read at found
  cases reported : outcome.error? with
  | some err =>
    rw [reported] at found
    cases found
  | none =>
    rw [reported] at found
    cases stored : manifestOf tables messageID with
    | none =>
      rw [stored] at found
      cases found
    | some row =>
      rw [stored] at found
      dsimp only at found
      split at found
      · cases found
      next own =>
        cases found
        exact ⟨row, rfl, not_not.mp own, rfl⟩

theorem getManifest_run {Value : Type} {next : Except GoError Manifest → Statements Value} :
    (getManifest userID messageID >>= next).run Statement.answer env stores =
      (next (manifestFound (env 0) stores.tables userID messageID)).run Statement.answer
        (fun count => env (count + 1)) stores := by
  rw [getManifest, Program.ask_bind, Program.run_ask, manifestFound]
  dsimp only [Statement.answer]
  cases Statement.read (env 0) (manifestOf stores.tables messageID) with
  | error err => rfl
  | ok row? =>
    cases row? with
    | none => rfl
    | some row =>
      dsimp only
      split <;> rfl

theorem locate_run {Value : Type} {row : ManifestRow} {next : Place → Statements Value} :
    (locate userID messageID (scanned row) >>= next).run Statement.answer env stores =
      (next (placeFound (env 0) stores.tables userID messageID row)).run Statement.answer
        (fun count => env (count + 1)) stores := by
  rw [locate, Program.ask_bind, Program.run_ask, placeFound]
  dsimp only [Statement.answer]
  cases Statement.read (env 0) (lifecycleOf stores.tables userID messageID) with
  | error err => rfl
  | ok lc? => cases lc? <;> rfl

variable {call : MoveCall}

theorem locate_only {asks : Statement → Prop} {mf : Manifest}
    (reads : asks (.selectMessageLifecycle userID messageID)) :
    (locate userID messageID mf).Only asks := by
  refine ⟨reads, fun reply => ?_⟩
  cases reply with
  | error err => trivial
  | ok lc? => cases lc? <;> trivial

/-- What a move writes, and for which message. -/
def MoveAsks (messageID : Nat) (mf : Manifest) : Statement → Prop
  | .write write =>
    write.op ∈ [Op.insertMailboxRow, .updateManifestFolder, .deleteMailboxRow,
      .upsertMessageLifecycle, .insertFlags, .appendEvent] ∧
    (mf.messageID = messageID → write.Files messageID)
  | _ => True

theorem announce_asks : (announce userID messageID old new).Only (MoveAsks messageID mf) := by
  refine ⟨trivial, fun answer => ?_⟩
  cases answer with
  | error err => exact execBlindly_only (by simp [MoveAsks, Write.op, Write.Files])
  | ok flags => exact execBlindly_only (by simp [MoveAsks, Write.op, Write.Files])

theorem moveLifecycle_asks :
    (moveLifecycle lib userID messageID mf old new).Only (MoveAsks messageID mf) := by
  rw [moveLifecycle]
  refine Program.Only.bind ?_ fun err => ?_
  · rw [upsertLifecycle]
    split
    · trivial
    · dsimp only
      split
      · trivial
      · exact ⟨by simp [MoveAsks, Write.op, Write.Files], fun _ => trivial⟩
  · cases err with
    | some err =>
      exact execBlindly_only (by simp [MoveAsks, Write.op, Write.Files, listingRow, unlist])
    | none => exact announce_asks

theorem moveListing_asks :
    (moveListing lib userID messageID mf old new).Only (MoveAsks messageID mf) := by
  have unlisting : (moveUnlist lib userID messageID mf old new).Only (MoveAsks messageID mf) := by
    refine ⟨by simp [MoveAsks, Write.op, Write.Files, unlist], fun err => ?_⟩
    cases err with
    | some err => exact execBlindly_only (by simp [MoveAsks, Write.op, Write.Files, unlist])
    | none => exact moveLifecycle_asks
  have updating : (moveManifest lib userID messageID mf old new).Only (MoveAsks messageID mf) := by
    refine ⟨by simp [MoveAsks, Write.op, Write.Files], fun err => ?_⟩
    cases err with
    | some err => exact execBlindly_only (by simp [MoveAsks, Write.op, Write.Files, unlist])
    | none => exact unlisting
  refine ⟨by simp [MoveAsks, Write.op, Write.Files, listingRow], fun err => ?_⟩
  cases err with
  | some err => trivial
  | none => exact updating

theorem moveMessage_announces
    (ran : (moveMessage service call).run Statement.answer env stores = (.ok result, after)) :
    ∃ row, manifestOf stores.tables call.messageID = some row ∧ row.userID = call.userID ∧
      (row.folder = call.target service ∧ after = stores ∨
        row.folder ≠ call.target service ∧
          (announce call.userID call.messageID
            (placeFound (env 1) stores.tables call.userID call.messageID row)
            ⟨call.target service, call.now⟩).run Statement.answer (fun count => env (count + 6))
            (relocated service.lib call.userID call.messageID
              (scanned row) (placeFound (env 1) stores.tables call.userID call.messageID row)
              ⟨call.target service, call.now⟩ stores) = (.ok result, after)) := by
  rw [moveMessage] at ran
  split at ran
  · cases ran
  dsimp only at ran
  rw [getManifest_run] at ran
  cases found : manifestFound (env 0) stores.tables call.userID call.messageID with
  | error err =>
    rw [found] at ran
    cases ran
  | ok mf =>
    obtain ⟨row, stored, owner, rfl⟩ := manifestFound_ok found
    refine ⟨row, stored, owner, ?_⟩
    rw [found] at ran
    dsimp only at ran
    split at ran
    next there =>
      cases ran
      exact .inl ⟨there, rfl⟩
    next elsewhere =>
      rw [locate_run] at ran
      exact .inr ⟨elsewhere, moveListing_announces ran⟩

theorem moveMessage_ok
    (ran : (moveMessage service call).run Statement.answer env stores = (.ok result, after)) :
    ∃ row, manifestOf stores.tables call.messageID = some row ∧ row.userID = call.userID ∧
      (row.folder = call.target service ∧ after = stores ∨
        row.folder ≠ call.target service ∧
          filing after.tables = filing (relocated service.lib call.userID call.messageID
            (scanned row) (placeFound (env 1) stores.tables call.userID call.messageID row)
            ⟨call.target service, call.now⟩ stores).tables) := by
  obtain ⟨row, stored, owner, same | ⟨elsewhere, told⟩⟩ := moveMessage_announces ran
  · exact ⟨row, stored, owner, .inl same⟩
  · refine ⟨row, stored, owner, .inr ⟨elsewhere, ?_⟩⟩
    have filed := congrArg (fun pair => filing pair.2.tables) told
    exact filed.symm.trans announce_filing

end Moves

section Keeping

variable {lib : Library} {stores after : Stores} {entry : Entry} {row : ManifestRow}
  {old new : Place}

theorem Records.of_filing {before : Tables} {later : Tables} {folder : GoString}
    {rows : List MailboxRow} {tracked : Place} (records : Records before entry folder rows tracked)
    (same : filing later = filing before) : Records later entry folder rows tracked := by
  obtain ⟨manifests, mailbox, lifecycle⟩ :
      later.manifests = before.manifests ∧ later.mailbox = before.mailbox ∧
        later.lifecycle = before.lifecycle := by
    simpa [filing] using same
  refine records.congr ?_ ?_ ?_
  · rw [manifestOf, manifests, manifestOf]
  · rw [listing, mailbox, listing]
  · rw [lifecycleOf, lifecycle, lifecycleOf]

/-- What a manifest read for someone else or for another message leads to leaves the records of
this message as they are. -/
theorem Records.getManifest {Value : Type} {userID messageID : Nat} {folder : GoString}
    {rows : List MailboxRow} {tracked : Place} {next : Except GoError Manifest → Statements Value}
    (records : Records stores.tables entry folder rows tracked)
    (other : (userID, messageID) ≠ (entry.userID, entry.messageID)) (env : Nat → Outcome GoError)
    (failed : ∀ err, ∃ value, next (.error err) = .done value)
    (onward : ∀ mf env, mf.messageID = messageID → messageID ≠ entry.messageID →
      Records ((next (.ok mf)).run Statement.answer env stores).2.tables entry folder rows tracked) :
    Records ((getManifest userID messageID >>= next).run Statement.answer env stores).2.tables entry
      folder rows tracked := by
  rw [getManifest_run]
  cases found : manifestFound (env 0) stores.tables userID messageID with
  | error err =>
    obtain ⟨value, ends⟩ := failed err
    rw [ends]
    exact records
  | ok mf =>
    obtain ⟨row, stored, owner, rfl⟩ := manifestFound_ok found
    refine onward _ _ (manifestOf_id stored) fun same => ?_
    obtain ⟨own, found, owned, -⟩ := records.manifest
    rw [same] at stored
    cases stored.symm.trans found
    exact other (Prod.ext (owner.symm.trans owned) same)

theorem Records.move {folder : GoString} {rows : List MailboxRow} {tracked : Place} {service : Service}
    {call : MoveCall} (records : Records stores.tables entry folder rows tracked)
    (other : (call.userID, call.messageID) ≠ (entry.userID, entry.messageID))
    (env : Nat → Outcome GoError) :
    Records ((moveMessage service call).run Statement.answer env stores).2.tables entry folder rows
      tracked := by
  rw [moveMessage]
  split
  · exact records
  refine records.getManifest other env (fun err => ⟨_, rfl⟩) fun mf env named apart => ?_
  dsimp only
  split
  · exact records
  refine records.run (Program.Only.bind ?_ fun old => ?_) apart env
  · exact locate_only trivial
  · refine moveListing_asks.mono fun statement asks => ?_
    cases statement with
    | write effect => exact asks.2 named
    | _ => trivial

theorem Filed.drawn {place : Place} (filed : Filed stores.tables entry place) :
    entry.messageID ≤ stores.lastID := by
  have listed : entry.row place ∈ listing stores.tables entry.messageID := by
    rw [filed.listed]
    exact List.mem_singleton_self _
  exact stores.drawn _ (List.mem_of_mem_filter listed)

theorem Filed.relocated (filed : Filed stores.tables entry old)
    (found : manifestOf stores.tables entry.messageID = some row)
    (different : old.key ≠ new.key) (fits : normalizeFolderName lib new.folder = new.folder) :
    Filed (relocated lib entry.userID entry.messageID (scanned row) old new stores).tables
      entry.bare new := by
  obtain ⟨other, found', owner, -, size, provenance⟩ := filed.manifest
  obtain rfl : row = other := Option.some.inj (found.symm.trans found')
  have id : (scanned row).messageID = entry.messageID := manifestOf_id found
  have added : listingRow (scanned row) new = entry.bare.row new := by
    rw [listingRow, id]
    simp [scanned, Entry.row, Entry.bare, owner, size, provenance]
  have dropped : unlist (scanned row) old =
      .deleteMailboxRow entry.userID old.folder (timestamp old.enteredAt) entry.messageID := by
    rw [unlist, id]
    simp [scanned, owner]
  have writes :=
    (((Records.insert filed (entry.bare.row new) rfl).update new.folder).delete old).track new
  have keys : (entry.row old).key ≠ (entry.bare.row new).key := Entry.key_ne different
  rw [upsert_beside keys, remove_beside keys] at writes
  rw [Mailops.relocated, added, dropped, fits, id]
  exact writes.bare

end Keeping

section Ingest

variable {pipe : Pipe} {conditions : Conditions} {package : Package} {stores start : Stores}
  {result : IngestResult}

/-- What `persist` lists a new message with. -/
def ingested (package : Package) (messageID : Nat) : Entry where
  userID := package.userID
  messageID
  bodySizeBytes := package.bodyCiphertext.length
  provenance := package.provenance
  hasAttachments := package.headers.attachments.length > 0

theorem insertManifest_ok {outcome : Op → Outcome GoError} {manifest : Manifest}
    (inserted : insertManifest outcome manifest stores = (none, start)) :
    ∃ row, scanned row =
        { manifest with hasAttachments := false, createdAt := timestamp manifest.createdAt } ∧
      start = ((stores.apply (.insertManifestRow row)).apply
        (.insertMailboxRow (listingRow manifest ⟨manifest.folder, manifest.createdAt⟩))).apply
        (.insertFlags
          { userID := manifest.userID
            messageID := manifest.messageID
            read := manifest.folder == folderSent }) := by
  unfold insertManifest at inserted
  split at inserted
  · cases inserted
  next first =>
  split at inserted
  · cases inserted
  next second =>
  split at inserted
  · cases inserted
  next third =>
    cases inserted
    rw [exec_of_done third, exec_of_done second, exec_of_done first]
    exact ⟨_, rfl, rfl⟩

theorem filing_appendEvent {outcome : Op → Outcome GoError} {event : EventRow} :
    filing (stores.exec outcome (.appendEvent event)).2.tables = filing stores.tables :=
  Outcome.exec_holds (fun next : Stores => filing next.tables = filing stores.tables) _ rfl rfl

theorem persistRecords_ok {messageID : Nat}
    (recorded : pipe.persistRecords conditions package messageID stores = (none, start)) :
    filing start.tables = filing (stores.apply (.upsertMessageLifecycle
      ⟨package.userID, messageID, normalizeFolderName pipe.lib package.folder,
        conditions.now⟩)).tables := by
  unfold Pipe.persistRecords upsertMessageLifecycle at recorded
  dsimp only at recorded
  split at recorded
  · cases recorded
  next optIn =>
  split at recorded
  · cases recorded
  next ledger =>
  split at recorded
  · cases recorded
  next retention =>
  split at recorded
  · cases recorded
  next lifecycle =>
  cases recorded
  split at lifecycle
  · cases lifecycle
  split at lifecycle
  · cases lifecycle
  rw [exec_of_done lifecycle, exec_of_done retention, exec_of_done ledger, exec_of_done optIn]
  rfl

theorem persist_ok (stored : pipe.persist conditions package stores = (.ok result, start)) :
    ∃ row : ManifestRow,
      (row.messageID = stores.lastID + 1 ∧ row.userID = package.userID ∧
        row.folder = package.folder ∧ row.bodySizeBytes = package.bodyCiphertext.length ∧
        row.provenance = package.provenance) ∧
      filing start.tables = filing (((stores.apply (.insertManifestRow row)).apply
        (.insertMailboxRow ((ingested package (stores.lastID + 1)).row
          ⟨package.folder, conditions.now⟩))).apply (.upsertMessageLifecycle
        ⟨package.userID, stores.lastID + 1, normalizeFolderName pipe.lib package.folder,
          conditions.now⟩)).tables := by
  unfold Pipe.persist at stored
  split at stored
  · cases stored
  dsimp only at stored
  split at stored
  · cases stored
  next put =>
  split at stored
  · cases stored
  next inserted =>
  split at stored
  · cases stored
  next recorded =>
  cases stored
  obtain ⟨row, scan, rfl⟩ := insertManifest_ok inserted
  refine ⟨row, ⟨congrArg Manifest.messageID scan, congrArg Manifest.userID scan,
    congrArg Manifest.folder scan, congrArg Manifest.bodySizeBytes scan,
    congrArg Manifest.provenance scan⟩, ?_⟩
  rw [filing_appendEvent, persistRecords_ok recorded, exec_of_done put]
  rfl

theorem persist_filed (stored : pipe.persist conditions package stores = (.ok result, start))
    (fits : normalizeFolderName pipe.lib package.folder = package.folder) :
    Filed start.tables (ingested package (stores.lastID + 1)) ⟨package.folder, conditions.now⟩ := by
  obtain ⟨row, ⟨id, owner, folder, size, provenance⟩, same⟩ := persist_ok stored
  refine Records.of_filing ?_ same
  rw [fits]
  have unlisted : listing stores.tables (stores.lastID + 1) = [] := by
    rw [listing, List.filter_eq_nil_iff]
    intro listed member
    have drawn := stores.drawn listed member
    simp only [decide_eq_true_eq]
    omega
  refine ⟨⟨row, ?_, owner, folder, size, provenance⟩, ?_, lifecycleOf_upsert⟩
  · have found : Rows.find ManifestRow.messageID row.messageID
        (Rows.upsert ManifestRow.messageID row stores.tables.manifests) = some row :=
      Rows.find_upsert_self
    rw [id] at found
    exact found
  · have added := listing_insert stores
      ((ingested package (stores.lastID + 1)).row ⟨package.folder, conditions.now⟩)
    rw [Entry.row, ingested, unlisted] at added
    exact added

theorem Records.persist {entry : Entry} {folder : GoString} {rows : List MailboxRow}
    {tracked : Place} {answer : Except GoError IngestResult}
    (records : Records stores.tables entry folder rows tracked)
    (ended : pipe.persist conditions package stores = (answer, start))
    (earlier : entry.messageID ≤ stores.lastID) :
    Records start.tables entry folder rows tracked := by
  rcases persist_issued ended with rfl | ⟨err, stored, put, issued⟩
  · exact records
  have written : Records (stores.draw.exec conditions.outcome (.putBlob
      (mailBodyKey package.userID (stores.lastID + 1)) package.bodyCiphertext)).2.tables entry folder
      rows tracked :=
    Outcome.exec_holds (fun next : Stores => Records next.tables entry folder rows tracked) _ records
      (records.congr rfl rfl rfl)
  rw [put] at written
  refine issued.holds (fun tables => Records tables entry folder rows tracked) written ?_
  intro write _ files tables held
  exact held.apart files (by omega)

end Ingest

/-- An operation that runs without another in between, with how its statements end. -/
inductive Operation where
  | persist (conditions : Conditions) (package : Package)
  | move (call : MoveCall) (env : Nat → Outcome GoError)
  | trash (userID messageID : Nat) (now : Time) (env : Nat → Outcome GoError)

/-- Successful operations one after another. `trash` is `apiMailMessageDelete` as far as
it moves messages to the trash. -/
def operations (pipe : Pipe) (service : Service) : Machine Stores Operation where
  step := fun stores operation =>
    match operation with
    | .persist conditions package =>
      match pipe.persist conditions package stores with
      | (.ok _, after) => some after
      | (.error _, _) => none
    | .move call env =>
      match (moveMessage service call).run Statement.answer env stores with
      | (.ok _, after) => some after
      | (.error _, _) => none
    | .trash userID messageID now env =>
      match (apiMailMessageDelete service false userID messageID now).run Statement.answer env
        stores with
      | (.ok (.trashed _), after) => some after
      | (_, _) => none

variable (service : Service)

/-- The moves after which the stores still agree on a message: the folder's name fits
the lifecycle row, the clock shows a whole number of milliseconds, which is all that the
listing row keeps, the message has no attachments to lose, and its old row is
found, because the lifecycle row can be read or because it says the same as
the manifest. -/
def MoveKeeps (tables : Tables) (userID messageID : Nat) (target : GoString) (now : Time)
    (reading : Outcome GoError) : Prop :=
  ∀ row, manifestOf tables messageID = some row → row.folder = target ∨
    normalizeFolderName service.lib target = target ∧ timestamp now = now ∧
      (∀ listed ∈ listing tables messageID, listed.hasAttachments = false) ∧
      (reading.error? = none ∨ lifecycleOf tables userID messageID =
        some ⟨userID, messageID, row.folder, row.createdAt⟩)

/-- The operation does not move this message, or `MoveKeeps` holds of the move. -/
def Keeps (messageID : Nat) (stores : Stores) : Operation → Prop
  | .persist .. => True
  | .move call env =>
    call.messageID = messageID →
      MoveKeeps service stores.tables call.userID messageID (call.target service) call.now (env 1)
  | .trash userID id now env =>
    id = messageID → MoveKeeps service stores.tables userID messageID folderTrash now (env 2)

section Runs

variable {service} {pipe : Pipe} {stores after : Stores} {entry : Entry} {call : MoveCall}
  {env : Nat → Outcome GoError} {result : MoveResult}

theorem placeFound_filed {place : Place} {row : ManifestRow} {reading : Outcome GoError}
    (filed : Filed stores.tables entry place)
    (read : reading.error? = none ∨ lifecycleOf stores.tables entry.userID entry.messageID =
      some ⟨entry.userID, entry.messageID, row.folder, row.createdAt⟩) :
    placeFound reading stores.tables entry.userID entry.messageID row = place := by
  rw [placeFound, filed.lifecycle]
  cases reported : reading.error? with
  | none =>
    rw [Statement.read, reported]
  | some err =>
    rw [Statement.read, reported]
    rcases read with healthy | written
    · rw [reported] at healthy
      cases healthy
    · rw [filed.lifecycle, Option.some.injEq, MessageLifecycle.mk.injEq] at written
      obtain ⟨-, -, folder, enteredAt⟩ := written
      rw [← folder, ← enteredAt]

theorem agree_move (agree : Agree stores.tables entry)
    (keeps : call.messageID = entry.messageID → MoveKeeps service stores.tables call.userID
      entry.messageID (call.target service) call.now (env 1))
    (ran : (moveMessage service call).run Statement.answer env stores = (.ok result, after)) :
    Agree after.tables entry := by
  obtain ⟨place, filed, whole⟩ := agree
  obtain ⟨row, found, owner, ⟨there, rfl⟩ | ⟨elsewhere, same⟩⟩ := moveMessage_ok ran
  · exact ⟨place, filed, whole⟩
  by_cases own : call.messageID = entry.messageID
  · rw [own] at found same
    obtain ⟨other, found', owner', folder, -⟩ := filed.manifest
    obtain rfl : row = other := Option.some.inj (found.symm.trans found')
    rw [← owner, owner'] at same keeps
    obtain there | ⟨fits, whole, plain, read⟩ := keeps own row found
    · exact absurd there elsewhere
    rw [placeFound_filed filed read] at same
    have bare : entry.bare = entry := by
      have listed : entry.row place ∈ listing stores.tables entry.messageID := by
        rw [filed.listed]
        exact List.mem_singleton_self _
      have none : entry.hasAttachments = false := plain _ listed
      rw [Entry.bare, ← none]
    have different : place.key ≠ Place.key ⟨call.target service, call.now⟩ :=
      fun equal => elsewhere (folder.trans (Prod.mk.inj equal).1)
    generalize call.target service = target at *
    have moved : Filed _ entry.bare ⟨target, call.now⟩ := filed.relocated found different fits
    rw [bare] at moved
    exact ⟨_, moved.of_filing same, whole⟩
  · have moved : Records ((moveMessage service call).run Statement.answer env stores).2.tables entry
        place.folder [entry.row place] place :=
      Records.move filed (fun same => own (congrArg Prod.snd same)) env
    rw [ran] at moved
    exact ⟨place, moved, whole⟩

theorem trash_target : trimSpace (toLower service.lib folderTrash) = folderTrash := by
  have decoded : runes folderTrash = folderTrash.map fun byte => ⟨byte.toNat, [byte]⟩ := by
    decide
  have lowered : toLower service.lib folderTrash = folderTrash := by
    rw [toLower, decoded]
    rfl
  rw [lowered]
  decide

theorem moved_of_trashed {permanent : Bool} {userID messageID : Nat} {now : Time}
    (ran : (apiMailMessageDelete service permanent userID messageID now).run Statement.answer env
      stores = (.ok (.trashed result), after)) :
    (moveMessage service ⟨userID, messageID, folderTrash, now, .ok []⟩).run Statement.answer
      (fun count => env (count + 1)) stores = (.ok result, after) := by
  have kept {env : Nat → Outcome GoError}
      (ran : (deletePermanent service userID messageID now >>= fun deleted =>
        (.done (deleted.map Deletion.permanent) : Statements (Except GoError Deletion))).run
          Statement.answer env stores = (.ok (.trashed result), after)) : False := by
    rw [Program.run_map] at ran
    have value := congrArg Prod.fst ran
    dsimp only at value
    cases ended : ((deletePermanent service userID messageID now).run Statement.answer env
        stores).1 with
    | error err =>
      rw [ended] at value
      cases value
    | ok deleted =>
      rw [ended] at value
      cases value
  unfold apiMailMessageDelete at ran
  dsimp only at ran
  split at ran
  · exact (kept ran).elim
  rw [getManifest_run] at ran
  cases found : manifestFound (env 0) stores.tables userID messageID with
  | error err =>
    rw [found] at ran
    cases ran
  | ok mf =>
    obtain ⟨row, stored, -, rfl⟩ := manifestFound_ok found
    have id : (scanned row).messageID = messageID := manifestOf_id stored
    rw [found] at ran
    dsimp only at ran
    rw [id] at ran
    split at ran
    · exact (kept ran).elim
    rw [Program.run_map] at ran
    rcases ended : (moveMessage service ⟨userID, messageID, folderTrash, now, .ok []⟩).run
      Statement.answer (fun count => env (count + 1)) stores with ⟨answer, later⟩
    rw [ended] at ran
    cases answer with
    | error err => cases ran
    | ok moved =>
      cases ran
      rfl

theorem agree_trash {userID messageID : Nat} {now : Time} (agree : Agree stores.tables entry)
    (keeps : messageID = entry.messageID → MoveKeeps service stores.tables userID
      entry.messageID folderTrash now (env 2))
    (ran : (apiMailMessageDelete service false userID messageID now).run Statement.answer env
      stores = (.ok (.trashed result), after)) : Agree after.tables entry := by
  have ended := moved_of_trashed ran
  generalize callIs : MoveCall.mk userID messageID folderTrash now (.ok []) = call at ended
  have target : call.target service = folderTrash := by
    rw [← callIs]
    exact trash_target
  have id : call.messageID = messageID := by rw [← callIs]
  have user : call.userID = userID := by rw [← callIs]
  have clock : call.now = now := by rw [← callIs]
  refine agree_move agree ?_ ended
  rw [target, id, user, clock]
  exact keeps

end Runs

/-- After an ingest into a folder whose name fits, at a whole number of milliseconds, the stores
agree on the message as long as every operation keeps it so, and it is listed as it was
ingested. -/
theorem stores_agree (pipe : Pipe) (service : Service) (conditions : Conditions) (package : Package)
    (result : IngestResult) (stores start final : Stores)
    (stored : pipe.persist conditions package stores = (.ok result, start))
    (fits : normalizeFolderName pipe.lib package.folder = package.folder)
    (whole : timestamp conditions.now = conditions.now)
    (runs : (operations pipe service).Runs (Keeps service (stores.lastID + 1)) start final) :
    Agree final.tables (ingested package (stores.lastID + 1)) := by
  have start : Agree start.tables (ingested package (stores.lastID + 1)) :=
    ⟨⟨package.folder, conditions.now⟩, persist_filed stored fits, whole⟩
  refine runs.invariant (fun stores => Agree stores.tables _) start ?_
  intro stores operation next agree keeps taken
  cases operation with
  | persist conditions package =>
    obtain ⟨place, filed, whole⟩ := agree
    dsimp only [operations] at taken
    split at taken
    next ended =>
      cases taken
      exact ⟨place, Records.persist filed ended filed.drawn, whole⟩
    · cases taken
  | move call env =>
    dsimp only [operations] at taken
    split at taken
    next ended =>
      cases taken
      exact agree_move agree keeps ended
    · cases taken
  | trash userID messageID now env =>
    dsimp only [operations] at taken
    split at taken
    next ended =>
      cases taken
      exact agree_trash agree keeps ended
    · cases taken

def sampleService : Service := ⟨true, true, true, .plain⟩

/-- A call that moves the first message of the small installation. -/
def sampleMove (targetFolder : GoString) (now : Time) : MoveCall :=
  ⟨1, 1, targetFolder, now, .ok []⟩

def sampleStored (package : Package) : Stores :=
  (samplePipe.persist (sampleConditions none) package emptyStores).2

theorem sample_stored : samplePipe.persist (sampleConditions none) samplePackage emptyStores =
    (.ok
      { userID := 1
        messageID := 1
        folder := folderInbox
        bodyBlobRef := mailBodyKey 1 1
        provenance := provenanceAlreadyEncrypted
        sizeBytes := 27 }, sampleStored samplePackage) :=
  Prod.ext (by decide) rfl

/-- A message that is archived and then put into the trash is listed there alone, as
it was ingested. -/
theorem stores_agree_trashed :
    Agree ((operations samplePipe sampleService).after
        [.move (sampleMove folderArchive 5000) fun _ => .done, .trash 1 1 7000 fun _ => .done]
        (sampleStored samplePackage)).tables (ingested samplePackage 1) ∧
      listing ((operations samplePipe sampleService).after
        [.move (sampleMove folderArchive 5000) fun _ => .done, .trash 1 1 7000 fun _ => .done]
        (sampleStored samplePackage)).tables 1 =
        [(ingested samplePackage 1).row ⟨folderTrash, 7000⟩] := by
  refine ⟨?_, by decide⟩
  refine stores_agree samplePipe sampleService (sampleConditions none) samplePackage _ emptyStores
    (sampleStored samplePackage) _ sample_stored (by decide) (by decide) (Machine.after_runs _ ?_)
  refine ⟨fun _ row _ => .inr ⟨by decide, by decide, by decide, .inl rfl⟩,
    fun _ row _ => .inr ⟨by decide, by decide, by decide, .inl rfl⟩, trivial⟩

def attachedPackage : Package :=
  { samplePackage with headers := { attachments := [⟨ascii "a.pdf", ascii "application/pdf", 9⟩] } }

/-- A message with an attachment that is archived is listed without one. -/
theorem attachments_lost :
    (samplePipe.persist (sampleConditions none) attachedPackage emptyStores).1.isOk = true ∧
    ((operations samplePipe sampleService).step (sampleStored attachedPackage)
      (.move (sampleMove folderArchive 5000) fun _ => .done)).isSome = true ∧
    ¬Agree ((operations samplePipe sampleService).after
      [.move (sampleMove folderArchive 5000) fun _ => .done] (sampleStored attachedPackage)).tables
      (ingested attachedPackage 1) := by
  refine ⟨by decide, by decide, ?_⟩
  rintro ⟨place, filed, -⟩
  have listed : listing ((operations samplePipe sampleService).after
      [.move (sampleMove folderArchive 5000) fun _ => .done] (sampleStored attachedPackage)).tables 1 =
      [(ingested attachedPackage 1).bare.row ⟨folderArchive, 5000⟩] := by
    decide
  have same := listed.symm.trans filed.listed
  cases congrArg (fun rows => rows.map MailboxRow.hasAttachments) same

end ElvishMail.Mailops
