import ElvishMail.Mailops.Agreement

/-!
# Where messages are placed

What ingests, moves and deletes do to the folder of a message. A message is placed in a
folder when its manifest and its lifecycle row name the folder and a row lists it there;
it may be listed elsewhere as well.
-/

namespace ElvishMail.Mailops

open Go Smtp Mailmeta Mailstore Mailpipe Semantics

/-- The message is in the folder in all three tables. -/
def Placed (tables : Tables) (userID messageID : Nat) (folder : GoString) : Prop :=
  ∃ entry rows tracked, (entry.userID = userID ∧ entry.messageID = messageID) ∧
    Records tables entry folder rows tracked ∧ tracked.folder = folder ∧
    ∃ row ∈ rows, row.userID = userID ∧ row.folder = folder ∧ 0 ≤ row.receivedAt

section Placing

variable {service : Service} {env : Nat → Outcome GoError} {stores after : Stores}
  {userID messageID : Nat} {folder : GoString}

theorem Placed.manifest {tables : Tables} (placed : Placed tables userID messageID folder) :
    ∃ row, manifestOf tables messageID = some row ∧ row.userID = userID ∧ row.folder = folder := by
  obtain ⟨entry, rows, tracked, ⟨rfl, rfl⟩, records, -, -⟩ := placed
  obtain ⟨row, found, owner, filed, -, -⟩ := records.manifest
  exact ⟨row, found, owner, filed⟩

theorem Placed.listed {tables : Tables} (placed : Placed tables userID messageID folder) :
    ∃ row ∈ tables.mailbox, row.messageID = messageID ∧ row.userID = userID ∧
      row.folder = folder ∧ 0 ≤ row.receivedAt := by
  obtain ⟨entry, rows, tracked, ⟨-, rfl⟩, records, -, row, member, owner, filed, late⟩ := placed
  rw [← records.listed, listing, List.mem_filter, decide_eq_true_eq] at member
  exact ⟨row, member.1, member.2, owner, filed, late⟩

theorem Placed.drawn (placed : Placed stores.tables userID messageID folder) :
    messageID ≤ stores.lastID := by
  obtain ⟨row, member, rfl, -⟩ := placed.listed
  exact stores.drawn row member

variable {pipe : Pipe} {conditions : Conditions} {package : Package} {result : IngestResult}

theorem placed_of_persist (stored : pipe.persist conditions package stores = (.ok result, after))
    (fits : normalizeFolderName pipe.lib package.folder = package.folder)
    (clock : 0 ≤ conditions.now) :
    result.userID = package.userID ∧ result.dropped = false ∧
      Placed after.tables package.userID result.messageID package.folder := by
  have filed := persist_filed stored fits
  have named := persist_result stored
  refine ⟨named.1, named.2.1, ?_⟩
  rw [named.2.2]
  refine ⟨_, _, _, ⟨rfl, rfl⟩, filed, rfl, ?_⟩
  exact ⟨_, List.mem_singleton_self _, rfl, rfl, timestamp_nonneg clock⟩

theorem Placed.keep {tables later : Tables} (placed : Placed tables userID messageID folder)
    (kept : ∀ entry rows tracked, (userID, messageID) = (entry.userID, entry.messageID) →
      Records tables entry folder rows tracked → Records later entry folder rows tracked) :
    Placed later userID messageID folder := by
  obtain ⟨entry, rows, tracked, ⟨rfl, rfl⟩, records, there, listed⟩ := placed
  exact ⟨entry, rows, tracked, ⟨rfl, rfl⟩, kept entry rows tracked rfl records, there, listed⟩

/-- An ingest leaves the messages that are there in their places, also when it fails. -/
theorem Placed.persist {answer : Except GoError IngestResult}
    (placed : Placed stores.tables userID messageID folder)
    (ended : pipe.persist conditions package stores = (answer, after)) :
    Placed after.tables userID messageID folder :=
  placed.keep fun _ _ _ same records =>
    records.persist ended ((congrArg Prod.snd same).symm.trans_le placed.drawn)

variable {call : MoveCall} {moved : MoveResult}

theorem accepted_of_moved
    (ran : (moveMessage service call).run Statement.answer env stores = (.ok moved, after)) :
    call.refusal service = none := by
  cases refused : call.refusal service with
  | none => rfl
  | some err =>
    rw [moveMessage, refused] at ran
    cases ran

theorem target_of_moved
    (ran : (moveMessage service call).run Statement.answer env stores = (.ok moved, after)) :
    call.target service ∈ standardFolders ∨ ∃ stored, call.folders = .ok stored ∧
      userHasFolder service.lib stored call.userID (call.target service) = true := by
  have accepted := accepted_of_moved ran
  unfold MoveCall.refusal at accepted
  split at accepted
  · cases accepted
  dsimp only at accepted
  split at accepted
  · cases accepted
  split at accepted
  next standard => exact .inl (by simpa using standard)
  split at accepted
  · cases accepted
  next stored found =>
  split at accepted
  next has => exact .inr ⟨stored, found, has⟩
  · cases accepted

/-- A move that succeeds leaves the message in its place, or moved it. -/
theorem Placed.move (placed : Placed stores.tables userID messageID folder)
    (ran : (moveMessage service call).run Statement.answer env stores = (.ok moved, after))
    (fits : normalizeFolderName service.lib (call.target service) = call.target service)
    (clock : 0 ≤ call.now) :
    Placed after.tables userID messageID folder ∨
      call.userID = userID ∧ Placed after.tables userID messageID (call.target service) := by
  obtain ⟨row, found, owner, ⟨-, rfl⟩ | ⟨elsewhere, same⟩⟩ := moveMessage_ok ran
  · exact .inl placed
  obtain ⟨entry, rows, tracked, ⟨rfl, rfl⟩, records, there, listed⟩ := placed
  by_cases own : call.messageID = entry.messageID
  · right
    rw [own] at found same
    obtain ⟨other, found', owner', filed, size, provenance⟩ := records.manifest
    obtain rfl : row = other := Option.some.inj (found.symm.trans found')
    have user : call.userID = entry.userID := owner.symm.trans owner'
    rw [user] at same
    refine ⟨user, ?_⟩
    have old : (placeFound (env 1) stores.tables entry.userID entry.messageID row).folder = folder := by
      rw [placeFound, records.lifecycle, Statement.read]
      cases (env 1).error? with
      | none => exact there
      | some err => exact filed
    generalize placeFound (env 1) stores.tables entry.userID entry.messageID row = source at same old
    have id : (scanned row).messageID = entry.messageID := manifestOf_id found
    have owned : (scanned row).userID = entry.userID := owner'
    have writes := (((records.insert (listingRow (scanned row) ⟨call.target service, call.now⟩) id).update
      (call.target service)).delete source).track ⟨call.target service, call.now⟩
    rw [Mailops.relocated, unlist, id, owned] at same
    dsimp only at same
    rw [fits] at same
    refine ⟨entry, _, _, ⟨rfl, rfl⟩, writes.of_filing same, rfl,
      listingRow (scanned row) ⟨call.target service, call.now⟩, ?_, owned, rfl,
      timestamp_nonneg clock⟩
    rw [Rows.remove, List.mem_filter]
    refine ⟨List.mem_append_right _ (List.mem_singleton_self _), ?_⟩
    rw [decide_eq_true_eq]
    intro keys
    have names : call.target service = source.folder := congrArg (fun key => key.2.1) keys
    exact elsewhere (filed.trans (old.symm.trans names.symm))
  · left
    have kept := @Records.move stores entry folder rows tracked service call records
      (fun same => own (congrArg Prod.snd same)) env
    rw [ran] at kept
    exact ⟨entry, rows, tracked, ⟨rfl, rfl⟩, kept, there, listed⟩

theorem execAll_only {asks : Statement → Prop} {writes : List Write}
    (each : ∀ write ∈ writes, asks (.write write)) : (execAll writes).Only asks := by
  induction writes with
  | nil => trivial
  | cons write rest ih =>
    refine ⟨each write List.mem_cons_self, fun reply => ?_⟩
    cases reply with
    | some err => trivial
    | none =>
      exact ih fun other member => each other (List.mem_cons_of_mem _ member)

theorem getManifest_only {asks : Statement → Prop} (reads : asks (.selectManifest messageID)) :
    (getManifest userID messageID).Only asks := by
  refine ⟨reads, fun reply => ?_⟩
  cases reply with
  | error err => trivial
  | ok row? =>
    cases row? with
    | none => trivial
    | some row =>
      dsimp only
      split <;> trivial

theorem purge_files {mf : Manifest} {place : Place} {now : Time} :
    (purge userID messageID mf place now).Only (Statement.Files messageID) := by
  refine (execAll_only (by simp [rowDeletes, Statement.Files, Write.Files])).bind fun failed => ?_
  cases failed with
  | some err => trivial
  | none =>
    refine ⟨trivial, fun reply => ?_⟩
    cases reply with
    | none => exact ⟨trivial, fun _ => trivial⟩
    | some err =>
      dsimp only
      split
      · exact ⟨trivial, fun _ => trivial⟩
      · trivial

variable {entry : Entry} {rows : List MailboxRow} {tracked : Place} {now : Time}

theorem Records.deletePermanent (records : Records stores.tables entry folder rows tracked)
    (other : (userID, messageID) ≠ (entry.userID, entry.messageID)) (env : Nat → Outcome GoError) :
    Records ((Mailops.deletePermanent service userID messageID now).run Statement.answer env
      stores).2.tables entry folder rows tracked := by
  rw [Mailops.deletePermanent]
  split
  · exact records
  refine records.getManifest other env (fun err => ⟨_, rfl⟩) fun mf env _ apart => ?_
  exact records.run ((locate_only trivial).bind fun place => purge_files) apart env

/-- A delete leaves every other message in its place, also when it fails. -/
theorem Records.apiMailMessageDelete {permanent : Bool}
    (records : Records stores.tables entry folder rows tracked)
    (other : (userID, messageID) ≠ (entry.userID, entry.messageID)) (env : Nat → Outcome GoError) :
    Records ((Mailops.apiMailMessageDelete service permanent userID messageID now).run Statement.answer
      env stores).2.tables entry folder rows tracked := by
  rw [Mailops.apiMailMessageDelete]
  dsimp only
  split
  · rw [Program.run_map]
    exact records.deletePermanent other env
  refine records.getManifest other env (fun err => ⟨_, rfl⟩) fun mf env named _ => ?_
  dsimp only
  rw [named]
  split
  · rw [Program.run_map]
    exact records.deletePermanent other env
  · rw [Program.run_map]
    exact Records.move records other env

end Placing

end ElvishMail.Mailops
