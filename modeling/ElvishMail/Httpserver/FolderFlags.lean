import ElvishMail.Httpserver.Reachability

/-!
# Flags that follow the folder

`updateFolderFlags` of `internal/mailops/service.go` sets the flags `deleted` and `archived`
of a message that is moved, as far as the flags can be read and written. `InsertManifest`
clears both flags of a new message, also of one that a rule files in the trash or in the
archive.
-/

namespace ElvishMail.Httpserver

open Go Smtp Mailmeta Mailstore Mailops Mailpipe Semantics

/-- A call on the stores, with how its statements end. -/
inductive Filing where
  | ingest (call : IngestCall) (conditions : Conditions)
  | move (call : MoveCall) (env : Nat → Outcome GoError)

/-- Successful ingests and moves, one after another. -/
def filings (pipe : Pipe) : Machine Stores Filing where
  step := fun stores filing =>
    match filing with
    | .ingest call conditions =>
      match call.run pipe conditions stores with
      | (.ok _, after) => some after
      | (.error _, _) => none
    | .move call env =>
      match (moveMessage (operating pipe) call).run Statement.answer env stores with
      | (.ok _, after) => some after
      | (.error _, _) => none

def FlagsRow.Names (flags : FlagsRow) (folder : GoString) : Prop :=
  flags.deleted = (folder == folderTrash) ∧ flags.archived = (folder == folderArchive)

/-- Every message has a row of flags that agrees with its folder. -/
def Flagged (tables : Tables) : Prop :=
  ∀ messageID row, manifestOf tables messageID = some row →
    ∃ flags, flagsOf tables row.userID messageID = some flags ∧ FlagsRow.Names flags row.folder

/-- The other flags and the labels stay. -/
def MarksKept (before after : Tables) : Prop :=
  ∀ userID messageID flags, flagsOf before userID messageID = some flags →
    ∃ later, flagsOf after userID messageID = some later ∧
      later.read = flags.read ∧ later.starred = flags.starred ∧ later.labels = flags.labels

def Plain (folder : GoString) : Prop := folder ≠ folderTrash ∧ folder ≠ folderArchive

instance (folder : GoString) : Decidable (Plain folder) := inferInstanceAs (Decidable (_ ∧ _))

/-- A message is ingested into a folder that no flag names. A message is moved from and to
such folders, or its flags are read and written, by the seventh and eighth statement. -/
def FlagsFollow (pipe : Pipe) (stores : Stores) : Filing → Prop
  | .ingest call conditions => ∀ package, call.intake pipe conditions = .ok (.kept package) →
      Plain package.folder
  | .move call env => ∀ row, manifestOf stores.tables call.messageID = some row →
      row.folder = call.target (operating pipe) ∨
        Plain row.folder ∧ Plain (call.target (operating pipe)) ∨
        (env 6).error? = none ∧ (env 7).applied = true

section Filings

variable {pipe : Pipe} {stores after : Stores} {userID messageID : Nat}

/-- The key of `message_flags_by_user`. -/
def flagsKey (row : FlagsRow) : Nat × Nat := (row.userID, row.messageID)

theorem flagsOf_upsert {before later : Tables} {row : FlagsRow}
    (written : later.flags = Rows.upsert flagsKey row before.flags) :
    flagsOf later row.userID row.messageID = some row := by
  rw [flagsOf, written]
  exact Rows.find_upsert_self

theorem flagsOf_upsert_of_ne {before later : Tables} {row : FlagsRow}
    (written : later.flags = Rows.upsert flagsKey row before.flags)
    (other : (userID, messageID) ≠ (row.userID, row.messageID)) :
    flagsOf later userID messageID = flagsOf before userID messageID := by
  rw [flagsOf, written]
  exact Rows.find_upsert_of_ne other

theorem Plain.names {flags : FlagsRow} {folder : GoString} (plain : Plain folder) :
    FlagsRow.Names flags folder ↔ flags.deleted = false ∧ flags.archived = false := by
  rw [FlagsRow.Names, beq_eq_false_iff_ne.mpr plain.1, beq_eq_false_iff_ne.mpr plain.2]

theorem persist_flags {conditions : Conditions} {package : Package} {result : IngestResult}
    (stored : pipe.persist conditions package stores = (.ok result, after)) :
    ∃ row : ManifestRow, row.messageID = stores.lastID + 1 ∧ row.userID = package.userID ∧
      row.folder = package.folder ∧
      after.tables.manifests = Rows.upsert ManifestRow.messageID row stores.tables.manifests ∧
      after.tables.flags = Rows.upsert flagsKey
        { userID := package.userID
          messageID := stores.lastID + 1
          read := package.folder == folderSent } stores.tables.flags := by
  obtain ⟨row, ⟨id, user, folder, -, -⟩, filed⟩ := persist_ok stored
  refine ⟨row, id, user, folder, congrArg Prod.fst filed, ?_⟩
  unfold Pipe.persist at stored
  split at stored
  · cases stored
  dsimp only at stored
  split at stored
  · cases stored
  next put =>
  split at stored
  · cases stored
  next inserted =>
  split at stored
  · cases stored
  next recorded =>
  cases stored
  obtain ⟨_, -, rfl⟩ := insertManifest_ok inserted
  have event : ∀ {stores : Stores} {event : EventRow},
      (stores.exec conditions.outcome (.appendEvent event)).2.tables.flags = stores.tables.flags :=
    Outcome.exec_holds (fun next : Stores => next.tables.flags = _) _ rfl rfl
  rw [event, flags_persistRecords recorded, exec_of_done put]
  rfl

theorem Flagged.persist (flagged : Flagged stores.tables) {conditions : Conditions}
    {package : Package} {result : IngestResult} (plain : Plain package.folder)
    (stored : pipe.persist conditions package stores = (.ok result, after)) : Flagged after.tables := by
  obtain ⟨row, id, user, folder, manifests, flags⟩ := persist_flags stored
  intro messageID other found
  rw [manifestOf, manifests] at found
  by_cases fresh : messageID = row.messageID
  · subst fresh
    rw [Rows.find_upsert_self] at found
    cases found
    have own := flagsOf_upsert flags
    rw [user, id, folder]
    exact ⟨_, own, plain.names.mpr ⟨rfl, rfl⟩⟩
  · rw [Rows.find_upsert_of_ne fresh] at found
    obtain ⟨mine, there, names⟩ := flagged messageID other found
    refine ⟨mine, (flagsOf_upsert_of_ne flags fun same => fresh ?_).trans there, names⟩
    exact (congrArg Prod.snd same).trans id.symm

/-- The flags that `updateFolderFlags` writes. -/
def reflagged (tables : Tables) (userID messageID : Nat) (folder : GoString) : FlagsRow :=
  { (flagsOf tables userID messageID).getD { userID, messageID, read := false } with
    userID
    messageID
    deleted := folder == folderTrash
    archived := folder == folderArchive }

theorem announce_flags {env : Nat → Outcome GoError} {old new : Place} :
    ((announce userID messageID old new).run Statement.answer env stores).2.tables.flags =
      if (env 0).error? = none ∧ (env 1).applied = true then
        Rows.upsert flagsKey
          (reflagged stores.tables userID messageID new.folder) stores.tables.flags
      else stores.tables.flags := by
  rw [announce, Program.run_ask]
  dsimp only [Statement.answer, Statement.read]
  cases (env 0).error? with
  | some err =>
    rw [if_neg (by simp)]
    exact execBlindly_keeps Tables.flags _ (by simp [Write.onTables])
  | none =>
    dsimp only
    rw [execBlindly, Program.run_ask]
    refine (execBlindly_keeps Tables.flags _ (by simp [Write.onTables])).trans ?_
    dsimp only [Statement.answer, Outcome.exec]
    cases (env 1).applied with
    | true => rfl
    | false => rfl

theorem moveMessage_flags {service : Service} {call : MoveCall} {env : Nat → Outcome GoError}
    {result : MoveResult}
    (ran : (moveMessage service call).run Statement.answer env stores = (.ok result, after)) :
    ∃ row, manifestOf stores.tables call.messageID = some row ∧ row.userID = call.userID ∧
      (row.folder = call.target service ∧ after = stores ∨
        after.tables.manifests = Rows.upsert ManifestRow.messageID (row.refiled (call.target service))
            stores.tables.manifests ∧
          after.tables.flags =
            if (env 6).error? = none ∧ (env 7).applied = true then
              Rows.upsert flagsKey
                (reflagged stores.tables call.userID call.messageID (call.target service))
                stores.tables.flags
            else stores.tables.flags) := by
  obtain ⟨row, stored, owner, same | ⟨elsewhere, told⟩⟩ := moveMessage_announces ran
  · exact ⟨row, stored, owner, .inl same⟩
  · refine ⟨row, stored, owner, .inr ⟨?_, ?_⟩⟩
    · have filed := congrArg (fun pair => (filing pair.2.tables).1) told
      refine filed.symm.trans ((congrArg Prod.fst announce_filing).trans ?_)
      have id : row.messageID = call.messageID := manifestOf_id stored
      simp only [filing, relocated, Stores.apply, Write.onTables, scanned, unlist]
      rw [id, ← manifestOf, stored]
      rfl
    · exact (congrArg (fun pair => pair.2.tables.flags) told).symm.trans announce_flags

theorem move_marks {service : Service} {call : MoveCall} {env : Nat → Outcome GoError}
    {result : MoveResult}
    (ran : (moveMessage service call).run Statement.answer env stores = (.ok result, after)) :
    MarksKept stores.tables after.tables := by
  intro userID messageID flags found
  obtain ⟨row, -, -, ⟨-, rfl⟩ | ⟨-, written⟩⟩ := moveMessage_flags ran
  · exact ⟨flags, found, rfl, rfl, rfl⟩
  split at written
  · by_cases own : (userID, messageID) = (call.userID, call.messageID)
    · cases own
      refine ⟨_, flagsOf_upsert written, ?_⟩
      rw [reflagged, found]
      exact ⟨rfl, rfl, rfl⟩
    · exact ⟨flags, (flagsOf_upsert_of_ne written own).trans found, rfl, rfl, rfl⟩
  · refine ⟨flags, ?_, rfl, rfl, rfl⟩
    rwa [flagsOf, written]

theorem Flagged.move (flagged : Flagged stores.tables) {call : MoveCall}
    {env : Nat → Outcome GoError} {result : MoveResult}
    (follow : FlagsFollow pipe stores (.move call env))
    (ran : (moveMessage (operating pipe) call).run Statement.answer env stores = (.ok result, after)) :
    Flagged after.tables := by
  obtain ⟨row, stored, owner, ⟨-, rfl⟩ | ⟨manifests, written⟩⟩ := moveMessage_flags ran
  · exact flagged
  have id : row.messageID = call.messageID := manifestOf_id stored
  intro messageID other found
  rw [manifestOf, manifests] at found
  by_cases own : messageID = call.messageID
  · subst own
    have refiled : row.refiled (call.target (operating pipe)) = other := by
      rw [← id] at found
      exact Option.some.inj ((Rows.find_upsert_self ).symm.trans found)
    subst refiled
    obtain ⟨mine, there, names⟩ := flagged call.messageID row stored
    have user : (row.refiled (call.target (operating pipe))).userID = call.userID := owner
    rw [user]
    split at written
    · exact ⟨_, flagsOf_upsert written, rfl, rfl⟩
    next unwritten =>
      refine ⟨mine, ?_, ?_⟩
      · rw [flagsOf, written, ← owner]
        exact there
      · obtain same | ⟨old, new⟩ | done := follow row stored
        · exact same ▸ names
        · exact new.names.mpr (old.names.mp names)
        · exact absurd done unwritten
  · have kept : manifestOf stores.tables messageID = some other := by
      rw [manifestOf, ← found]
      refine (Rows.find_upsert_of_ne ?_).symm
      exact fun same => own (same.trans id)
    obtain ⟨mine, there, names⟩ := flagged messageID other kept
    refine ⟨mine, ?_, names⟩
    split at written
    · exact (flagsOf_upsert_of_ne written fun same => own (congrArg Prod.snd same)).trans there
    · rw [flagsOf, written]
      exact there

end Filings

/-- As long as messages are ingested into folders that no flag names, and flags are read and
written when a message is moved from or to one that a flag names, the flags of every message
agree with its folder; and every move keeps the other flags and the labels. -/
theorem flags_follow (pipe : Pipe) (stores : Stores)
    (runs : (filings pipe).Runs (FlagsFollow pipe) emptyStores stores) :
    Flagged stores.tables ∧ ∀ call env after,
      (filings pipe).step stores (.move call env) = some after → MarksKept stores.tables after.tables := by
  constructor
  · refine runs.invariant (fun stores => Flagged stores.tables) ?_ ?_
    · intro messageID row found
      simp [manifestOf, emptyStores, Rows.find] at found
    intro stores filing after flagged follow taken
    cases filing with
    | ingest call conditions =>
      simp only [filings] at taken
      split at taken
      next result stored ran =>
        cases taken
        rcases run_cases ran with ⟨rfl, -⟩ | ⟨package, decided, persisted⟩
        · exact flagged
        · exact flagged.persist (follow package decided) persisted
      · cases taken
    | move call env =>
      simp only [filings] at taken
      split at taken
      next result stored ran =>
        cases taken
        exact flagged.move follow ran
      · cases taken
  · intro call env after taken
    simp only [filings] at taken
    split at taken
    next result stored ran =>
      cases taken
      exact move_marks ran
    · cases taken

def sampleFilings : List Filing :=
  [.ingest (.external (ascii "eve@y") (ascii "alice@x") (ascii "hello")) (sampleConditions none),
    .move ⟨1, 1, folderTrash, 5, .ok []⟩ fun _ => .done]

/-- Its flags say so. -/
theorem flags_follow_trashed :
    Flagged ((filings samplePipe).after sampleFilings emptyStores).tables ∧
      (flagsOf ((filings samplePipe).after sampleFilings emptyStores).tables 1 1).map FlagsRow.deleted =
        some true := by
  refine ⟨(flags_follow samplePipe _ (Machine.after_runs sampleFilings ?_)).1, by decide⟩
  refine ⟨fun package decided => ?_, fun row found => .inr (.inr ⟨rfl, rfl⟩), trivial⟩
  have inbox : ((IngestCall.external (ascii "eve@y") (ascii "alice@x") (ascii "hello")).intake samplePipe
      (sampleConditions none)).toOption.all fun
        | .kept package => decide (Plain package.folder)
        | .dropped _ => true := by
    decide
  rw [decided] at inbox
  exact of_decide_eq_true inbox

def filteringPipe : Pipe :=
  { samplePipe with
    json :=
      { conditions := fun _ => some [⟨ascii "sender", ascii "contains", .text (ascii "eve")⟩]
        actions := fun _ => some [⟨ascii "move", .text folderTrash⟩] } }

def filteringConditions : Conditions :=
  { sampleConditions none with listMailFilters := fun _ => .ok [⟨true, [], []⟩] }

def filteredFilings : List Filing :=
  [.ingest (.external (ascii "eve@y") (ascii "alice@x") (ascii "hello")) filteringConditions]

/-- A message that a rule has filed in the trash does not count as deleted. -/
theorem filtered_message_unflagged :
    (manifestOf ((filings filteringPipe).after filteredFilings emptyStores).tables 1).map
        ManifestRow.folder = some folderTrash ∧
      ¬∀ (pipe : Pipe) (stores : Stores),
        (filings pipe).Runs (fun _ _ => True) emptyStores stores → Flagged stores.tables := by
  have filed : (manifestOf ((filings filteringPipe).after filteredFilings emptyStores).tables 1).map
      (fun row => (row.userID, row.folder)) = some (1, folderTrash) := by
    decide
  have unflagged : (flagsOf ((filings filteringPipe).after filteredFilings emptyStores).tables 1 1).map
      FlagsRow.deleted = some false := by
    decide
  obtain ⟨row, found, named⟩ := Option.map_eq_some_iff.mp filed
  obtain ⟨flags, there, clear⟩ := Option.map_eq_some_iff.mp unflagged
  constructor
  · rw [found]
    exact congrArg (fun pair => some pair.2) named
  · intro always
    have flagged := always filteringPipe _
      (Machine.after_runs filteredFilings (Machine.permits_of_forall (fun _ _ => trivial) _ _))
    obtain ⟨others, stored, deleted, -⟩ := flagged 1 row found
    obtain ⟨user, folder⟩ : row.userID = 1 ∧ row.folder = folderTrash := Prod.mk.inj named
    rw [user, there] at stored
    cases stored
    rw [clear, folder] at deleted
    exact absurd deleted (by decide)

end ElvishMail.Httpserver
