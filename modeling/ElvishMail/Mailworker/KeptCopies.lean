import ElvishMail.Mailworker.Acceptance
import ElvishMail.Mailworker.SentCopy

/-!
# Sender's copies that are kept

A row that is marked as sent is never leased again, so its copy has to be stored
by the delivery that marks it. `sent_copy_kept`: as long as no call of
`persistSentCopy` fails that could not be made again, a row that is sent and that
no worker handles has its copy, once, and nothing staged. Where a call fails
after the mark, the row stays as it is in every later run: `lost_for_good`.
-/

namespace ElvishMail.Mailworker.SentCopy

open Go Smtp Mailmeta Mailpipe Mailstore Semantics

/-- The rows a worker handles, each with the stage of its delivery if that has begun. -/
def Phase.items : Phase → List (OutboxRow × Option Stage)
  | .busy current queue =>
    (current.map fun (row, stage) => (row, some stage)).toList ++ queue.map (·, none)
  | _ => []

def Phase.about (id : Nat) (phase : Phase) : List (OutboxRow × Option Stage) :=
  phase.items.filter fun item => item.1.id = id

def Handled (id : Nat) (system : System) : Option (OutboxRow × Option Stage) → Prop
  | none => ∀ worker, (system.phase worker).about id = []
  | some item =>
    ∃ worker, (system.phase worker).about id = [item] ∧
      ∀ other, other ≠ worker → (system.phase other).about id = []

abbrev Unhandled (id : Nat) (system : System) : Prop := Handled id system none

section Handled

variable {id worker : Nat} {system : System} {phase : Phase}
  {item next : Option (OutboxRow × Option Stage)}

@[simp] theorem enter_phase_self : (system.enter worker phase).phase worker = phase :=
  Function.update_self ..

theorem enter_phase_of_ne {other : Nat} (different : other ≠ worker) :
    (system.enter worker phase).phase other = system.phase other :=
  Function.update_of_ne different ..

theorem Handled.about_cases (handled : Handled id system item) (worker : Nat) :
    (system.phase worker).about id = [] ∨ (system.phase worker).about id = item.toList := by
  cases item with
  | none => exact .inl (handled worker)
  | some item =>
    obtain ⟨holder, holds, others⟩ := handled
    by_cases same : worker = holder
    · exact .inr (same ▸ holds)
    · exact .inl (others worker same)

theorem Handled.enter (handled : Handled id system item)
    (holds : (system.phase worker).about id = item.toList) (onward : phase.about id = next.toList) :
    Handled id (system.enter worker phase) next := by
  have others : ∀ other, other ≠ worker → ((system.enter worker phase).phase other).about id = [] := by
    intro other different
    rw [enter_phase_of_ne different]
    cases item with
    | none => exact handled other
    | some item =>
      obtain ⟨holder, held, apart⟩ := handled
      have isHolder : worker = holder := by
        by_contra elsewhere
        rw [apart worker elsewhere] at holds
        cases holds
      exact apart other (isHolder ▸ different)
  cases next with
  | none =>
    intro other
    by_cases same : other = worker
    · rw [same, enter_phase_self, onward]
      rfl
    · exact others other same
  | some next => exact ⟨worker, by rw [enter_phase_self, onward]; rfl, others⟩

theorem Handled.enter_same (handled : Handled id system item)
    (same : phase.about id = (system.phase worker).about id) :
    Handled id (system.enter worker phase) item := by
  have unchanged : ∀ other, ((system.enter worker phase).phase other).about id =
      (system.phase other).about id := by
    intro other
    by_cases isWorker : other = worker
    · rw [isWorker, enter_phase_self, same]
    · rw [enter_phase_of_ne isWorker]
  cases item with
  | none =>
    intro other
    rw [unchanged]
    exact handled other
  | some item =>
    obtain ⟨holder, held, apart⟩ := handled
    exact ⟨holder, (unchanged holder).trans held,
      fun other different => (unchanged other).trans (apart other different)⟩

theorem Handled.of_phase {after : System} (handled : Handled id system item)
    (same : after.phase = system.phase) : Handled id after item := by
  cases item with
  | none => exact fun worker => by rw [same]; exact handled worker
  | some item =>
    obtain ⟨worker, holds, others⟩ := handled
    exact ⟨worker, by rw [same]; exact holds, fun other different => by
      rw [same]
      exact others other different⟩

theorem about_busy (row : OutboxRow) (stage : Stage) (queue : List OutboxRow) :
    (Phase.busy (some (row, stage)) queue).about id =
      if row.id = id then (row, some stage) :: (Phase.busy none queue).about id
      else (Phase.busy none queue).about id := by
  simp only [Phase.about, Phase.items, Option.map_some, Option.toList_some, Option.map_none,
    Option.toList_none, List.nil_append, List.singleton_append, List.filter_cons, decide_eq_true_eq]

theorem about_queue (row : OutboxRow) (queue : List OutboxRow) :
    (Phase.busy none (row :: queue)).about id =
      if row.id = id then (row, none) :: (Phase.busy none queue).about id
      else (Phase.busy none queue).about id := by
  simp only [Phase.about, Phase.items, Option.map_none, Option.toList_none, List.nil_append,
    List.map_cons, List.filter_cons, decide_eq_true_eq]

theorem Handled.current {row : OutboxRow} {stage : Stage} {queue : List OutboxRow}
    (handled : Handled id system item) (busy : system.phase worker = .busy (some (row, stage)) queue)
    (named : row.id = id) :
    item = some (row, some stage) ∧ (Phase.busy none queue).about id = [] := by
  rcases handled.about_cases worker with nothing | holds
  · rw [busy, about_busy, if_pos named] at nothing
    cases nothing
  · rw [busy, about_busy, if_pos named] at holds
    cases item with
    | none => cases holds
    | some item =>
      injection holds with first rest
      exact ⟨by rw [first], rest⟩

theorem Handled.queued {row : OutboxRow} {queue : List OutboxRow} (handled : Handled id system item)
    (busy : system.phase worker = .busy none (row :: queue)) (named : row.id = id) :
    item = some (row, none) ∧ (Phase.busy none queue).about id = [] := by
  rcases handled.about_cases worker with nothing | holds
  · rw [busy, about_queue, if_pos named] at nothing
    cases nothing
  · rw [busy, about_queue, if_pos named] at holds
    cases item with
    | none => cases holds
    | some item =>
      injection holds with first rest
      exact ⟨by rw [first], rest⟩

end Handled

section Turn

variable {pipe : Pipe} {conditions : Conditions} {stores after : Stores} {row : OutboxRow}
  {payload : GoString} {stage : Stage} {event : Event} {next : Option Stage}
  {answer : Except GoError IngestResult} {package : Package}

def Bodies (before after : Tables) : Prop :=
  ∀ blob ∈ after.blobs, blob ∈ before.blobs ∨ ∃ userID messageID, blob.1 = mailBodyKey userID messageID

theorem persist_bodies (result : pipe.persist conditions package stores = (answer, after)) :
    Bodies stores.tables after.tables := by
  rcases persist_issued result with rfl | ⟨err, stored, put, issued⟩
  · exact fun blob member => .inl member
  have written : Bodies stores.tables (stores.draw.exec conditions.outcome (.putBlob
      (mailBodyKey package.userID (stores.lastID + 1)) package.bodyCiphertext)).2.tables := by
    refine Semantics.Outcome.exec_holds (fun next : Stores => Bodies stores.tables next.tables)
      (conditions.outcome .putBlob) (fun blob member => .inl member) ?_
    intro blob member
    rcases Rows.mem_upsert member with old | rfl
    · exact .inl old
    · exact .inr ⟨_, _, rfl⟩
  rw [put] at written
  refine issued.holds (Bodies stores.tables) written ?_
  intro write kind _ tables bodies
  cases write with
  | putBlob key body => simp [rowKinds, recordKinds, Write.op] at kind
  | deleteBlob key => exact fun blob member => bodies blob (Rows.mem_of_mem_remove member)
  | _ => exact bodies

def stagedIntake (pipe : Pipe) (conditions : Conditions) (row : OutboxRow) (payload : GoString) :
    Except GoError Package :=
  pipe.clientSentIntake conditions row.sentCopyFromAddr row.sentCopyHeaderCiphertext payload
    row.sentCopyFromAddr (recipients row)

theorem folder_of_stagedIntake (decided : stagedIntake pipe conditions row payload = .ok package) :
    package.folder = folderSent :=
  (clientSentIntake_ok decided).1

theorem ingestStaged_cases
    (result : ingestStaged pipe conditions row payload stores = (answer, after)) :
    ((∃ err, answer = .error err) ∧ after = stores ∧
        ∀ package, stagedIntake pipe conditions row payload = .ok package →
          Files pipe conditions package = false) ∨
      ∃ package, stagedIntake pipe conditions row payload = .ok package ∧
        answer.isOk = Files pipe conditions package ∧
        view after = (stores.tables.mailbox ++ left pipe conditions package (stores.lastID + 1),
          stores.outbox, stores.lastID + 1) ∧
        Bodies stores.tables after.tables ∧
        ∀ result, answer = .ok result → result.messageID = stores.lastID + 1 := by
  unfold ingestStaged Pipe.ingestClientSent at result
  cases decided : stagedIntake pipe conditions row payload with
  | error err =>
    have refused := decided
    unfold stagedIntake at refused
    rw [refused] at result
    cases result
    exact .inl ⟨⟨err, rfl⟩, rfl, fun package accepted => by cases accepted⟩
  | ok package =>
    have accepted := decided
    unfold stagedIntake at accepted
    rw [accepted] at result
    cases ready : !pipe.hasBlob || !pipe.hasScylla || !pipe.hasMeta with
    | true =>
      have unfiled := (persist_spec result).1
      dsimp only at result
      rw [Pipe.persist, if_pos ready] at result
      cases result
      refine .inl ⟨⟨_, rfl⟩, rfl, ?_⟩
      rintro other same
      cases same
      exact unfiled.symm
    | false =>
      obtain ⟨ended, seen⟩ := persist_view ready result
      refine .inr ⟨package, rfl, ended, seen, persist_bodies result, ?_⟩
      rintro result rfl
      exact (persist_result ‹_›).2.2

structure Touches (id : Nat) (before after : Stores) : Prop where
  rows : ∀ row ∈ before.outbox.rows, row.id ≠ id → row ∈ after.outbox.rows
  mailbox : ∃ added, after.tables.mailbox = before.tables.mailbox ++ added ∧
    ∀ row ∈ added, before.lastID < row.messageID
  lastID : before.lastID ≤ after.lastID
  bodies : Bodies before.tables after.tables

theorem Touches.refl (id : Nat) (stores : Stores) : Touches id stores stores where
  rows row member _ := member
  mailbox := ⟨[], (List.append_nil _).symm, by simp⟩
  lastID := Nat.le_refl _
  bodies blob member := .inl member

theorem touches_executing {statement : Statement} (now : Time) (outcome : Semantics.Outcome GoError)
    (stores : Stores) (elsewhere : ∀ other : OutboxRow, other.id ≠ row.id →
      statement.onRow now other = other) :
    Touches row.id stores (outcome.exec (executing now statement) stores).2 := by
  refine Semantics.Outcome.exec_holds (Touches row.id stores) outcome (.refl _ _) ?_
  refine ⟨?_, (Touches.refl row.id stores).mailbox, Nat.le_refl _, fun blob member => .inl member⟩
  intro other member different
  rw [← elsewhere other different]
  exact List.mem_map_of_mem member

theorem touches_ingest (result : ingestStaged pipe conditions row payload stores = (answer, after)) :
    Touches row.id stores after := by
  rcases ingestStaged_cases result with ⟨-, rfl, -⟩ | ⟨package, -, -, seen, bodies, -⟩
  · exact .refl _ _
  · have mailbox := congrArg Prod.fst seen
    have outbox : after.outbox = stores.outbox := congrArg (fun view => view.2.1) seen
    have lastID : after.lastID = stores.lastID + 1 := congrArg (fun view => view.2.2) seen
    refine ⟨fun other member _ => outbox ▸ member, ⟨_, mailbox, ?_⟩, by omega, bodies⟩
    intro listed member
    unfold left at member
    split at member
    · rw [List.mem_singleton.mp member]
      exact Nat.lt_succ_self _
    · cases member

theorem touches_delete (outcome : Semantics.Outcome GoError) (row : OutboxRow) (stores : Stores) :
    Touches row.id stores (deleteStaged outcome row stores).2 := by
  unfold deleteStaged
  refine Semantics.Outcome.exec_holds (Touches row.id stores) outcome (.refl _ _) ?_
  exact ⟨fun other member _ => member, (Touches.refl row.id stores).mailbox, Nat.le_max_left ..,
    fun blob member => .inl (Rows.mem_of_mem_remove member)⟩

theorem turn_touches (taken : turn pipe row stage event stores = some (after, next)) :
    Touches row.id stores after := by
  unfold turn at taken
  split at taken
  · cases taken
    exact touches_executing _ _ _ fun other different => by simp [Statement.onRow, different]
  · cases taken
    exact touches_executing _ _ _ fun other different => by simp [Statement.onRow, different]
  · split at taken <;> cases taken <;> exact .refl _ _
  · split at taken
    next ingested =>
      cases taken
      exact touches_ingest ingested
    next ingested =>
      cases taken
      exact touches_ingest ingested
  next messageID now outcome =>
    have touches : Touches row.id stores (recordStaged now outcome row messageID stores).2 :=
      touches_executing _ _ _ fun other different => by simp [Statement.onRow, different]
    split at taken
    next recorded =>
      cases taken
      rwa [recorded] at touches
    next recorded =>
      cases taken
      rwa [recorded] at touches
  · cases taken
    exact touches_delete _ _ _
  · cases taken

end Turn

/-- The messages made for a row that are listed in a user's sent folder. -/
def copies (id userID : Nat) (system : System) : List Nat :=
  (system.stores.tables.mailbox.filter fun row =>
    row.userID = userID ∧ row.folder = folderSent ∧ (id, row.messageID) ∈ system.made).map
      MailboxRow.messageID

def Cleared (ref : GoString) (system : System) : Prop :=
  ∀ blob ∈ system.stores.tables.blobs, blob.1 ≠ ref

/-- The copy staged with a row is recorded, the only message made for it in the
sender's sent folder, and staged no more. -/
structure Kept (staged : OutboxRow) (system : System) : Prop where
  recorded : ∃ row ∈ system.stores.outbox.rows, row.id = staged.id ∧ row.sentCopyMessageID ≠ 0 ∧
    copies staged.id staged.userID system = [row.sentCopyMessageID]
  cleared : Cleared staged.sentCopyBodyBlobRef system

/-- Later steps of some workers can still keep the copy. -/
def Eligible (cfg : Config) (pipe : Pipe) (staged : OutboxRow) (system : System) : Prop :=
  ∃ later, (workers cfg pipe).Runs (fun _ _ => True) system later ∧ Kept staged later

def Logged (system : System) : Prop := ∀ pair ∈ system.made, pair.2 ≤ system.stores.lastID

section Copies

variable {system other : System} {row : OutboxRow} {after : Stores} {id userID : Nat}

theorem mem_made_advance {message : Nat} :
    (id, message) ∈ (system.advance row after).made ↔
      (id, message) ∈ system.made ∨
        row.id = id ∧ system.stores.lastID < message ∧ message ≤ after.lastID := by
  simp only [System.advance, List.mem_append, List.mem_map, List.mem_range'_1, Prod.mk.injEq]
  constructor
  · rintro (old | ⟨drawn, range, named, rfl⟩)
    · exact .inl old
    · exact .inr ⟨named, by omega, by omega⟩
  · rintro (old | ⟨named, later, drawn⟩)
    · exact .inl old
    · exact .inr ⟨message, by omega, named, rfl⟩

theorem Logged.advance (logged : Logged system) (grows : system.stores.lastID ≤ after.lastID) :
    Logged (system.advance row after) := by
  rintro ⟨id, message⟩ member
  rcases mem_made_advance.mp member with old | ⟨-, -, drawn⟩
  · exact (logged _ old).trans grows
  · exact drawn

theorem copies_advance (logged : Logged system) {added : List MailboxRow}
    (mailbox : after.tables.mailbox = system.stores.tables.mailbox ++ added)
    (later : ∀ row ∈ added, system.stores.lastID < row.messageID) :
    copies id userID (system.advance row after) = copies id userID system ++
      (added.filter fun listed => listed.userID = userID ∧ listed.folder = folderSent ∧
        row.id = id ∧ listed.messageID ≤ after.lastID).map MailboxRow.messageID := by
  have old : ∀ listed ∈ system.stores.tables.mailbox,
      decide (listed.userID = userID ∧ listed.folder = folderSent ∧
        (id, listed.messageID) ∈ (system.advance row after).made) =
      decide (listed.userID = userID ∧ listed.folder = folderSent ∧
        (id, listed.messageID) ∈ system.made) := by
    intro listed member
    have drawn := system.stores.drawn listed member
    rw [decide_eq_decide, mem_made_advance]
    constructor
    · rintro ⟨user, folder, made | ⟨-, past, -⟩⟩
      · exact ⟨user, folder, made⟩
      · omega
    · rintro ⟨user, folder, made⟩
      exact ⟨user, folder, .inl made⟩
  have new : ∀ listed ∈ added,
      decide (listed.userID = userID ∧ listed.folder = folderSent ∧
        (id, listed.messageID) ∈ (system.advance row after).made) =
      decide (listed.userID = userID ∧ listed.folder = folderSent ∧
        row.id = id ∧ listed.messageID ≤ after.lastID) := by
    intro listed member
    have past := later listed member
    rw [decide_eq_decide, mem_made_advance]
    constructor
    · rintro ⟨user, folder, made | ⟨named, -, drawn⟩⟩
      · exact absurd (logged _ made) (Nat.not_le_of_lt past)
      · exact ⟨user, folder, named, drawn⟩
    · rintro ⟨user, folder, named, drawn⟩
      exact ⟨user, folder, .inr ⟨named, past, drawn⟩⟩
  unfold copies
  rw [show (system.advance row after).stores.tables.mailbox = _ from mailbox, List.filter_append,
    List.map_append, List.filter_congr old, List.filter_congr new]

theorem copies_advance_of_ne (logged : Logged system) (touches : Touches row.id system.stores after)
    (different : row.id ≠ id) :
    copies id userID (system.advance row after) = copies id userID system := by
  obtain ⟨added, mailbox, later⟩ := touches.mailbox
  rw [copies_advance logged mailbox later]
  simp [different]

theorem copies_advance_of_same (logged : Logged system)
    (same : after.tables.mailbox = system.stores.tables.mailbox) :
    copies id userID (system.advance row after) = copies id userID system := by
  rw [copies_advance logged (same.trans (List.append_nil _).symm) (by simp)]
  simp

end Copies

/-- The staged copy passes every check of `IngestClientSent` for the row's own user,
and no write of the ingest fails. -/
def Ingests (pipe : Pipe) (conditions : Conditions) (row : OutboxRow) (payload : GoString) : Prop :=
  ∃ package, stagedIntake pipe conditions row payload = .ok package ∧
    package.userID = row.userID ∧ Files pipe conditions package = true

def ListsNothing (pipe : Pipe) (conditions : Conditions) (row : OutboxRow) (payload : GoString) :
    Prop :=
  ∀ package, stagedIntake pipe conditions row payload = .ok package →
    Files pipe conditions package = false ∧ Strands pipe conditions package = false

/-- A call for the copy of a row does not fail, unless it comes before anything is
stored and the row is not marked as sent, so that a later delivery makes it again. -/
def Succeeds (pipe : Pipe) (system : System) (row : OutboxRow) : Stage → Event → Prop
  | .getting, .get failure =>
    system.stores.outbox.statusOf row.id = some .sent →
      failure = none ∧ pipe.hasMeta = true ∧ pipe.hasBlob = true ∧ pipe.hasScylla = true ∧
        ∃ blob ∈ system.stores.tables.blobs, blob.1 = row.sentCopyBodyBlobRef
  | .ingesting payload, .ingest conditions =>
    Ingests pipe conditions row payload ∨
      system.stores.outbox.statusOf row.id ≠ some .sent ∧ ListsNothing pipe conditions row payload
  | .recording _, .write _ outcome => outcome = .done
  | .deleting, .write _ outcome => outcome.applied = true
  | _, _ => True

/-- A worker may crash at a row as long as a later delivery can start over. -/
def Resumable (system : System) (row : OutboxRow) : Stage → Prop
  | .getting | .ingesting _ => system.stores.outbox.statusOf row.id ≠ some .sent
  | .recording _ | .deleting => False
  | .failing .. | .marking => True

/-- No call for the copy of the row fails for good, no worker crashes in the middle
of storing it, and no recovery resets the row while a worker handles it. -/
def Unbroken (pipe : Pipe) (id : Nat) (system : System) : Action → Prop
  | .recover _ clock _ outcome =>
    outcome.applied = true → ∀ row ∈ system.stores.outbox.rows, row.id = id →
      row.stuck (recoveryCutoff clock recoverAfter) = true → Unhandled id system
  | .proceed worker event =>
    ∀ row stage queue, system.phase worker = .busy (some (row, stage)) queue → row.id = id →
      Succeeds pipe system row stage event
  | .crash worker =>
    ∀ row stage queue, system.phase worker = .busy (some (row, stage)) queue → row.id = id →
      Resumable system row stage
  | _ => True

/-- A row with a staged copy that no delivery has begun to store. The staging key is
none of the keys of message bodies. -/
structure Staged (row : OutboxRow) (system : System) : Prop where
  member : row ∈ system.stores.outbox.rows
  unsent : row.status ≠ .sent
  wants : wantsCopy row = true
  apart : ∀ userID messageID, row.sentCopyBodyBlobRef ≠ mailBodyKey userID messageID
  unhandled : Unhandled row.id system
  unmade : system.made = []

structure Awaits (staged row : OutboxRow) : Prop where
  ref : row.sentCopyBodyBlobRef = staged.sentCopyBodyBlobRef
  header : 0 < row.sentCopyHeaderCiphertext.length
  unrecorded : row.sentCopyMessageID = 0
  user : row.userID = staged.userID

def Early : Option Stage → Prop
  | none | some (.failing ..) | some .marking => True
  | _ => False

/-- How far the copy of a row has come: the row as it is, what a worker has in hand
for it, the copies made, and whether the staged body is gone. -/
inductive Progress (staged : OutboxRow) (made : List Nat) (cleared : Prop) (row : OutboxRow) :
    Option (OutboxRow × Option Stage) → Prop where
  | waiting (awaits : Awaits staged row) (unmade : made = []) (unsent : row.status ≠ .sent) :
      Progress staged made cleared row none
  | attempted {leased : OutboxRow} {stage : Option Stage} (early : Early stage)
      (awaits : Awaits staged row) (taken : Awaits staged leased) (unmade : made = [])
      (unsent : row.status ≠ .sent) : Progress staged made cleared row (some (leased, stage))
  | getting {leased : OutboxRow} (awaits : Awaits staged row) (taken : Awaits staged leased)
      (unmade : made = []) : Progress staged made cleared row (some (leased, some .getting))
  | ingesting {leased : OutboxRow} {payload : GoString} (awaits : Awaits staged row)
      (taken : Awaits staged leased) (unmade : made = []) :
      Progress staged made cleared row (some (leased, some (.ingesting payload)))
  | recording {leased : OutboxRow} {messageID : Nat} (taken : Awaits staged leased)
      (single : made = [messageID]) (drawn : messageID ≠ 0) :
      Progress staged made cleared row (some (leased, some (.recording messageID)))
  | deleting {leased : OutboxRow} (taken : Awaits staged leased) (recorded : row.sentCopyMessageID ≠ 0)
      (single : made = [row.sentCopyMessageID]) :
      Progress staged made cleared row (some (leased, some .deleting))
  | kept {item : Option (OutboxRow × Option Stage)} (gone : cleared)
      (recorded : row.sentCopyMessageID ≠ 0) (single : made = [row.sentCopyMessageID])
      (again : ∀ leased stage, item = some (leased, stage) →
        Early stage ∧ leased.sentCopyMessageID ≠ 0) : Progress staged made cleared row item

/-- The row is in the table, handled at most once, not pending while it is, and its
copy has come somewhere. -/
structure Tracked (staged : OutboxRow) (system : System) : Prop where
  logged : Logged system
  progress : ∃ row ∈ system.stores.outbox.rows, row.id = staged.id ∧
    ∃ item, Handled staged.id system item ∧ (item ≠ none → row.status ≠ .pending) ∧
      Progress staged (copies staged.id staged.userID system)
        (Cleared staged.sentCopyBodyBlobRef system) row item

section Progress

variable {staged row other : OutboxRow} {made : List Nat} {cleared : Prop}
  {item : Option (OutboxRow × Option Stage)}

structure SameCopy (row other : OutboxRow) : Prop where
  ref : other.sentCopyBodyBlobRef = row.sentCopyBodyBlobRef
  header : other.sentCopyHeaderCiphertext = row.sentCopyHeaderCiphertext
  recorded : other.sentCopyMessageID = row.sentCopyMessageID
  user : other.userID = row.userID

theorem sameCopy_recover (now cutoff : Time) (row : OutboxRow) :
    SameCopy row (row.recover now cutoff) := by
  unfold OutboxRow.recover
  split <;> exact ⟨rfl, rfl, rfl, rfl⟩

theorem sameCopy_lease (now : Time) (ids : List Nat) (row : OutboxRow) :
    SameCopy row (row.lease now ids) := by
  unfold OutboxRow.lease
  split <;> exact ⟨rfl, rfl, rfl, rfl⟩

theorem sameCopy_failed (now : Time) (row : OutboxRow) (id : Nat) (code : Int) (text : GoString)
    (transient : Bool) :
    SameCopy row (Statement.onRow now row (.markOutboxFailed id code text transient)) := by
  unfold Statement.onRow
  dsimp only
  split
  · cases transient <;> exact ⟨rfl, rfl, rfl, rfl⟩
  · exact ⟨rfl, rfl, rfl, rfl⟩

theorem sameCopy_sent (now : Time) (row : OutboxRow) (id : Nat) (code : Int) :
    SameCopy row (Statement.onRow now row (.markOutboxSent id code)) := by
  unfold Statement.onRow
  dsimp only
  split <;> exact ⟨rfl, rfl, rfl, rfl⟩

theorem Awaits.same (awaits : Awaits staged row) (same : SameCopy row other) : Awaits staged other where
  ref := same.ref.trans awaits.ref
  header := same.header ▸ awaits.header
  unrecorded := same.recorded.trans awaits.unrecorded
  user := same.user.trans awaits.user

theorem Awaits.wants (awaits : Awaits staged row) (named : staged.sentCopyBodyBlobRef ≠ []) :
    wantsCopy row = true := by
  simp [wantsCopy, awaits.ref, named, awaits.unrecorded, awaits.header]

theorem Progress.same (progress : Progress staged made cleared row item) (same : SameCopy row other)
    (unsent : row.status ≠ .sent → other.status ≠ .sent) :
    Progress staged made cleared other item := by
  cases progress with
  | waiting awaits unmade before => exact .waiting (awaits.same same) unmade (unsent before)
  | attempted early awaits taken unmade before =>
    exact .attempted early (awaits.same same) taken unmade (unsent before)
  | getting awaits taken unmade => exact .getting (awaits.same same) taken unmade
  | ingesting awaits taken unmade => exact .ingesting (awaits.same same) taken unmade
  | recording taken single drawn => exact .recording taken single drawn
  | deleting taken recorded single =>
    exact .deleting taken (same.recorded ▸ recorded) (same.recorded ▸ single)
  | kept gone recorded single again =>
    exact .kept gone (same.recorded ▸ recorded) (same.recorded ▸ single) again

theorem Progress.mono {later : Prop} (progress : Progress staged made cleared row item)
    (stays : cleared → later) : Progress staged made later row item := by
  cases progress with
  | waiting awaits unmade unsent => exact .waiting awaits unmade unsent
  | attempted early awaits taken unmade unsent => exact .attempted early awaits taken unmade unsent
  | getting awaits taken unmade => exact .getting awaits taken unmade
  | ingesting awaits taken unmade => exact .ingesting awaits taken unmade
  | recording taken single drawn => exact .recording taken single drawn
  | deleting taken recorded single => exact .deleting taken recorded single
  | kept gone recorded single again => exact .kept (stays gone) recorded single again

theorem Progress.dropped {leased : OutboxRow} {stage : Option Stage} (early : Early stage)
    (progress : Progress staged made cleared row (some (leased, stage))) :
    Progress staged made cleared row none := by
  cases progress with
  | attempted _ awaits taken unmade unsent => exact .waiting awaits unmade unsent
  | getting awaits taken unmade => exact early.elim
  | ingesting awaits taken unmade => exact early.elim
  | recording taken single drawn => exact early.elim
  | deleting taken recorded single => exact early.elim
  | kept gone recorded single again => exact .kept gone recorded single (by simp)

theorem Progress.onward {leased : OutboxRow} {stage next : Option Stage} (early : Early stage)
    (onward : Early next) (progress : Progress staged made cleared row (some (leased, stage))) :
    Progress staged made cleared row (some (leased, next)) := by
  cases progress with
  | attempted _ awaits taken unmade unsent => exact .attempted onward awaits taken unmade unsent
  | getting awaits taken unmade => exact early.elim
  | ingesting awaits taken unmade => exact early.elim
  | recording taken single drawn => exact early.elim
  | deleting taken recorded single => exact early.elim
  | kept gone recorded single again =>
    refine .kept gone recorded single ?_
    rintro _ _ ⟨⟩
    exact ⟨onward, (again leased stage rfl).2⟩

theorem Progress.marked {leased : OutboxRow} (named : staged.sentCopyBodyBlobRef ≠ [])
    (same : SameCopy row other)
    (progress : Progress staged made cleared row (some (leased, some .marking))) :
    Progress staged made cleared other
      ((if wantsCopy leased then some Stage.getting else none).map fun stage =>
        (leased, some stage)) := by
  cases progress with
  | attempted early awaits taken unmade unsent =>
    rw [if_pos (taken.wants named)]
    exact .getting (awaits.same same) taken unmade
  | kept gone recorded single again =>
    have done : ¬ wantsCopy leased = true := by
      simp [wantsCopy, (again leased _ rfl).2]
    rw [if_neg done]
    exact .kept gone (same.recorded ▸ recorded) (same.recorded ▸ single) (by simp)

theorem Progress.unread {leased : OutboxRow} (unsent : row.status ≠ .sent)
    (progress : Progress staged made cleared row (some (leased, some .getting))) :
    Progress staged made cleared row none := by
  cases progress with
  | attempted early => exact early.elim
  | getting awaits taken unmade => exact .waiting awaits unmade unsent
  | kept gone recorded single again => exact (again leased _ rfl).1.elim

theorem Progress.read {leased : OutboxRow} (payload : GoString)
    (progress : Progress staged made cleared row (some (leased, some .getting))) :
    Progress staged made cleared row (some (leased, some (.ingesting payload))) := by
  cases progress with
  | attempted early => exact early.elim
  | getting awaits taken unmade => exact .ingesting awaits taken unmade
  | kept gone recorded single again => exact (again leased _ rfl).1.elim

theorem Progress.ingesting_inv {leased : OutboxRow} {payload : GoString}
    (progress : Progress staged made cleared row (some (leased, some (.ingesting payload)))) :
    Awaits staged row ∧ Awaits staged leased ∧ made = [] := by
  cases progress with
  | attempted early => exact early.elim
  | ingesting awaits taken unmade => exact ⟨awaits, taken, unmade⟩
  | kept gone recorded single again => exact (again leased _ rfl).1.elim

theorem Progress.recording_inv {leased : OutboxRow} {messageID : Nat}
    (progress : Progress staged made cleared row (some (leased, some (.recording messageID)))) :
    Awaits staged leased ∧ made = [messageID] ∧ messageID ≠ 0 := by
  cases progress with
  | attempted early => exact early.elim
  | recording taken single drawn => exact ⟨taken, single, drawn⟩
  | kept gone recorded single again => exact (again leased _ rfl).1.elim

theorem Progress.deleting_inv {leased : OutboxRow}
    (progress : Progress staged made cleared row (some (leased, some .deleting))) :
    Awaits staged leased ∧ row.sentCopyMessageID ≠ 0 ∧ made = [row.sentCopyMessageID] := by
  cases progress with
  | attempted early => exact early.elim
  | deleting taken recorded single => exact ⟨taken, recorded, single⟩
  | kept gone recorded single again => exact (again leased _ rfl).1.elim

end Progress

section Steps

variable {cfg : Config} {pipe : Pipe} {staged : OutboxRow} {start system next : System} {worker : Nat}
  {phase : Phase} {row : OutboxRow} {after : Stores}

@[simp] theorem update_phase {outcome : Semantics.Outcome GoError} {change : OutboxRow → OutboxRow}
    {keeps : ∀ row, (change row).id = row.id} :
    (system.update outcome change keeps).phase = system.phase := by
  unfold System.update
  split <;> rfl

theorem Tracked.enter_same (tracked : Tracked staged system)
    (same : phase.about staged.id = (system.phase worker).about staged.id) :
    Tracked staged (system.enter worker phase) := by
  obtain ⟨logged, row, member, named, item, handled, leased, progress⟩ := tracked
  exact ⟨logged, row, member, named, item, handled.enter_same same, leased, progress⟩

theorem Cleared.touched {id : Nat} {ref : GoString} (cleared : Cleared ref system)
    (touches : Touches id system.stores after)
    (apart : ∀ userID messageID, ref ≠ mailBodyKey userID messageID) :
    Cleared ref (system.advance row after) := by
  intro blob member
  rcases touches.bodies blob member with old | ⟨userID, messageID, key⟩
  · exact cleared blob old
  · rw [key]
    exact (apart userID messageID).symm

theorem Tracked.advance_of_ne (tracked : Tracked staged system)
    (apart : ∀ userID messageID, staged.sentCopyBodyBlobRef ≠ mailBodyKey userID messageID)
    (touches : Touches row.id system.stores after) (different : row.id ≠ staged.id) :
    Tracked staged (system.advance row after) := by
  obtain ⟨logged, current, member, named, item, handled, leased, progress⟩ := tracked
  refine ⟨logged.advance touches.lastID, current, touches.rows current member ?_, named, item,
    handled.of_phase rfl, leased, ?_⟩
  · rw [named]
    exact fun same => different same.symm
  · rw [copies_advance_of_ne logged touches different]
    exact progress.mono fun cleared => cleared.touched touches apart

theorem Handled.eq_none {id : Nat} {item : Option (OutboxRow × Option Stage)}
    (handled : Handled id system item) (unhandled : Unhandled id system) : item = none := by
  cases item with
  | none => rfl
  | some item =>
    obtain ⟨worker, holds, -⟩ := handled
    rw [unhandled worker] at holds
    cases holds

theorem Tracked.update {item : Option (OutboxRow × Option Stage)} (logged : Logged system)
    (member : row ∈ system.stores.outbox.rows) (named : row.id = staged.id)
    (handled : Handled staged.id system item) {outcome : Semantics.Outcome GoError}
    {change : OutboxRow → OutboxRow} {keeps : ∀ row, (change row).id = row.id}
    (leased : outcome.applied = false → item ≠ none → row.status ≠ .pending)
    (leasedAfter : outcome.applied = true → item ≠ none → (change row).status ≠ .pending)
    (before : outcome.applied = false → Progress staged (copies staged.id staged.userID system)
      (Cleared staged.sentCopyBodyBlobRef system) row item)
    (changed : outcome.applied = true → Progress staged (copies staged.id staged.userID system)
      (Cleared staged.sentCopyBodyBlobRef system) (change row) item) :
    Tracked staged (system.update outcome change keeps) := by
  unfold System.update
  cases applied : outcome.applied with
  | false =>
    rw [if_neg (by simp)]
    exact ⟨logged, row, member, named, item, handled, leased applied, before applied⟩
  | true =>
    rw [if_pos rfl]
    exact ⟨logged, change row, List.mem_map_of_mem member, (keeps row).trans named, item,
      handled.of_phase rfl, leasedAfter applied, changed applied⟩

theorem Tracked.recover (tracked : Tracked staged system) {clock now : Time}
    {outcome : Semantics.Outcome GoError} (idle : system.phase worker = .idle)
    (careful : Unbroken pipe staged.id system (.recover worker clock now outcome)) :
    Tracked staged ((system.update outcome (·.recover now (recoveryCutoff clock recoverAfter))
      (OutboxRow.recover_id now (recoveryCutoff clock recoverAfter))).enter worker .recovered) := by
  obtain ⟨logged, row, member, named, item, handled, leased, progress⟩ := tracked
  have updated : Tracked staged (system.update outcome
      (·.recover now (recoveryCutoff clock recoverAfter))
      (OutboxRow.recover_id now (recoveryCutoff clock recoverAfter))) := by
    refine Tracked.update logged member named handled (fun _ => leased) ?_ (fun _ => progress) ?_
    · intro applied held
      rw [OutboxRow.recover, if_neg]
      · exact leased held
      · exact fun stuck => held (handled.eq_none (careful applied row member named stuck))
    · intro applied
      refine progress.same (sameCopy_recover ..) ?_
      intro unsent
      rw [OutboxRow.recover]
      split
      · exact OutboxStatus.noConfusion
      · exact unsent
  refine updated.enter_same ?_
  rw [update_phase, idle]
  rfl

theorem about_leased {id : Nat} {leased : List OutboxRow} (distinct : (leased.map OutboxRow.id).Nodup)
    (member : row ∈ leased) (named : row.id = id) :
    (Phase.busy none leased).about id = [(row, none)] := by
  induction leased with
  | nil => cases member
  | cons first rest ih =>
    rw [about_queue]
    rw [List.map_cons, List.nodup_cons] at distinct
    rcases List.mem_cons.mp member with rfl | later
    · rw [if_pos named]
      have others : (Phase.busy none rest).about id = [] := by
        refine List.filter_eq_nil_iff.mpr ?_
        simp only [Phase.items, Option.map_none, Option.toList_none, List.nil_append,
          List.mem_map, decide_eq_true_eq]
        rintro _ ⟨other, otherMember, rfl⟩ same
        exact distinct.1 (List.mem_map.mpr ⟨other, otherMember, same.trans named.symm⟩)
      rw [others]
    · rw [if_neg]
      · exact ih distinct.2 later
      · intro same
        exact distinct.1 (List.mem_map.mpr ⟨row, later, named.trans same.symm⟩)

theorem about_unleased {id : Nat} {leased : List OutboxRow}
    (absent : id ∉ leased.map OutboxRow.id) : (Phase.busy none leased).about id = [] := by
  refine List.filter_eq_nil_iff.mpr ?_
  simp only [Phase.items, Option.map_none, Option.toList_none, List.nil_append, List.mem_map,
    decide_eq_true_eq]
  rintro _ ⟨other, member, rfl⟩ same
  exact absent (List.mem_map.mpr ⟨other, member, same⟩)

theorem Tracked.lease (tracked : Tracked staged system) {now : Time} {limit : Int}
    {scan : List OutboxRow} {outcome : Semantics.Outcome GoError}
    (recovered : system.phase worker = .recovered)
    (permuted : scan.Perm system.stores.outbox.rows) :
    let leased := leasePendingOutbox now limit scan
    let ids := leased.map OutboxRow.id
    Tracked staged ((system.update outcome (·.lease now ids) (OutboxRow.lease_id now ids)).enter worker
      (if outcome.fails then .idle else .busy none leased)) := by
  intro leased ids
  obtain ⟨logged, row, member, named, item, handled, claimed, progress⟩ := tracked
  have free : (system.phase worker).about staged.id = [] := by rw [recovered]; rfl
  have kept (unsent : row.status ≠ .sent) : (row.lease now ids).status ≠ .sent := by
    unfold OutboxRow.lease
    split
    · exact OutboxStatus.noConfusion
    · exact unsent
  have claimedAfter : item ≠ none → (row.lease now ids).status ≠ .pending := by
    intro held
    rw [OutboxRow.lease, if_neg]
    · exact claimed held
    · exact fun taken => claimed held taken.2
  have updated : Tracked staged
      (system.update outcome (·.lease now ids) (OutboxRow.lease_id now ids)) :=
    Tracked.update logged member named handled (fun _ => claimed) (fun _ => claimedAfter)
      (fun _ => progress) fun _ => progress.same (sameCopy_lease now ids row) kept
  by_cases among : staged.id ∈ ids
  · obtain ⟨taken, takenMember, takenNamed⟩ := List.mem_map.mp among
    obtain ⟨scanned, pending, -⟩ := mem_leasePendingOutbox takenMember
    obtain rfl : taken = row :=
      Table.eq_of_id (permuted.mem_iff.mp scanned) member (takenNamed.trans named.symm)
    obtain rfl : item = none := by
      by_contra held
      exact claimed held pending
    cases failed : outcome.fails with
    | true =>
      refine updated.enter_same ?_
      rw [update_phase, free]
      rfl
    | false =>
      rw [if_neg (by simp)]
      have applied : outcome.applied = true :=
        Semantics.Outcome.applied_of_error?_none (by simpa [Semantics.Outcome.fails] using failed)
      unfold System.update
      rw [if_pos applied]
      have sending : (taken.lease now ids).status = .sending := by
        rw [OutboxRow.lease, if_pos ⟨takenNamed ▸ among, pending⟩]
      have distinct : (leased.map OutboxRow.id).Nodup := nodup_leasePendingOutbox
        ((permuted.map OutboxRow.id).nodup_iff.mpr system.stores.outbox.distinct)
      have holds : Handled staged.id (system.enter worker (.busy none leased))
          (some (taken, none)) :=
        handled.enter free (about_leased distinct takenMember takenNamed)
      refine ⟨logged, taken.lease now ids, List.mem_map_of_mem member,
        (OutboxRow.lease_id now ids taken).trans named, some (taken, none), holds.of_phase rfl,
        ?_, ?_⟩
      · intro _
        rw [sending]
        exact OutboxStatus.noConfusion
      · cases progress with
        | waiting awaits unmade unsent =>
          exact .attempted trivial (awaits.same (sameCopy_lease now ids taken)) awaits unmade
            (kept unsent)
        | kept gone recorded single again =>
          have same := sameCopy_lease now ids taken
          refine .kept gone (same.recorded ▸ recorded) (same.recorded ▸ single) ?_
          rintro _ _ ⟨⟩
          exact ⟨trivial, recorded⟩
  · refine updated.enter_same ?_
    rw [update_phase, free]
    split
    · rfl
    · exact about_unleased among

theorem status_of_statusOf {id : Nat} {table : Table} (member : row ∈ table.rows) (named : row.id = id)
    (unsent : table.statusOf id ≠ some .sent) : row.status ≠ .sent :=
  fun sent => unsent (Table.statusOf_eq_some.mpr ⟨row, member, named, sent⟩)

theorem current_of_mem_about {id : Nat} {stage : Stage}
    (member : (row, some stage) ∈ phase.about id) :
    ∃ queue, phase = .busy (some (row, stage)) queue ∧ row.id = id := by
  obtain ⟨listed, named⟩ := List.mem_filter.mp member
  cases phase with
  | idle => cases listed
  | recovered => cases listed
  | busy current queue =>
    rcases List.mem_append.mp listed with first | queued
    · cases current with
      | none => cases first
      | some current =>
        obtain ⟨leased, begun⟩ := current
        cases List.mem_singleton.mp first
        exact ⟨queue, rfl, by simpa using named⟩
    · obtain ⟨other, -, same⟩ := List.mem_map.mp queued
      cases same

theorem Tracked.abandon (tracked : Tracked staged system) (empty : phase.about staged.id = [])
    (resumable : ∀ row stage queue, system.phase worker = .busy (some (row, stage)) queue →
      row.id = staged.id → Resumable system row stage) :
    Tracked staged (system.enter worker phase) := by
  obtain ⟨logged, row, member, named, item, handled, leased, progress⟩ := id tracked
  rcases handled.about_cases worker with nothing | holds
  · exact tracked.enter_same (empty.trans nothing.symm)
  cases item with
  | none => exact tracked.enter_same (empty.trans holds.symm)
  | some item =>
    obtain ⟨taken, stage⟩ := item
    have letGo : Progress staged (copies staged.id staged.userID system)
        (Cleared staged.sentCopyBodyBlobRef system) row none := by
      cases stage with
      | none => exact progress.dropped (show Early none from trivial)
      | some stage =>
        have held : (taken, some stage) ∈ (system.phase worker).about staged.id := by
          rw [holds]
          exact List.mem_singleton_self _
        obtain ⟨queue, busy, takenNamed⟩ := current_of_mem_about held
        have resume := resumable taken stage queue busy takenNamed
        cases stage with
        | failing code text transient =>
          exact progress.dropped (show Early (some (.failing code text transient)) from trivial)
        | marking => exact progress.dropped (show Early (some .marking) from trivial)
        | getting =>
          exact progress.unread (status_of_statusOf member (named.trans takenNamed.symm) resume)
        | ingesting payload =>
          obtain ⟨awaits, -, unmade⟩ := progress.ingesting_inv
          exact .waiting awaits unmade
            (status_of_statusOf member (named.trans takenNamed.symm) resume)
        | recording messageID => exact resume.elim
        | deleting => exact resume.elim
    exact ⟨logged, row, member, named, none, handled.enter holds empty, by simp, letGo⟩

theorem Tracked.begin (tracked : Tracked staged system) {queue : List OutboxRow} {stage : Stage}
    (busy : system.phase worker = .busy none (row :: queue)) (early : Early (some stage)) :
    Tracked staged (system.enter worker (.busy (some (row, stage)) queue)) := by
  by_cases named : row.id = staged.id
  · obtain ⟨logged, current, member, currentNamed, item, handled, leased, progress⟩ := tracked
    obtain ⟨rfl, rest⟩ := handled.queued busy named
    have holds : (system.phase worker).about staged.id = [(row, none)] := by
      rw [busy, about_queue, if_pos named, rest]
    have onward : (Phase.busy (some (row, stage)) queue).about staged.id = [(row, some stage)] := by
      rw [about_busy, if_pos named, rest]
    exact ⟨logged, current, member, currentNamed, some (row, some stage),
      handled.enter holds onward, fun _ => leased (by simp),
      progress.onward (show Early none from trivial) early⟩
  · refine tracked.enter_same ?_
    rw [busy, about_busy, if_neg named, about_queue, if_neg named]

theorem Tracked.turned {current : OutboxRow} {stage : Stage} {next : Option Stage}
    {queue : List OutboxRow} (logged : Logged system) (grows : system.stores.lastID ≤ after.lastID)
    (handled : Handled staged.id system (some (row, some stage)))
    (busy : system.phase worker = .busy (some (row, stage)) queue) (named : row.id = staged.id)
    (member : current ∈ after.outbox.rows) (currentNamed : current.id = staged.id)
    (leased : next ≠ none → current.status ≠ .pending)
    (progress : Progress staged (copies staged.id staged.userID (system.advance row after))
      (Cleared staged.sentCopyBodyBlobRef (system.advance row after)) current
      (next.map fun stage => (row, some stage))) :
    Tracked staged ((system.advance row after).enter worker (.busy (next.map (row, ·)) queue)) := by
  obtain ⟨-, rest⟩ := handled.current busy named
  have holds : (system.phase worker).about staged.id = [(row, some stage)] := by
    rw [busy, about_busy, if_pos named, rest]
  have onward : (Phase.busy (next.map (row, ·)) queue).about staged.id =
      (next.map fun stage => (row, some stage)).toList := by
    cases next with
    | none => exact rest
    | some next =>
      rw [Option.map_some, about_busy, if_pos named, rest]
      rfl
  have moved : Handled staged.id (system.enter worker (.busy (next.map (row, ·)) queue))
      (next.map fun stage => (row, some stage)) := handled.enter holds onward
  refine ⟨logged.advance grows, current, member, currentNamed, _, moved.of_phase rfl, ?_, progress⟩
  intro held
  exact leased fun ended => held (by rw [ended]; rfl)

theorem executing_exec {now : Time} (outcome : Semantics.Outcome GoError) {statement : Statement}
    {stores : Stores} (member : row ∈ stores.outbox.rows)
    (same : SameCopy row (statement.onRow now row)) :
    ∃ other ∈ (outcome.exec (executing now statement) stores).2.outbox.rows, other.id = row.id ∧
      SameCopy row other ∧ (other.status = row.status ∨
        other.status = (statement.onRow now row).status) := by
  unfold Semantics.Outcome.exec
  split
  · exact ⟨_, List.mem_map_of_mem member, Statement.onRow_id now row statement, same, .inr rfl⟩
  · exact ⟨row, member, rfl, ⟨rfl, rfl, rfl, rfl⟩, .inl rfl⟩

theorem executing_mailbox (now : Time) (outcome : Semantics.Outcome GoError) (statement : Statement)
    (stores : Stores) :
    (outcome.exec (executing now statement) stores).2.tables = stores.tables := by
  unfold Semantics.Outcome.exec
  split <;> rfl

theorem Progress.turned_failing {code : Int} {text : GoString} {transient : Bool} {now : Time}
    {current other : OutboxRow} {made : List Nat} {cleared : Prop} (same : SameCopy current other)
    (status : other.status = current.status ∨
      other.status = (Statement.onRow now current (.markOutboxFailed row.id code text transient)).status)
    (progress : Progress staged made cleared current
      (some (row, some (.failing code text transient)))) :
    Progress staged made cleared other none := by
  refine (progress.dropped (show Early (some (.failing code text transient)) from trivial)).same
    same ?_
  intro before
  rcases status with unchanged | marked
  · rw [unchanged]
    exact before
  · rw [marked, Statement.onRow_status]
    dsimp only [Statement.marks]
    split
    · cases transient <;> exact OutboxStatus.noConfusion
    · exact before

theorem unsent_of_unread {failure : Option GoError} {err : GoError}
    (succeeds : Succeeds pipe system row .getting (.get failure))
    (unread : getStaged pipe failure row system.stores = .error err) :
    system.stores.outbox.statusOf row.id ≠ some .sent := by
  intro sent
  obtain ⟨rfl, hasMeta, hasBlob, hasScylla, blob, member, key⟩ := succeeds sent
  have found : Rows.find Prod.fst row.sentCopyBodyBlobRef system.stores.tables.blobs ≠ none := by
    rw [Rows.find, Ne, List.find?_eq_none]
    exact fun absent => absent blob member (by simpa using key)
  unfold getStaged at unread
  rw [if_neg (by simp [hasMeta, hasBlob, hasScylla])] at unread
  cases looked : Rows.find Prod.fst row.sentCopyBodyBlobRef system.stores.tables.blobs with
  | none => exact found looked
  | some blob => simp [looked, Except.mapError] at unread

theorem Progress.turned_ingesting {payload : GoString} {conditions : Conditions}
    {answer : Except GoError IngestResult} {current : OutboxRow} {cleared : Prop}
    (logged : Logged system) (member : current ∈ system.stores.outbox.rows)
    (currentNamed : current.id = staged.id) (named : row.id = staged.id)
    (succeeds : Succeeds pipe system row (.ingesting payload) (.ingest conditions))
    (ingested : ingestStaged pipe conditions row payload system.stores = (answer, after))
    (progress : Progress staged (copies staged.id staged.userID system) cleared current
      (some (row, some (.ingesting payload)))) :
    after.outbox = system.stores.outbox ∧
      ((∃ err, answer = .error err) ∧
          Progress staged (copies staged.id staged.userID (system.advance row after)) cleared current
            none ∨
        ∃ result, answer = .ok result ∧
          Progress staged (copies staged.id staged.userID (system.advance row after)) cleared current
            (some (row, some (.recording result.messageID)))) := by
  obtain ⟨awaits, taken, unmade⟩ := progress.ingesting_inv
  have waits (unsent : system.stores.outbox.statusOf row.id ≠ some .sent)
      (same : after.tables.mailbox = system.stores.tables.mailbox) :
      Progress staged (copies staged.id staged.userID (system.advance row after)) cleared current
        none := by
    rw [copies_advance_of_same logged same]
    exact .waiting awaits unmade
      (status_of_statusOf member (currentNamed.trans named.symm) unsent)
  rcases ingestStaged_cases ingested with ⟨refused, rfl, unfiled⟩ |
    ⟨package, decided, ended, seen, -, numbered⟩
  · refine ⟨rfl, .inl ⟨refused, ?_⟩⟩
    rcases succeeds with ⟨package, decided, -, filed⟩ | ⟨unsent, -⟩
    · rw [unfiled package decided] at filed
      cases filed
    · exact waits unsent rfl
  · have mailbox : after.tables.mailbox = _ := congrArg Prod.fst seen
    have outbox : after.outbox = system.stores.outbox := congrArg (fun view => view.2.1) seen
    have lastID : after.lastID = system.stores.lastID + 1 := congrArg (fun view => view.2.2) seen
    refine ⟨outbox, ?_⟩
    rcases succeeds with ⟨other, otherDecided, user, filed⟩ | ⟨unsent, nothing⟩
    · cases otherDecided.symm.trans decided
      rw [filed] at ended
      cases answer with
      | error err => cases ended
      | ok result =>
        refine .inr ⟨result, rfl, ?_⟩
        have number := numbered result rfl
        have lists : left pipe conditions package (system.stores.lastID + 1) =
            [listingRow conditions package (system.stores.lastID + 1)] := by
          rw [left, filed]
          rfl
        rw [lists] at mailbox
        have counted : copies staged.id staged.userID (system.advance row after) =
            [result.messageID] := by
          rw [copies_advance logged mailbox (by simp [listingRow]), unmade]
          simp [listingRow, user, taken.user, folder_of_stagedIntake decided, named, lastID, number]
        rw [counted]
        exact .recording taken rfl (by omega)
    · obtain ⟨unfiled, unstranded⟩ := nothing package decided
      have same : after.tables.mailbox = system.stores.tables.mailbox := by
        rw [mailbox, left, unfiled, unstranded]
        exact List.append_nil _
      cases answer with
      | ok result =>
        rw [unfiled] at ended
        cases ended
      | error err => exact .inl ⟨⟨err, rfl⟩, waits unsent same⟩

theorem Tracked.turn (tracked : Tracked staged system) (origin : Staged staged start)
    {stage : Stage} {event : Event} {ending : Option Stage} {queue : List OutboxRow}
    (busy : system.phase worker = .busy (some (row, stage)) queue) (named : row.id = staged.id)
    (succeeds : Succeeds pipe system row stage event)
    (taken : SentCopy.turn pipe row stage event system.stores = some (after, ending)) :
    Tracked staged ((system.advance row after).enter worker (.busy (ending.map (row, ·)) queue)) := by
  have touches := turn_touches taken
  obtain ⟨logged, current, member, currentNamed, item, handled, leased, progress⟩ := tracked
  obtain ⟨rfl, -⟩ := handled.current busy named
  have gone (cleared : Cleared staged.sentCopyBodyBlobRef system) :
      Cleared staged.sentCopyBodyBlobRef (system.advance row after) :=
    cleared.touched touches origin.apart
  have claimed : current.status ≠ .pending := leased (by simp)
  unfold SentCopy.turn at taken
  split at taken
  next code text transient now outcome =>
    cases taken
    obtain ⟨other, otherMember, sameID, same, status⟩ := executing_exec outcome member
      (sameCopy_failed now current row.id code text transient)
    refine Tracked.turned logged touches.lastID handled busy named otherMember
      (sameID.trans currentNamed) (by simp) ?_
    rw [copies_advance_of_same logged (by rw [executing_mailbox])]
    exact (progress.turned_failing same status).mono gone
  next now outcome =>
    cases taken
    obtain ⟨other, otherMember, sameID, same, status⟩ := executing_exec outcome member
      (sameCopy_sent now current row.id 250)
    have nonempty : staged.sentCopyBodyBlobRef ≠ [] := by
      have wants := origin.wants
      simp only [wantsCopy, decide_eq_true_eq] at wants
      exact wants.1
    refine Tracked.turned logged touches.lastID handled busy named otherMember
      (sameID.trans currentNamed) ?_ ?_
    · intro _
      rcases status with unchanged | marked
      · rw [unchanged]
        exact claimed
      · rw [marked, Statement.onRow_status]
        dsimp only [Statement.marks]
        rw [if_pos (currentNamed.trans named.symm)]
        exact OutboxStatus.noConfusion
    · rw [copies_advance_of_same logged (by rw [executing_mailbox])]
      exact (progress.marked nonempty same).mono gone
  next failure =>
    split at taken
    next err unread =>
      cases taken
      refine Tracked.turned logged touches.lastID handled busy named member currentNamed
        (by simp) ?_
      rw [copies_advance_of_same logged rfl]
      exact (progress.unread (status_of_statusOf member (currentNamed.trans named.symm)
        (unsent_of_unread succeeds unread))).mono gone
    next payload read =>
      cases taken
      refine Tracked.turned logged touches.lastID handled busy named member currentNamed
        (fun _ => claimed) ?_
      rw [copies_advance_of_same logged rfl]
      exact (progress.read payload).mono gone
  next payload conditions =>
    split at taken
    next err later ingested =>
      cases taken
      obtain ⟨outbox, ⟨-, onward⟩ | ⟨result, impossible, -⟩⟩ := progress.turned_ingesting logged
        member currentNamed named succeeds ingested
      · exact Tracked.turned logged touches.lastID handled busy named (outbox ▸ member)
          currentNamed (by simp) (onward.mono gone)
      · cases impossible
    next result later ingested =>
      cases taken
      obtain ⟨outbox, ⟨⟨err, impossible⟩, -⟩ | ⟨other, same, onward⟩⟩ :=
        progress.turned_ingesting logged member currentNamed named succeeds ingested
      · cases impossible
      · cases same
        exact Tracked.turned logged touches.lastID handled busy named (outbox ▸ member)
          currentNamed (fun _ => claimed) (onward.mono gone)
  next messageID now outcome =>
    cases (succeeds : outcome = .done)
    obtain ⟨rfl, rfl⟩ : executing now (.recordSentCopy row.id messageID) system.stores = after ∧
        some .deleting = ending := by
      cases taken
      exact ⟨rfl, rfl⟩
    obtain ⟨awaits, single, drawn⟩ := progress.recording_inv
    refine Tracked.turned logged touches.lastID handled busy named (List.mem_map_of_mem member)
      ((Statement.onRow_id now current _).trans currentNamed) ?_ ?_
    · intro _
      rw [Statement.onRow_status]
      exact claimed
    · have same : (executing now (.recordSentCopy row.id messageID) system.stores).tables.mailbox =
          system.stores.tables.mailbox := rfl
      rw [copies_advance_of_same logged same, single]
      have recorded : (Statement.onRow now current
          (.recordSentCopy row.id messageID)).sentCopyMessageID = messageID := by
        rw [Statement.onRow, if_pos (currentNamed.trans named.symm)]
      exact .deleting awaits (by rw [recorded]; exact drawn) (by rw [recorded])
  next now outcome =>
    have applied : outcome.applied = true := succeeds
    cases taken
    obtain ⟨awaits, recorded, single⟩ := progress.deleting_inv
    have deleted : (deleteStaged outcome row system.stores).2 =
        system.stores.apply (.deleteBlob row.sentCopyBodyBlobRef) := by
      rw [deleteStaged, Semantics.Outcome.exec, if_pos applied]
    rw [deleted] at touches ⊢
    refine Tracked.turned logged touches.lastID handled busy named member currentNamed
      (by simp) ?_
    have same : (system.stores.apply (.deleteBlob row.sentCopyBodyBlobRef)).tables.mailbox =
        system.stores.tables.mailbox := rfl
    rw [copies_advance_of_same logged same]
    refine .kept ?_ recorded single (by simp)
    intro blob blobMember key
    have kept := (List.mem_filter.mp blobMember).2
    simp [awaits.ref, key] at kept
  · cases taken

theorem Tracked.step (tracked : Tracked staged system) (origin : Staged staged start)
    {action : Action} (unbroken : Unbroken pipe staged.id system action)
    (taken : system.step cfg pipe action = some next) : Tracked staged next := by
  cases action with
  | recover worker clock now outcome =>
    simp only [System.step] at taken
    split at taken
    next idle =>
      cases taken
      exact tracked.recover idle unbroken
    · cases taken
  | lease worker now limit scan outcome =>
    simp only [System.step] at taken
    split at taken
    next recovered =>
      split at taken
      next permuted =>
        cases taken
        exact tracked.lease recovered (List.isPerm_iff.mp permuted)
      · cases taken
    · cases taken
  | deliver worker material net order =>
    simp only [System.step] at taken
    split at taken
    next row queue busy =>
      cases taken
      split
      · refine tracked.abandon rfl ?_
        intro row stage queue other
        cases busy.symm.trans other
      · exact tracked.begin busy trivial
      · exact tracked.begin busy trivial
    · cases taken
  | proceed worker event =>
    simp only [System.step] at taken
    split at taken
    next row stage queue busy =>
      obtain ⟨⟨after, ending⟩, turned, rfl⟩ := Option.map_eq_some_iff.mp taken
      by_cases named : row.id = staged.id
      · exact tracked.turn origin busy named (unbroken row stage queue busy named) turned
      · refine (tracked.advance_of_ne origin.apart (turn_touches turned) named).enter_same ?_
        have same : (system.advance row after).phase worker = .busy (some (row, stage)) queue :=
          busy
        rw [same, about_busy, if_neg named]
        cases ending with
        | none => rfl
        | some ending => rw [Option.map_some, about_busy, if_neg named]
    · cases taken
  | finish worker =>
    simp only [System.step] at taken
    split at taken
    next busy =>
      cases taken
      refine tracked.enter_same ?_
      rw [busy]
      rfl
    · cases taken
  | crash worker =>
    cases taken
    exact tracked.abandon rfl unbroken

theorem Staged.tracked (origin : Staged staged start) : Tracked staged start where
  logged := by simp [Logged, origin.unmade]
  progress := by
    have wants := origin.wants
    simp only [wantsCopy, decide_eq_true_eq] at wants
    refine ⟨staged, origin.member, rfl, none, origin.unhandled, by simp, .waiting ?_ ?_ origin.unsent⟩
    · exact ⟨rfl, wants.2.1, wants.2.2, rfl⟩
    · simp [copies, origin.unmade]

theorem Tracked.kept (tracked : Tracked staged system)
    (sent : system.stores.outbox.statusOf staged.id = some .sent)
    (unhandled : Unhandled staged.id system) : Kept staged system := by
  obtain ⟨-, row, member, named, item, handled, -, progress⟩ := tracked
  obtain rfl := handled.eq_none unhandled
  obtain ⟨other, otherMember, otherNamed, isSent⟩ := Table.statusOf_eq_some.mp sent
  obtain rfl := Table.eq_of_id otherMember member (otherNamed.trans named.symm)
  cases progress with
  | waiting awaits unmade unsent => exact absurd isSent unsent
  | kept gone recorded single again => exact ⟨⟨other, member, named, recorded, single⟩, gone⟩

end Steps

/-- A row that is sent without its copy and that nobody handles. -/
def Lost (id : Nat) (system : System) : Prop :=
  (∃ row ∈ system.stores.outbox.rows, row.id = id ∧ row.status = .sent ∧ row.sentCopyMessageID = 0) ∧
    Unhandled id system

section Lost

variable {cfg : Config} {pipe : Pipe} {id : Nat} {system next : System} {worker : Nat} {phase : Phase}

theorem Lost.enter (lost : Lost id system) (empty : phase.about id = []) :
    Lost id (system.enter worker phase) :=
  ⟨lost.1, lost.2.enter_same (empty.trans (lost.2 worker).symm)⟩

theorem Lost.update (lost : Lost id system) {outcome : Semantics.Outcome GoError}
    {change : OutboxRow → OutboxRow} {keeps : ∀ row, (change row).id = row.id}
    (spares : ∀ row : OutboxRow, row.status = .sent → change row = row) :
    Lost id (system.update outcome change keeps) := by
  refine ⟨?_, lost.2.of_phase update_phase⟩
  obtain ⟨row, member, named, sent, missing⟩ := lost.1
  unfold System.update
  split
  · exact ⟨row, List.mem_map.mpr ⟨row, member, spares row sent⟩, named, sent, missing⟩
  · exact ⟨row, member, named, sent, missing⟩

theorem Lost.step (lost : Lost id system) {action : Action}
    (taken : system.step cfg pipe action = some next) : Lost id next := by
  cases action with
  | recover worker clock now outcome =>
    simp only [System.step] at taken
    split at taken
    · cases taken
      refine (lost.update ?_).enter rfl
      intro row sent
      rw [OutboxRow.recover, if_neg (by simp [OutboxRow.stuck, sent])]
    · cases taken
  | lease worker now limit scan outcome =>
    simp only [System.step] at taken
    split at taken
    · split at taken
      next permuted =>
        cases taken
        refine (lost.update ?_).enter ?_
        · intro row sent
          rw [OutboxRow.lease, if_neg (by simp [sent])]
        · split
          · rfl
          · refine about_unleased ?_
            intro among
            obtain ⟨leased, member, leasedNamed⟩ := List.mem_map.mp among
            obtain ⟨scanned, pending, -⟩ := mem_leasePendingOutbox member
            obtain ⟨row, rowMember, named, sent, -⟩ := lost.1
            obtain rfl := Table.eq_of_id
              ((List.isPerm_iff.mp permuted).mem_iff.mp scanned) rowMember
              (leasedNamed.trans named.symm)
            rw [pending] at sent
            cases sent
      · cases taken
    · cases taken
  | deliver worker material net order =>
    simp only [System.step] at taken
    split at taken
    next row queue busy =>
      cases taken
      have different : row.id ≠ id := by
        intro named
        cases (lost.2.queued busy named).1
      have rest := lost.2 worker
      rw [busy, about_queue, if_neg different] at rest
      refine lost.enter ?_
      split
      · rfl
      · rw [about_busy, if_neg different, rest]
      · rw [about_busy, if_neg different, rest]
    · cases taken
  | proceed worker event =>
    simp only [System.step] at taken
    split at taken
    next row stage queue busy =>
      obtain ⟨⟨after, ending⟩, turned, rfl⟩ := Option.map_eq_some_iff.mp taken
      have different : row.id ≠ id := by
        intro named
        cases (lost.2.current busy named).1
      have rest := lost.2 worker
      rw [busy, about_busy, if_neg different] at rest
      obtain ⟨⟨current, member, named, sent, missing⟩, unhandled⟩ := lost
      have kept : current ∈ after.outbox.rows :=
        (turn_touches turned).rows current member fun same => different (same.symm.trans named)
      have advanced : Lost id (system.advance row after) :=
        ⟨⟨current, kept, named, sent, missing⟩, unhandled.of_phase rfl⟩
      refine advanced.enter ?_
      cases ending with
      | none => exact rest
      | some ending => rw [Option.map_some, about_busy, if_neg different, rest]
    · cases taken
  | finish worker =>
    simp only [System.step] at taken
    split at taken
    · cases taken
      exact lost.enter rfl
    · cases taken
  | crash worker =>
    cases taken
    exact lost.enter rfl

theorem lost_for_good {staged : OutboxRow} (lost : Lost staged.id system) :
    ¬ Kept staged system ∧ ¬ Eligible cfg pipe staged system := by
  have unkept {later : System} (lost : Lost staged.id later) : ¬ Kept staged later := by
    intro kept
    obtain ⟨row, member, named, -, missing⟩ := lost.1
    obtain ⟨other, otherMember, otherNamed, recorded, -⟩ := kept.recorded
    rw [Table.eq_of_id otherMember member (otherNamed.trans named.symm)] at recorded
    exact recorded missing
  refine ⟨unkept lost, ?_⟩
  rintro ⟨later, runs, kept⟩
  have still : Lost staged.id later :=
    runs.invariant (Lost staged.id) lost fun lost _ taken => lost.step taken
  exact unkept still kept

end Lost

/-- In every run in which no call for the copy of a staged row fails for good, whenever
the row is sent and no worker handles it, its copy is recorded and listed once, with
nothing staged, or later steps still keep it. -/
theorem sent_copy_kept (cfg : Config) (pipe : Pipe) {staged : OutboxRow} {start reached : System}
    (origin : Staged staged start)
    (runs : (workers cfg pipe).Runs (Unbroken pipe staged.id) start reached)
    (sent : reached.stores.outbox.statusOf staged.id = some .sent)
    (unhandled : Unhandled staged.id reached) :
    Kept staged reached ∨ Eligible cfg pipe staged reached := by
  have tracked : Tracked staged reached :=
    runs.invariant (Tracked staged) origin.tracked fun tracked unbroken taken =>
      tracked.step origin unbroken taken
  exact .inl (tracked.kept sent unhandled)

/-- The sample pipe, with a packet reader that knows the first byte of a message. -/
def samplePipe : Pipe :=
  { Mailpipe.samplePipe with
    reader :=
      { armorDecode := fun _ => none
        packets := fun body => if body.head? = some 0xC1 then [.encryptedKey] else [] } }

def stagedRow : OutboxRow :=
  insertOutboxMeta 0 1 1 .plaintextRelay (ascii "outbox/1/1.enc") 7 (ascii "a@x.org") [] 0
    (some ⟨ascii "outbox/1/1-sentcopy.enc", 3, [0xC1, 1], ascii "alice@x"⟩)

/-- The row is pending, its copy is staged, and nobody is at work. -/
def stagedSystem : System where
  stores :=
    { tables := { blobs := [(ascii "outbox/1/1-sentcopy.enc", [0xC1, 2, 3])] }
      outbox := ⟨[stagedRow], by decide⟩
      lastID := 0
      drawn := emptyStores.drawn }
  phase _ := .idle
  made := []

theorem stagedSystem_staged : Staged stagedRow stagedSystem where
  member := List.mem_singleton_self _
  unsent := by decide
  wants := by decide
  apart userID messageID same := by
    have first : some (0x6F : UInt8) = some 0x6D := congrArg List.head? same
    exact absurd first (by decide)
  unhandled _ := rfl
  unmade := rfl

def sampleMarking : List Action :=
  [.recover 0 0 0 .done, .lease 0 0 10 [stagedRow] .done,
    .deliver 0 .sample (.single fun _ => accepting) .asBuilt, .proceed 0 (.write 0 .done)]

def sampleStoring : List Action :=
  [.proceed 0 (.get none), .proceed 0 (.ingest (sampleConditions none)),
    .proceed 0 (.write 0 .done), .proceed 0 (.write 0 .done)]

def sampleMarked : System := (workers .sample samplePipe).after sampleMarking stagedSystem

def sampleStored : System := (workers .sample samplePipe).after sampleStoring sampleMarked

theorem unbroken_proceed {pipe : Pipe} {id worker : Nat} {system : System} {event : Event}
    {row : OutboxRow} {stage : Stage} (queue : List OutboxRow)
    (busy : system.phase worker = .busy (some (row, stage)) queue)
    (succeeds : Succeeds pipe system row stage event) :
    Unbroken pipe id system (.proceed worker event) := by
  intro other otherStage otherQueue same _
  cases busy.symm.trans same
  exact succeeds

theorem stagedRow_ingests : Ingests samplePipe (sampleConditions none) stagedRow [0xC1, 2, 3] :=
  ⟨_, rfl, rfl, by decide⟩

theorem sample_phases :
    ((workers .sample samplePipe).after (sampleMarking.take 3) stagedSystem).phase 0 =
        .busy (some (stagedRow, .marking)) [] ∧
      sampleMarked.phase 0 = .busy (some (stagedRow, .getting)) [] ∧
      ((workers .sample samplePipe).after (sampleStoring.take 1) sampleMarked).phase 0 =
        .busy (some (stagedRow, .ingesting [0xC1, 2, 3])) [] ∧
      ((workers .sample samplePipe).after (sampleStoring.take 2) sampleMarked).phase 0 =
        .busy (some (stagedRow, .recording 1)) [] ∧
      ((workers .sample samplePipe).after (sampleStoring.take 3) sampleMarked).phase 0 =
        .busy (some (stagedRow, .deleting)) [] ∧
      sampleStored.stores.outbox.statusOf 1 = some .sent := by
  decide

theorem sent_copy_kept_alice :
    sampleStored.stores.outbox.statusOf 1 = some .sent ∧
      (Kept stagedRow sampleStored ∨ Eligible .sample samplePipe stagedRow sampleStored) := by
  obtain ⟨marks, gets, ingests, records, deletes, sent⟩ := sample_phases
  have marking : (workers .sample samplePipe).Runs (Unbroken samplePipe 1) stagedSystem
      sampleMarked := by
    refine Machine.after_runs _ ⟨?_, trivial, trivial, ?_, trivial⟩
    · intro _ row member _ stuck
      rw [List.mem_singleton.mp member] at stuck
      exact absurd stuck (by decide)
    · exact unbroken_proceed [] marks trivial
  have storing : (workers .sample samplePipe).Runs (Unbroken samplePipe 1) sampleMarked
      sampleStored := by
    refine Machine.after_runs _ ⟨?_, ?_, ?_, ?_, trivial⟩
    · refine unbroken_proceed [] gets ?_
      exact fun _ => ⟨rfl, rfl, rfl, rfl, by decide⟩
    · exact unbroken_proceed [] ingests (.inl stagedRow_ingests)
    · exact unbroken_proceed [] records rfl
    · exact unbroken_proceed [] deletes rfl
  have unhandled : Unhandled stagedRow.id sampleStored := by
    intro worker
    cases worker with
    | zero => decide
    | succ worker => rfl
  exact ⟨sent, sent_copy_kept .sample samplePipe stagedSystem_staged (marking.trans storing) sent
    unhandled⟩

def sampleLost : System :=
  (workers .sample samplePipe).after
    [.proceed 0 (.get (some (.plain (ascii "blobstore: connection refused"))))] sampleMarked

/-- The row is sent, nobody handles it, and its copy is neither kept nor ever will be. -/
theorem sent_copy_lost :
    ¬ ∀ (cfg : Config) (pipe : Pipe) (staged : OutboxRow) (start reached : System),
      Staged staged start →
      (workers cfg pipe).Runs (fun _ _ => True) start reached →
      reached.stores.outbox.statusOf staged.id = some .sent →
      Unhandled staged.id reached →
      Kept staged reached ∨ Eligible cfg pipe staged reached := by
  intro claim
  have always (actions : List Action) (system : System) :
      (workers .sample samplePipe).Permits (fun _ _ => True) actions system :=
    Machine.permits_of_forall (fun _ _ => trivial) actions system
  have runs : (workers .sample samplePipe).Runs (fun _ _ => True) stagedSystem sampleLost :=
    (Machine.after_runs _ (always sampleMarking stagedSystem)).trans
      (Machine.after_runs _ (always _ sampleMarked))
  have unhandled : Unhandled 1 sampleLost := by
    intro worker
    cases worker with
    | zero => decide
    | succ worker => rfl
  have lost : Lost stagedRow.id sampleLost := ⟨by decide, unhandled⟩
  obtain ⟨unkept, ineligible⟩ := @lost_for_good .sample samplePipe sampleLost stagedRow lost
  rcases claim .sample samplePipe stagedRow stagedSystem sampleLost stagedSystem_staged runs
    (by decide) unhandled with kept | eligible
  · exact unkept kept
  · exact ineligible eligible

end ElvishMail.Mailworker.SentCopy
