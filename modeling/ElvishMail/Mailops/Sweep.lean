import ElvishMail.Mailops.Service
import ElvishMail.Semantics.Protocol

/-!
# Expired messages

`SweepExpired` of `internal/mailops/service.go` and the retention settings of
`internal/mailmeta/retention.go`. A sweep lists the messages that have been in their
folder for longer than its retention, and then deletes them one by one. Moves and
changes of the settings run between its statements.

A day is 24 hours, and rows that entered their folders at the same time are listed in
the order of the table.
-/

namespace ElvishMail.Mailops

open Go Smtp Mailmeta Mailstore Semantics

/-- `interval '1 day'`. -/
def day : Time := 86400 * second

/-- The primary key of `mail_folder_retention`. -/
def retentionKey (row : FolderRetention) : Nat × GoString := (row.userID, row.folder)

def retentionOf (tables : Tables) (userID : Nat) (folder : GoString) : Option FolderRetention :=
  Rows.find retentionKey (userID, folder) tables.retention

structure ExpiredMessage where
  userID : Nat
  messageID : Nat
  currentFolder : GoString
  folderEnteredAt : Time
  retentionDays : Nat
deriving DecidableEq

/-- A lifecycle row joined with the setting of its folder, if it has exceeded it. -/
def expiredRow (tables : Tables) (now : Time) (lc : MessageLifecycle) : Option ExpiredMessage :=
  (retentionOf tables lc.userID lc.currentFolder).bind fun setting =>
    setting.retentionDays.bind fun days =>
      if 0 < days ∧ lc.folderEnteredAt ≤ now - days * day then
        some ⟨lc.userID, lc.messageID, lc.currentFolder, lc.folderEnteredAt, days⟩
      else none

/-- `ListExpiredMessages` returns lifecycle rows that have exceeded their folder
retention policy. -/
def expiredMessages (tables : Tables) (now : Time) (limit : Int) : List ExpiredMessage :=
  ((tables.lifecycle.filterMap (expiredRow tables now)).insertionSort
      fun first second => first.folderEnteredAt ≤ second.folderEnteredAt).take
    (if limit ≤ 0 ∨ 500 < limit then 100 else limit.toNat)

def setRetention (rows : List FolderRetention) (stores : Stores) : Stores :=
  { stores with
    tables := { stores.tables with
      retention := rows.foldl (fun kept row => Rows.upsert retentionKey row kept)
        stores.tables.retention } }

/-- The statements of moves and deletions, the query of a sweep, and the transaction that
writes settings. What a transaction wrote is seen once it is committed. -/
inductive Query where
  | mail (statement : Statement)
  | selectExpired (limit : Int)
  | beginTx
  | execTx (row : FolderRetention)
  | commitTx (rows : List FolderRetention)
deriving DecidableEq

namespace Query

abbrev Answer : Query → Type
  | mail statement => statement.Answer
  | selectExpired _ => Except GoError (List ExpiredMessage)
  | _ => Option GoError

def answer (now : Time) (outcome : Outcome GoError) :
    (query : Query) → Stores → query.Answer × Stores
  | mail statement, stores => statement.answer outcome stores
  | selectExpired limit, stores => (outcome.read (expiredMessages stores.tables now limit), stores)
  | beginTx, stores => (outcome.error?, stores)
  | execTx _, stores => (outcome.error?, stores)
  | commitTx rows, stores => outcome.exec (setRetention rows) stores

end Query

abbrev Queries (Value : Type) : Type := Program Query Query.Answer Value

/-- The statements of a program of `Service.lean`. -/
abbrev mailed {Value : Type} (program : Statements Value) : Queries Value :=
  program.embed Query.mail

/-- `SetFolderRetention` within its transaction. -/
def writeRetention (lib : Library) (userID : Nat) :
    List (GoString × Option Int) → List FolderRetention → Queries (Option GoError)
  | [], rows => .ask (.commitTx rows) .done
  | (folder, days) :: rest, rows =>
    let name := normalizeFolderName lib folder
    if name = [] then .done (some (.plain (ascii "mailmeta: invalid folder name")))
    else if ∃ count ∈ days, count ≤ 0 then
      .done (some (.plain (ascii "mailmeta: retention must be positive")))
    else
      let row : FolderRetention := ⟨userID, name, days.map Int.toNat⟩
      .ask (.execTx row) fun
        | some err => .done (some err)
        | none => writeRetention lib userID rest (rows ++ [row])

/-- `SetFolderRetention` upserts folder retention values for a user, in the order in which
the map is ranged over. -/
def setFolderRetention (lib : Library) (userID : Nat) (retention : List (GoString × Option Int)) :
    Queries (Option GoError) :=
  .ask .beginTx fun
    | some err => .done (some err)
    | none => writeRetention lib userID retention []

/-- `EnsureDefaultFolderRetention`, as the settings are read. -/
def ensureDefaultFolderRetention (userID : Nat) : Queries (Option GoError) :=
  .ask (.mail (.write (.ensureDefaultFolderRetention userID))) .done

structure SweepResult where
  purged : Nat
  failed : Nat
deriving DecidableEq

variable (service : Service)

/-- The loop of `SweepExpired`; each deletion reads the time for its event. -/
def purgeExpired (times : Nat → Time) :
    List ExpiredMessage → SweepResult → Option GoError → Queries (SweepResult × Option GoError)
  | [], result, lastErr => .done (result, lastErr)
  | item :: rest, result, lastErr =>
    mailed (deletePermanent service item.userID item.messageID (times rest.length)) >>= fun
      | .error err =>
        purgeExpired times rest { result with failed := result.failed + 1 }
          (some (.wrap (ascii "purge expired " ++ itoa item.userID ++ ascii "/" ++
            itoa item.messageID ++ ascii ": ") err))
      | .ok _ => purgeExpired times rest { result with purged := result.purged + 1 } lastErr

/-- `SweepExpired` permanently deletes messages whose folder retention windows have
elapsed. -/
def sweepExpired (limit : Int) (times : Nat → Time) : Queries (SweepResult × Option GoError) :=
  if !service.hasMeta then
    .done (⟨0, 0⟩, some (.plain (ascii "mailops: missing dependencies")))
  else
    .ask (.selectExpired limit) fun
      | .error err => .done (⟨0, 0⟩, some err)
      | .ok expired => purgeExpired service times expired ⟨0, 0⟩ none

inductive MailCall where
  | sweep (limit : Int) (times : Nat → Time)
  | move (call : MoveCall)
  | setRetention (userID : Nat) (retention : List (GoString × Option Int))
  | ensureRetention (userID : Nat)

inductive MailResult where
  | swept (result : SweepResult) (err : Option GoError)
  | moved (result : Except GoError MoveResult)
  | saved (err : Option GoError)
deriving DecidableEq

def MailCall.program : MailCall → Queries MailResult
  | sweep limit times =>
    sweepExpired service limit times >>= fun result => .done (.swept result.1 result.2)
  | move call => mailed (moveMessage service call) >>= fun result => .done (.moved result)
  | setRetention userID retention =>
    setFolderRetention service.lib userID retention >>= fun err => .done (.saved err)
  | ensureRetention userID => ensureDefaultFolderRetention userID >>= fun err => .done (.saved err)

/-- A message that is about to be deleted, with its body. -/
structure Target where
  userID : Nat
  messageID : Nat
  bodyBlobRef : GoString
deriving DecidableEq

/-- How far a sweep has come, as an observer of its statements notes it: the messages it
has selected and not looked at yet, the one it has found, and the one whose manifest
it has deleted. -/
structure Marks where
  pending : List (Nat × Nat) := []
  found : Option Target := none
  deleted : Option Target := none
deriving DecidableEq

namespace Marks

/-- The message found by an answer of `GetManifest`. -/
def target (userID messageID : Nat) : Except GoError (Option ManifestRow) → Option Target
  | .ok (some row) =>
    if row.userID = userID then some ⟨userID, messageID, row.bodyBlobRef⟩ else none
  | _ => none

def advance (marks : Marks) : (query : Query) → query.Answer → Marks
  | .selectExpired _, .ok items => ⟨items.map fun item => (item.userID, item.messageID), none, none⟩
  | .mail (.selectManifest _), answer =>
    match marks.pending with
    | [] => marks
    | (userID, messageID) :: rest => ⟨rest, target userID messageID answer, none⟩
  | .mail (.write (.deleteManifestRow _)), err =>
    { marks with found := none, deleted := if err = none then marks.found else none }
  | _, _ => marks

def selected (marks : Marks) : List (Nat × Nat) :=
  marks.pending ++ (marks.found.map fun target => (target.userID, target.messageID)).toList

end Marks

/-- A call under way or returned; a sweep with what is noted of it. -/
structure MailThread where
  marks : Option Marks
  program : Queries MailResult

def MailCall.marks : MailCall → Option Marks
  | sweep _ _ => some {}
  | _ => none

/-- The stores, the clock of the relational database, and the calls. -/
structure MailServer where
  stores : Stores
  now : Time
  threads : Nat → Option MailThread

/-- What happens: time passes, a call begins, or its next statement is executed. -/
inductive MailEvent where
  | tick (duration : Nat)
  | begin (index : Nat) (call : MailCall)
  | advance (index : Nat) (outcome : Outcome GoError)

namespace MailServer

def launched (stores : Stores) (now : Time) : MailServer := ⟨stores, now, fun _ => none⟩

def execute (server : MailServer) (index : Nat) (thread : MailThread) (outcome : Outcome GoError)
    (query : Query) (next : query.Answer → Queries MailResult) : MailServer :=
  let (answer, stores) := query.answer server.now outcome server.stores
  { server with
    stores
    threads := Function.update server.threads index
      (some ⟨thread.marks.map fun marks => marks.advance query answer, next answer⟩) }

def step (server : MailServer) : MailEvent → Option MailServer
  | .tick duration => some { server with now := server.now + duration }
  | .begin index call =>
    if (server.threads index).isNone then
      some { server with
        threads := Function.update server.threads index (some ⟨call.marks, call.program service⟩) }
    else none
  | .advance index outcome =>
    match server.threads index with
    | none => none
    | some thread =>
      match thread.program with
      | .done _ => none
      | .ask query next => some (server.execute index thread outcome query next)

end MailServer

def mailServer : Machine MailServer MailEvent := ⟨MailServer.step service⟩

end ElvishMail.Mailops
