import Mathlib.Logic.Function.Basic
import ElvishMail.Mailpipe.Compensation
import ElvishMail.Mailworker.Deliver
import ElvishMail.Semantics.Machine

/-!
# The sender's copy

`deliver` of `internal/mailworker` once more, with `persistSentCopy` in the place
where `Deliver` takes its result as given: after a row is marked as sent, its
staged body is read, ingested into the sender's sent folder, recorded on the row
and deleted from the staging area. Every error on the way is logged and forgotten.

Workers take turns on one outbox and one mail store. A turn is one statement, one
call on object storage, or one ingest; an ingest writes only rows of the message
it draws, so others see it as one step. A worker that crashes within an ingest
leaves what an ingest with failing writes leaves.

Bounces go to a table of their own and are left out.
-/

namespace ElvishMail.Mailworker.SentCopy

open Go Smtp Mailmeta Mailpipe Mailstore Semantics

/-- How the part of `deliver` before the mark ends: in a panic, in a failure that is
recorded on the row, or with every domain served. -/
inductive Attempt where
  | crashed
  | failed (bounces : List Bounce) (code : Int) (text : GoString) (transient : Bool)
  | delivered
deriving DecidableEq

def failure (row : OutboxRow) (addrs : List GoString) (err : GoError) : Attempt :=
  match err.asSMTP with
  | none => .failed [] 0 err.text true
  | some serr =>
    if serr.isPermanent then .failed (bouncesFor row addrs serr) serr.code serr.message false
    else .failed [] 0 err.text true

/-- `deliver` up to the mark. -/
def attempt (cfg : Config) (material : Material) (net : Network) (order : MapOrder)
    (row : OutboxRow) : Attempt :=
  match prepare cfg.lib material row with
  | .crashed => .crashed
  | .failed code text transient => .failed [] code text transient
  | .ready fromAddr payload =>
    match untilFailure (serve cfg net fromAddr payload) (order.arrange (domains cfg row)) with
    | (some (group, err), _) => failure row group.2 err
    | (none, _) => .delivered

def errNotFound : GoError := .plain (ascii "blobstore: not found")

/-- The staged body, with the dependencies checked first. `failure` is an error of
the request itself. -/
def getStaged (pipe : Pipe) (failure : Option GoError) (row : OutboxRow) (stores : Stores) :
    Except GoError GoString :=
  if !pipe.hasMeta || !pipe.hasBlob || !pipe.hasScylla then
    .error (.plain (ascii "mailworker: sent copy dependencies unavailable"))
  else
    let got : Except GoError GoString := match failure with
      | some err => .error err
      | none =>
        match Rows.find Prod.fst row.sentCopyBodyBlobRef stores.tables.blobs with
        | none => .error errNotFound
        | some blob => .ok blob.2
    got.mapError (.wrap (ascii "sent copy blob get: "))

def ingestStaged (pipe : Pipe) (conditions : Conditions) (row : OutboxRow) (payload : GoString)
    (stores : Stores) : Except GoError IngestResult × Stores :=
  pipe.ingestClientSent conditions row.sentCopyFromAddr row.sentCopyHeaderCiphertext payload
    row.sentCopyFromAddr (recipients row) stores

def executing (now : Time) (statement : Statement) (stores : Stores) : Stores :=
  { stores with
    outbox := stores.outbox.update (fun row => statement.onRow now row)
      fun row => statement.onRow_id now row }

/-- `RecordSentCopy`. -/
def recordStaged (now : Time) (outcome : Semantics.Outcome GoError) (row : OutboxRow) (messageID : Nat)
    (stores : Stores) : Option GoError × Stores :=
  outcome.exec (executing now (.recordSentCopy row.id messageID)) stores

def deleteStaged (outcome : Semantics.Outcome GoError) (row : OutboxRow) (stores : Stores) :
    Option GoError × Stores :=
  let (err, stores) := outcome.exec (Stores.apply (.deleteBlob row.sentCopyBodyBlobRef)) stores
  (err.filter fun err => !err.isErr errNotFound, stores)

/-- The condition under which `deliver` calls it, on the row as it was leased. -/
def wantsCopy (row : OutboxRow) : Bool :=
  row.sentCopyBodyBlobRef ≠ [] ∧ 0 < row.sentCopyHeaderCiphertext.length ∧ row.sentCopyMessageID = 0

/-- What is next for a row that is being delivered. -/
inductive Stage where
  | failing (code : Int) (text : GoString) (transient : Bool)
  | marking
  | getting
  | ingesting (payload : GoString)
  | recording (messageID : Nat)
  | deleting
deriving DecidableEq

inductive Event where
  | write (now : Time) (outcome : Semantics.Outcome GoError)
  | get (failure : Option GoError)
  | ingest (conditions : Conditions)

/-- The next call of a delivery, and what follows it. `none` in the second place is
the end of the delivery. -/
def turn (pipe : Pipe) (row : OutboxRow) :
    Stage → Event → Stores → Option (Stores × Option Stage)
  | .failing code text transient, .write now outcome, stores =>
    let write := executing now (.markOutboxFailed row.id code text transient)
    some ((outcome.exec write stores).2, none)
  | .marking, .write now outcome, stores =>
    let write := executing now (.markOutboxSent row.id 250)
    some ((outcome.exec write stores).2, if wantsCopy row then some .getting else none)
  | .getting, .get failure, stores =>
    match getStaged pipe failure row stores with
    | .error _ => some (stores, none)
    | .ok payload => some (stores, some (.ingesting payload))
  | .ingesting payload, .ingest conditions, stores =>
    match ingestStaged pipe conditions row payload stores with
    | (.error _, stores) => some (stores, none)
    | (.ok result, stores) => some (stores, some (.recording result.messageID))
  | .recording messageID, .write now outcome, stores =>
    match recordStaged now outcome row messageID stores with
    | (some _, stores) => some (stores, none)
    | (none, stores) => some (stores, some .deleting)
  | .deleting, .write _ outcome, stores => some ((deleteStaged outcome row stores).2, none)
  | _, _, _ => none

/-- Where a worker is in `runOnce`: before it, after the recovery, or at a row with
further leased rows ahead of it. -/
inductive Phase where
  | idle
  | recovered
  | busy (current : Option (OutboxRow × Stage)) (queue : List OutboxRow)
deriving DecidableEq

/-- The stores and the workers. `made` tells for which outbox row each message was
ingested; no step reads it. -/
structure System where
  stores : Stores
  phase : Nat → Phase
  made : List (Nat × Nat)

inductive Action where
  | recover (worker : Nat) (clock now : Time) (outcome : Semantics.Outcome GoError)
  | lease (worker : Nat) (now : Time) (limit : Int) (scan : List OutboxRow)
      (outcome : Semantics.Outcome GoError)
  | deliver (worker : Nat) (material : Material) (net : Network) (order : MapOrder)
  | proceed (worker : Nat) (event : Event)
  | finish (worker : Nat)
  | crash (worker : Nat)

namespace System

variable (system : System)

def enter (worker : Nat) (phase : Phase) : System :=
  { system with phase := Function.update system.phase worker phase }

/-- An `UPDATE` of the outbox, which ends somehow. -/
def update (outcome : Semantics.Outcome GoError) (change : OutboxRow → OutboxRow)
    (keeps : ∀ row, (change row).id = row.id) : System :=
  if outcome.applied then
    { system with
      stores := { system.stores with outbox := system.stores.outbox.update change keeps } }
  else system

/-- The messages drawn on the way to these stores are made for a row. -/
def advance (row : OutboxRow) (stores : Stores) : System :=
  { system with
    stores
    made := system.made ++
      (List.range' (system.stores.lastID + 1) (stores.lastID - system.stores.lastID)).map
        (row.id, ·) }

/-- What a step does. A recovery that fails is logged; a lease that fails ends
`runOnce`, though its transaction may have been committed. -/
def step (cfg : Config) (pipe : Pipe) : Action → Option System
  | .recover worker clock now outcome =>
    match system.phase worker with
    | .idle =>
      let cutoff := recoveryCutoff clock recoverAfter
      some ((system.update outcome (·.recover now cutoff) (OutboxRow.recover_id now cutoff)).enter
        worker .recovered)
    | _ => none
  | .lease worker now limit scan outcome =>
    match system.phase worker with
    | .recovered =>
      if scan.isPerm system.stores.outbox.rows then
        let leased := leasePendingOutbox now limit scan
        let ids := leased.map OutboxRow.id
        some ((system.update outcome (·.lease now ids) (OutboxRow.lease_id now ids)).enter worker
          (if outcome.fails then .idle else .busy none leased))
      else none
    | _ => none
  | .deliver worker material net order =>
    match system.phase worker with
    | .busy none (row :: queue) =>
      some (system.enter worker
        (match attempt cfg material net order row with
        | .crashed => .idle
        | .failed _ code text transient =>
          .busy (some (row, .failing code text transient)) queue
        | .delivered => .busy (some (row, .marking)) queue))
    | _ => none
  | .proceed worker event =>
    match system.phase worker with
    | .busy (some (row, stage)) queue =>
      (turn pipe row stage event system.stores).map fun (stores, stage) =>
        (system.advance row stores).enter worker (.busy (stage.map (row, ·)) queue)
    | _ => none
  | .finish worker =>
    match system.phase worker with
    | .busy none [] => some (system.enter worker .idle)
    | _ => none
  | .crash worker => some (system.enter worker .idle)

end System

def workers (cfg : Config) (pipe : Pipe) : Machine System Action :=
  ⟨fun system => system.step cfg pipe⟩

end ElvishMail.Mailworker.SentCopy
