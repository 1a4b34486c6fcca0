import ElvishMail.Go.Encoding
import ElvishMail.Httpserver.Reply
import ElvishMail.Semantics.Program
import ElvishMail.Semantics.Remote

/-!
# Recovery codes

`internal/mfa/service.go` makes recovery codes and hashes them, and `internal/store/mfa.go`
keeps the hashes. A set of codes is replaced in a transaction of several statements, at
the isolation of PostgreSQL's `READ COMMITTED`; a code is used in one statement.

What a transaction deleted and inserted is seen by others once it has committed, and a
statement that needs a row another transaction deleted waits for that transaction. What a
`DELETE` deletes are the rows that were committed when it began, so that it is no loss of
generality to let it delete them at once.

SHA-256 is a parameter.
-/

namespace ElvishMail.Httpserver.Recovery

open Go Smtp Semantics

section Codes

variable (lib : Library) (sha256 : GoString → GoString)

def normalizeRecoveryCode (code : GoString) : GoString :=
  replaceAll (replaceAll (toUpper lib (trimSpace code)) (ascii "-") []) (ascii " ") []

def hashRecoveryCode (code : GoString) : GoString := hexEncode (sha256 (normalizeRecoveryCode lib code))

/-- A code of `GenerateRecoveryCodes`, of what one `rand.Read` returns. -/
def displayCode (random : GoString) : GoString :=
  let code := toUpper lib ((base64Encode random).filter (· != 0x3D))
  code.take 4 ++ ascii "-" ++ (code.drop 4).take 4 ++ ascii "-" ++ (code.drop 8).take 4

end Codes

/-- A row of `user_mfa_recovery_codes`, with the connection whose transaction inserted it.
The time it was used at is left out. -/
structure CodeRow where
  storedBy : Nat
  userID : Nat
  codeHash : GoString
  used : Bool
deriving DecidableEq

def CodeRow.place (row : CodeRow) : Nat × GoString := (row.userID, row.codeHash)

def CodeRow.id (row : CodeRow) : Nat × Nat × GoString := (row.storedBy, row.userID, row.codeHash)

/-- A transaction: the users whose rows it deleted, the rows it deleted, and the rows it
inserted. -/
structure Transaction where
  cleared : List Nat
  deleted : List (Nat × Nat × GoString)
  inserted : List CodeRow
deriving DecidableEq

/-- The committed rows, and the open transaction of each connection. -/
structure Database where
  rows : List CodeRow
  transactions : Nat → Option Transaction

/-- `CountUnusedRecoveryCodes`. -/
def Database.countUnused (db : Database) (userID : Nat) : Nat :=
  (db.rows.filter fun row => row.userID = userID && !row.used).length

def Database.set (db : Database) (connection : Nat) (transaction : Option Transaction) : Database :=
  { db with transactions := Function.update db.transactions connection transaction }

def Transaction.commit (transaction : Transaction) (rows : List CodeRow) : List CodeRow :=
  rows.filter (fun row => row.id ∉ transaction.deleted) ++ transaction.inserted

def Transaction.conflicts (transaction : Transaction) (rows : List CodeRow) (place : Nat × GoString) :
    Bool :=
  (rows.any fun row => row.place = place && row.id ∉ transaction.deleted) ||
    transaction.inserted.any fun row => row.place = place

def markUsed (place : Nat × GoString) (rows : List CodeRow) : List CodeRow :=
  rows.map fun row => if row.place = place then { row with used := true } else row

inductive Statement where
  | begin
  | delete (userID : Nat)
  | insert (userID : Nat) (codeHash : GoString)
  | commit
  | rollback
  | consume (userID : Nat) (codeHash : GoString)
deriving DecidableEq

def errUnique : GoError :=
  .plain (ascii "duplicate key value violates unique constraint \"user_mfa_recovery_codes_user_code_idx\"")

def errClosed : GoError := .plain (ascii "tx is closed")

def Database.within (db : Database) (outcome : Outcome GoError) (connection : Nat)
    (change : Transaction → Transaction) : Option GoError × Database :=
  match db.transactions connection with
  | none => (some errClosed, db)
  | some transaction =>
    outcome.exec (fun db => db.set connection (some (change transaction))) db

namespace Statement

/-- What a statement returns; the `UPDATE` returns `ErrNotFound` when it affects no row. -/
abbrev Answer : Statement → Type
  | consume _ _ => Option StoreError
  | _ => Option GoError

/-- Execute a statement on a connection. A transaction whose `COMMIT` is not executed is
rolled back, and so is one whose connection is lost. -/
def answer (outcome : Outcome GoError) (connection : Nat) :
    (statement : Statement) → Database → statement.Answer × Database
  | begin, db =>
    match outcome.error? with
    | some err => (some err, db)
    | none => (none, db.set connection (some ⟨[], [], []⟩))
  | delete userID, db =>
    db.within outcome connection fun transaction =>
      { cleared := userID :: transaction.cleared
        deleted := transaction.deleted ++ (db.rows.filter fun row => row.userID = userID).map CodeRow.id
        inserted := transaction.inserted.filter fun row => row.userID ≠ userID }
  | insert userID codeHash, db =>
    match db.transactions connection with
    | none => (some errClosed, db)
    | some transaction =>
      if transaction.conflicts db.rows (userID, codeHash) then (some errUnique, db)
      else db.within outcome connection fun transaction =>
        { transaction with inserted := transaction.inserted ++ [⟨connection, userID, codeHash, false⟩] }
  | commit, db =>
    match db.transactions connection with
    | none => (some errClosed, db)
    | some transaction =>
      (outcome.error?,
        { (db.set connection none) with
          rows := if outcome.applied then transaction.commit db.rows else db.rows })
  | rollback, db => (outcome.error?, db.set connection none)
  | consume userID codeHash, db =>
    let matched := db.rows.any fun row => row.place = (userID, codeHash) && !row.used
    let (err, next) := outcome.exec (fun db => { db with rows := markUsed (userID, codeHash) db.rows }) db
    match err with
    | some err => (some (.failed err), next)
    | none => (if matched then none else some .notFound, next)

end Statement

/-- A transaction holds up a statement of another connection that needs a row it deleted, or a
place in the index that it took. -/
def Transaction.blocks (transaction : Transaction) (rows : List CodeRow) : Statement → Bool
  | .consume userID codeHash => rows.any fun row =>
    row.place = (userID, codeHash) && !row.used && row.id ∈ transaction.deleted
  | .insert userID codeHash =>
    (transaction.inserted.any fun row => row.place = (userID, codeHash)) ||
      rows.any fun row => row.place = (userID, codeHash) && row.id ∈ transaction.deleted
  | _ => false

def Database.Waits (db : Database) (connection : Nat) (statement : Statement) : Prop :=
  ∃ other transaction, other ≠ connection ∧ db.transactions other = some transaction ∧
    transaction.blocks db.rows statement = true

abbrev Statements : Type := Program Statement Statement.Answer (Option StoreError)

/-- The deferred `Rollback`. -/
def rolledBack (err : GoError) : Statements := .ask .rollback fun _ => .done (some (.failed err))

/-- The loop of `ReplaceRecoveryCodes` and its end; after `Commit` the deferred `Rollback`
has no transaction to roll back. -/
def insertCodes (userID : Nat) : List GoString → Statements
  | [] => .ask .commit fun
    | some err => .done (some (.failed err))
    | none => .done none
  | hash :: rest =>
    if trimSpace hash = [] then insertCodes userID rest
    else .ask (.insert userID (trimSpace hash)) fun
      | some err => rolledBack err
      | none => insertCodes userID rest

/-- `ReplaceRecoveryCodes` in its transaction. -/
def clearCodes (userID : Nat) (hashes : List GoString) : Statements :=
  .ask (.delete userID) fun
    | some err => rolledBack err
    | none => insertCodes userID hashes

def replaceRecoveryCodes (userID : Nat) (hashes : List GoString) : Statements :=
  .ask .begin fun
    | some err => .done (some (.failed err))
    | none => clearCodes userID hashes

/-- `ConsumeRecoveryCode`. -/
def consumeHash (userID : Nat) (codeHash : GoString) : Statements :=
  .ask (.consume userID (trimSpace codeHash)) .done

/-- The calls: a code is used, and the codes of a user are replaced by generated ones or, when
the last factor is deleted, by none. -/
inductive Call where
  | verify (userID : Nat) (code : GoString)
  | regenerate (userID : Nat) (codes : List GoString)
deriving DecidableEq

structure Thread where
  call : Call
  program : Statements

/-- The database and the calls, each with a connection of its own. -/
structure Server where
  db : Database
  threads : Nat → Option Thread

def Server.start : Server := ⟨⟨[], fun _ => none⟩, fun _ => none⟩

/-- What happens: a call begins, or its next statement is executed. -/
inductive Event where
  | begin (index : Nat) (call : Call)
  | advance (index : Nat) (outcome : Outcome GoError)

def Server.execute (server : Server) (index : Nat) (thread : Thread) (outcome : Outcome GoError)
    (statement : Statement) (next : statement.Answer → Statements) : Server :=
  let (reply, db) := statement.answer outcome index server.db
  ⟨db, Function.update server.threads index (some { thread with program := next reply })⟩

section Server

variable (lib : Library) (sha256 : GoString → GoString)

/-- The program of a call; `verify` is `consumeRecoveryCode`. -/
def Call.program : Call → Statements
  | verify userID code => consumeHash userID (hashRecoveryCode lib sha256 code)
  | regenerate userID codes => replaceRecoveryCodes userID (codes.map (hashRecoveryCode lib sha256))

def Server.begin (server : Server) (index : Nat) (call : Call) : Server :=
  { server with
    threads := Function.update server.threads index (some ⟨call, call.program lib sha256⟩) }

def Server.step (server : Server) : Event → Option Server
  | .begin index call =>
    if (server.threads index).isNone then some (server.begin lib sha256 index call) else none
  | .advance index outcome =>
    match server.threads index with
    | none => none
    | some thread =>
      match thread.program with
      | .done _ => none
      | .ask statement next => some (server.execute index thread outcome statement next)

def codeServer : Machine Server Event := ⟨Server.step lib sha256⟩

end Server

/-- The next statement waits for no lock. -/
def Granted (server : Server) : Event → Prop
  | .begin _ _ => True
  | .advance index _ => ∀ thread statement next, server.threads index = some thread →
      thread.program = .ask statement next → ¬ server.db.Waits index statement

def Server.Succeeded (server : Server) (index userID : Nat) (code : GoString) : Prop :=
  ∃ thread, server.threads index = some thread ∧ thread.call = .verify userID code ∧
    thread.program = .done none

def Server.Ended (server : Server) (index : Nat) : Prop :=
  ∃ thread answer, server.threads index = some thread ∧ thread.program = .done answer

section Wanted

variable (lib : Library) (sha256 : GoString → GoString)

def Server.Stores (server : Server) (index userID : Nat) (code : GoString) : Prop :=
  ∃ thread codes stored, server.threads index = some thread ∧ thread.call = .regenerate userID codes ∧
    stored ∈ codes ∧ hashRecoveryCode lib sha256 stored = hashRecoveryCode lib sha256 code

/-- A code is used twice only if it was generated twice. -/
def Server.WorksOnce (server : Server) : Prop :=
  ∀ first second userID code again, first ≠ second → server.Succeeded first userID code →
    server.Succeeded second userID again →
      hashRecoveryCode lib sha256 code = hashRecoveryCode lib sha256 again →
        ∃ one other, one ≠ other ∧ server.Stores lib sha256 one userID code ∧
          server.Stores lib sha256 other userID code

def CountsDown (server next : Server) : Prop :=
  ∀ index userID code, ¬ server.Succeeded index userID code → next.Succeeded index userID code →
    next.db.countUnused userID + 1 = server.db.countUnused userID

def Replaces (server next : Server) (index userID : Nat) : Prop :=
  ∃ before thread codes, server.threads index = some before ∧ (∀ answer, before.program ≠ .done answer) ∧
    next.threads index = some thread ∧ thread.call = .regenerate userID codes ∧ thread.program = .done none

/-- After the codes of the user were replaced, only a code works that the replacement stored, or
one that had not been stored by then. -/
def Server.Replaced (next final : Server) (index userID : Nat) : Prop :=
  ∀ verifier code, final.Succeeded verifier userID code → ¬ next.Succeeded verifier userID code →
    ∃ storer, final.Stores lib sha256 storer userID code ∧ (storer = index ∨ ¬ next.Ended storer)

/-- In every run, codes work once, count down when used, and do not work once replaced. -/
def CodesHold (allowed : Server → Event → Prop) : Prop :=
  ∀ server, (codeServer lib sha256).Runs allowed .start server →
    server.WorksOnce lib sha256 ∧
      ∀ event next, allowed server event → (codeServer lib sha256).step server event = some next →
        CountsDown server next ∧
          ∀ index userID final, Replaces server next index userID →
            (codeServer lib sha256).Runs allowed next final → next.Replaced lib sha256 final index userID

/-- No codes of a user are committed while another transaction has deleted those it found and
not yet ended. -/
def Alone (server : Server) : Event → Prop
  | .begin _ _ => True
  | .advance index _ => ∀ thread next transaction row, server.threads index = some thread →
      thread.program = .ask .commit next → server.db.transactions index = some transaction →
        row ∈ transaction.inserted → ∀ other elsewhere, other ≠ index →
          server.db.transactions other = some elsewhere → row.userID ∉ elsewhere.cleared

end Wanted

end ElvishMail.Httpserver.Recovery
