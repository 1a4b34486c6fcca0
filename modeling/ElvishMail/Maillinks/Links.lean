import ElvishMail.Mailmeta.Outbox
import ElvishMail.Semantics.Program
import ElvishMail.Semantics.Remote
import ElvishMail.Smtp.Wire

/-!
# Protected links

`internal/maillinks/links.go`: the rows of `mail_protected_links` and the calls on
them. A call is a program of SQL statements; the database executes one statement
at a time, at an instant that `now()` names. A statement may be reported as
failed after it took effect.
-/

namespace ElvishMail.Maillinks

open Go Smtp Mailmeta Semantics

structure Row where
  token : GoString
  userID : Nat
  blobRef : GoString
  bodySizeBytes : Int
  recipientSummary : GoString
  subjectHint : GoString
  kdf : GoString
  kdfSalt : GoString
  kdfParamsJSON : GoString
  wrappedMsgKey : GoString
  createdAt : Time
  expiresAt : Time
  maxViews : Int
  views : Int
  burnedAt : Option Time
deriving DecidableEq

def errNotFound : GoError := .plain (ascii "maillinks: not found")

def errBurned : GoError := .plain (ascii "maillinks: burned")

def tokenLength : Nat := 43

def isTokenByte (byte : UInt8) : Bool :=
  (0x41 ≤ byte && byte ≤ 0x5A) || (0x61 ≤ byte && byte ≤ 0x7A) || (0x30 ≤ byte && byte ≤ 0x39) ||
    byte == 0x2D || byte == 0x5F

def validateToken (token : GoString) : Bool := token.length == tokenLength && token.all isTokenByte

/-- `CreateInput`; the time to live is in nanoseconds. -/
structure CreateInput where
  userID : Nat
  blobRef : GoString
  bodySizeBytes : Int
  recipientSummary : GoString
  subjectHint : GoString
  kdf : GoString
  kdfSalt : GoString
  kdfParamsJSON : GoString
  wrappedMsgKey : GoString
  ttl : Int
  maxViews : Int
deriving DecidableEq

def maxTTL : Int := 30 * 24 * 3600 * 1000000000

/-- The row that `Create` inserts: the token that `NewToken` drew, the time of the
server for the expiry and that of the database for the creation. A row has microseconds. -/
def create (input : CreateInput) (token : GoString) (clock now : Time) : Except GoError Row :=
  if input.userID = 0 then .error (.plain (ascii "maillinks: user_id required"))
  else if input.kdf = [] ∨ input.kdfSalt = [] ∨ input.wrappedMsgKey = [] then
    .error (.plain (ascii "maillinks: kdf, salt, wrapped_msg_key required"))
  else if input.ttl ≤ 0 ∨ input.ttl > maxTTL then
    .error (.plain (ascii "maillinks: ttl must be in (0, 30d]"))
  else if input.maxViews < 0 then .error (.plain (ascii "maillinks: max_views must be >= 0"))
  else
    .ok
      { token
        userID := input.userID
        blobRef := input.blobRef
        bodySizeBytes := input.bodySizeBytes
        recipientSummary := input.recipientSummary
        subjectHint := input.subjectHint
        kdf := input.kdf
        kdfSalt := input.kdfSalt
        kdfParamsJSON := if input.kdfParamsJSON = [] then ascii "\x7b\x7d" else input.kdfParamsJSON
        wrappedMsgKey := input.wrappedMsgKey
        createdAt := now
        expiresAt := clock + input.ttl / 1000
        maxViews := input.maxViews
        views := 0
        burnedAt := none }

structure Expired where
  token : GoString
  userID : Nat
  blobRef : GoString
deriving DecidableEq

inductive Statement where
  | updateViews (token : GoString)
  | select (token : GoString)
  | delete (token : GoString)
  | deleteExpired (limit : Nat)
deriving DecidableEq

/-- What a statement meets: how it ends, the time, and the order in which the table is
read. -/
structure Env where
  outcome : Outcome GoError
  now : Time
  scan : List Row → List Row
  scan_perm : ∀ rows, (scan rows).Perm rows

namespace Row

/-- The `WHERE` clause of a view, but for the token. -/
def serves (now : Time) (row : Row) : Bool :=
  row.burnedAt.isNone && decide (row.expiresAt > now) &&
    (row.maxViews == 0 || decide (row.views < row.maxViews))

/-- The `SET` clause of a view. -/
def viewed (now : Time) (row : Row) : Row :=
  { row with
    views := row.views + 1
    burnedAt := if row.maxViews > 0 ∧ row.views + 1 ≥ row.maxViews then some now else row.burnedAt }

/-- The `WHERE` clause of a purge. -/
def expired (now : Time) (row : Row) : Bool :=
  decide (row.expiresAt < now) || (decide (row.maxViews > 0) && decide (row.views ≥ row.maxViews))

end Row

namespace Statement

abbrev Answer : Statement → Type
  | updateViews _ | select _ => Except GoError (Option Row)
  | delete _ => Option GoError
  | deleteExpired _ => Except GoError (List Expired)

def purged (env : Env) (limit : Nat) (table : List Row) : List GoString :=
  (((env.scan table).filter (Row.expired env.now)).take limit).map Row.token

/-- The rows that a view updates: those with the token that can still be viewed. -/
def updates (now : Time) (token : GoString) (row : Row) : Bool :=
  row.token == token && row.serves now

def effect (env : Env) (table : List Row) : Statement → List Row
  | updateViews token =>
    table.map fun row => if updates env.now token row then row.viewed env.now else row
  | select _ => table
  | delete token => table.filter fun row => row.token ≠ token
  | deleteExpired limit => table.filter fun row => row.token ∉ purged env limit table

def answer (env : Env) : (statement : Statement) → List Row → statement.Answer × List Row
  | updateViews token, table =>
    let (err, next) := env.outcome.exec (fun table => effect env table (updateViews token)) table
    match err with
    | some err => (.error err, next)
    | none => (.ok ((table.find? (updates env.now token)).map (Row.viewed env.now)), next)
  | select token, table =>
    match env.outcome.error? with
    | some err => (.error err, table)
    | none => (.ok (table.find? fun row => row.token == token), table)
  | delete token, table => env.outcome.exec (fun table => effect env table (delete token)) table
  | deleteExpired limit, table =>
    let (err, next) := env.outcome.exec (fun table => effect env table (deleteExpired limit)) table
    match err with
    | some err => (.error err, next)
    | none =>
      (.ok ((table.filter fun row => row.token ∈ purged env limit table).map fun row =>
        ⟨row.token, row.userID, row.blobRef⟩), next)

end Statement

structure ConsumeResult where
  row : Row
  viewsRemaining : Int
  burned : Bool
deriving DecidableEq

inductive Result where
  | consumed (result : Except GoError ConsumeResult)
  | got (result : Except GoError Row)
  | deleted (err : Option GoError)
  | purged (result : Except GoError (List Expired))
deriving DecidableEq

abbrev Statements (Value : Type) : Type := Program Statement Statement.Answer Value

/-- `Get` returns a row by token. -/
def get (token : GoString) : Statements (Except GoError Row) :=
  let token := trimSpace token
  if !validateToken token then .done (.error errNotFound)
  else .ask (.select token) fun
    | .error err => .done (.error err)
    | .ok none => .done (.error errNotFound)
    | .ok (some row) => .done (.ok row)

def consumed (row : Row) : ConsumeResult :=
  if row.maxViews > 0 then
    { row
      viewsRemaining := if row.maxViews - row.views < 0 then 0 else row.maxViews - row.views
      burned := row.burnedAt.isSome }
  else { row, viewsRemaining := 0, burned := false }

/-- Why no row was updated: there is none, or it cannot be viewed any more. -/
def refusal (found : Except GoError Row) : GoError :=
  match found with
  | .error err => if err.isErr errNotFound then errNotFound else errBurned
  | .ok _ => errBurned

/-- `ConsumeView` counts a view and returns the row. -/
def consumeView (token : GoString) : Statements (Except GoError ConsumeResult) :=
  let token := trimSpace token
  if !validateToken token then .done (.error errNotFound)
  else .ask (.updateViews token) fun
    | .error err => .done (.error err)
    | .ok none => get token >>= fun found => .done (.error (refusal found))
    | .ok (some row) => .done (.ok (consumed row))

/-- `Delete` removes the row by token. -/
def delete (token : GoString) : Statements (Option GoError) := .ask (.delete token) .done

/-- `PurgeExpired` removes rows that are past their time or their views. -/
def purgeExpired (limit : Int) : Statements (Except GoError (List Expired)) :=
  let limit : Nat := if limit ≤ 0 ∨ limit > 1000 then 100 else limit.toNat
  .ask (.deleteExpired limit) .done

inductive Call where
  | consumeView (token : GoString)
  | get (token : GoString)
  | delete (token : GoString)
  | purgeExpired (limit : Int)
deriving DecidableEq

def Call.program : Call → Statements Result
  | consumeView token => Maillinks.consumeView token >>= fun result => .done (.consumed result)
  | get token => Maillinks.get token >>= fun result => .done (.got result)
  | delete token => Maillinks.delete token >>= fun err => .done (.deleted err)
  | purgeExpired limit => Maillinks.purgeExpired limit >>= fun result => .done (.purged result)

end ElvishMail.Maillinks
