import ElvishMail.Go.Clock
import ElvishMail.Httpserver.AccountDelete
import ElvishMail.Mailops.Sweep

/-!
# Sweeping accounts

`runAccountDeletionSweep` of `internal/httpserver/account_delete.go` deletes the accounts
that are due by `internal/store/account_lifecycle.go`: those whose scheduled deletion has
come, and those that were not used for as long as their owner allows. It lists both and
deletes one account after another. Requests of the users run between its statements.

Telemetry and logging are left out, and with them the errors of single purges. The gates
before the handlers are left out as well: a request comes from the user that it names.
-/

namespace ElvishMail.Httpserver

open Go Smtp Mailmeta Mailstore Mailops Semantics

/-- The columns of `users` that say when an account is deleted. -/
structure Lifecycle where
  lastActivityAt : Time
  scheduledDeleteAt : Option Time
  scheduledDeleteReason : GoString
  inactivityDeleteValue : Int
  inactivityDeleteUnit : GoString
deriving DecidableEq

def activityDay (time : Time) : Int := time / day

def normalizeActivityDay (time : Time) : Time := activityDay time * day

def normalizeInactivityDeleteUnit (lib : Library) (unit : GoString) : Except GoError GoString :=
  let name := toLower lib (trimSpace unit)
  if name ∈ [[], ascii "days", ascii "weeks", ascii "months"] then .ok name
  else .error (.plain (ascii "store: invalid inactivity delete unit"))

def deadlineAfter (lastActivity : Time) (months days : Int) : Time :=
  (addDateSeconds (activityDay lastActivity) 0 months days - unixToInternal) * second

/-- `inactivityDeleteDeadline`; an `int` wraps around. -/
def inactivityDeleteDeadline (lib : Library) (lastActivity : Time) (value : Int) (unit : GoString) :
    Option Time :=
  if value ≤ 0 then none
  else
    let name := toLower lib (trimSpace unit)
    if name = ascii "days" then some (deadlineAfter lastActivity 0 value)
    else if name = ascii "weeks" then some (deadlineAfter lastActivity 0 (int64 (value * 7)))
    else if name = ascii "months" then some (deadlineAfter lastActivity value 0)
    else none

namespace Lifecycle

/-- The `WHERE` clause of `ListUsersDueForScheduledDeletion`. -/
def dueScheduled (now : Time) (row : Lifecycle) : Bool :=
  row.scheduledDeleteAt.any fun time => time ≤ now

/-- The rows that `ListUsersDueForInactivityDeletion` keeps. -/
def dueInactive (lib : Library) (now : Time) (row : Lifecycle) : Bool :=
  (inactivityDeleteDeadline lib row.lastActivityAt row.inactivityDeleteValue
    row.inactivityDeleteUnit).any fun deadline => deadline ≤ normalizeActivityDay now

/-- Due for one of the two reasons. -/
def Due (lib : Library) (now : Time) (row : Lifecycle) : Prop :=
  row.dueScheduled now = true ∨ row.dueInactive lib now = true

instance (lib : Library) (now : Time) (row : Lifecycle) : Decidable (row.Due lib now) :=
  inferInstanceAs (Decidable (_ ∨ _))

end Lifecycle

structure Population where
  premises : Premises
  lifecycle : Nat → Lifecycle

def sweepLimit (limit : Int) : Int := if limit ≤ 0 ∨ 500 < limit then 100 else limit

namespace Population

variable (population : Population)

/-- The rows of `users`. -/
def rows : List (Nat × Lifecycle) :=
  population.premises.users.map fun userID => (userID, population.lifecycle userID)

/-- `ListUsersDueForScheduledDeletion` returns users whose scheduled delete time has
passed. -/
def listUsersDueForScheduledDeletion (now : Time) (limit : Int) : List Nat :=
  (((population.rows.filter (·.2.dueScheduled now)).insertionSort fun first second =>
    first.2.scheduledDeleteAt.getD 0 ≤ second.2.scheduledDeleteAt.getD 0).take
      (sweepLimit limit).toNat).map Prod.fst

/-- `ListUsersDueForInactivityDeletion` returns users whose inactivity window has elapsed.
Only the rows within the limit are looked at. -/
def listUsersDueForInactivityDeletion (lib : Library) (now : Time) (limit : Int) : List Nat :=
  (((((population.rows.filter fun row =>
    0 < row.2.inactivityDeleteValue ∧ row.2.inactivityDeleteUnit ≠ []).insertionSort
      fun first second => first.2.lastActivityAt ≤ second.2.lastActivityAt).take
        (sweepLimit limit).toNat)).filter (·.2.dueInactive lib now)).map Prod.fst

end Population

namespace Deletion

/-- The statements `UPDATE users … WHERE id = …`, by what they set: `CancelUserDeletion`,
`ScheduleUserDeletion`, `SetUserInactivityDeletion` and `UpdateUserLastActivity`. -/
inductive Update where
  | cancelDeletion
  | scheduleDeletion (deleteAt : Time) (reason : GoString)
  | setInactivity (value : Int) (unit : GoString)
  | lastActivity (time : Time)
deriving DecidableEq

def Update.onRow (row : Lifecycle) : Update → Lifecycle
  | cancelDeletion => { row with scheduledDeleteAt := none, scheduledDeleteReason := [] }
  | scheduleDeletion deleteAt reason =>
    { row with scheduledDeleteAt := some deleteAt, scheduledDeleteReason := trimSpace reason }
  | setInactivity value unit => { row with inactivityDeleteValue := value, inactivityDeleteUnit := unit }
  | lastActivity time => { row with lastActivityAt := normalizeActivityDay time }

/-- The statements of sweeps and of the requests that matter to them. -/
inductive Query where
  | purge (userID : Nat) (statement : PurgeStatement)
  | selectDueScheduled (now : Time) (limit : Int)
  | selectDueInactive (now : Time) (limit : Int)
  | deleteExpiredReservations (now : Time)
  | selectUser (userID : Nat)
  | update (userID : Nat) (change : Update)

namespace Query

abbrev Answer : Query → Type
  | purge _ statement => statement.Answer
  | selectDueScheduled .. | selectDueInactive .. => Except GoError (List Nat)
  | deleteExpiredReservations _ => Option GoError
  | selectUser _ => Except StoreError Lifecycle
  | update .. => Option StoreError

def answer (lib : Library) (outcome : Outcome GoError) :
    (query : Query) → Population → query.Answer × Population
  | purge userID statement, population =>
    let (reply, premises) := statement.answer userID outcome population.premises
    (reply, { population with premises })
  | selectDueScheduled now limit, population =>
    (outcome.read (population.listUsersDueForScheduledDeletion now limit), population)
  | selectDueInactive now limit, population =>
    (outcome.read (population.listUsersDueForInactivityDeletion lib now limit), population)
  | deleteExpiredReservations _, population => (outcome.error?, population)
  | selectUser userID, population =>
    (match outcome.error? with
      | some err => .error (.failed err)
      | none =>
        if population.premises.users.contains userID then .ok (population.lifecycle userID)
        else .error .notFound, population)
  | update userID change, population =>
    let (err, lifecycle) := outcome.exec (fun lifecycle : Nat → Lifecycle =>
      Function.update lifecycle userID (change.onRow (lifecycle userID))) population.lifecycle
    if population.premises.users.contains userID then
      (err.map .failed, { population with lifecycle })
    else ((err.map .failed).or (some .notFound), population)

end Query

abbrev Queries (Value : Type) : Type := Program Query Query.Answer Value

variable (backends : Backends)

/-- One loop of a sweep, and what comes after it. The error of a purge is logged. -/
def purgeEach (folders : Nat → Except GoError (List GoString)) (next : Queries (Option GoError)) :
    List Nat → Queries (Option GoError)
  | [] => next
  | userID :: rest =>
    (purgeUserAccount backends userID (folders userID)).embed (Query.purge userID) >>= fun _ =>
      purgeEach folders next rest

/-- `runAccountDeletionSweep`, given what `ListUserFolders` returns for each user. -/
def runAccountDeletionSweep (folders : Nat → Except GoError (List GoString)) (limit : Int)
    (now : Time) : Queries (Option GoError) :=
  .ask (.selectDueScheduled now (sweepLimit limit)) fun
    | .error err => .done (some err)
    | .ok scheduled =>
      purgeEach backends folders (.ask (.selectDueInactive now (sweepLimit limit)) fun
        | .error err => .done (some err)
        | .ok inactive =>
          purgeEach backends folders (.ask (.deleteExpiredReservations now) .done)
            (inactive.filter (· ∉ scheduled))) scheduled

/-- A reply to an `UPDATE`. -/
def saved (label : GoString) : Option StoreError → Except Refusal Unit
  | none => .ok ()
  | some .notFound => .error (.status 404 (ascii "user not found"))
  | some (.failed err) => .error (.internal label err)

def apiAuthAccountDeleteCancel (userID : Nat) : Queries (Except Refusal Unit) :=
  .ask (.update userID .cancelDeletion) fun reply => .done (saved (ascii "cancel user deletion") reply)

/-- `apiAuthAccountDeleteSchedule`, once the request is verified. -/
def apiAuthAccountDeleteSchedule (userID : Nat) (now : Time) : Queries (Except Refusal Unit) :=
  .ask (.update userID (.scheduleDeletion (now + 7 * day) (ascii "user_requested"))) fun reply =>
    .done (saved (ascii "schedule user deletion") reply)

/-- `apiAuthAccountDeleteNow`, once the request is verified. -/
def apiAuthAccountDeleteNow (userID : Nat) (folders : Except GoError (List GoString)) :
    Queries (Except Refusal Unit) :=
  (purgeUserAccount backends userID folders).embed (Query.purge userID) >>= fun
    | none => .done (.ok ())
    | some err =>
      .done (.error
        (if err = .plain (ascii "store: not found") then .status 404 (ascii "user not found")
        else .internal (ascii "purge user account") err))

/-- `accountDeletePolicyBody`. -/
structure PolicyBody where
  enabled : Option Bool
  value : Option Int
  unit : GoString
deriving DecidableEq

def storeFailure : StoreError → GoError
  | .notFound => .plain (ascii "store: not found")
  | .failed err => err

def setUserInactivityDeletion (userID : Nat) (value : Int) (unit : GoString) :
    Queries (Option StoreError) :=
  if value < 0 then .done (some (.failed (.plain (ascii "store: invalid inactivity delete value"))))
  else
    match normalizeInactivityDeleteUnit backends.lib unit with
    | .error err => .done (some (.failed err))
    | .ok unit =>
      if value = 0 ∨ unit = [] then .ask (.update userID (.setInactivity 0 [])) .done
      else .ask (.update userID (.setInactivity value unit)) .done

def apiAccountDeletePolicyPut (userID : Nat) (body : PolicyBody) :
    Queries (Except Refusal Lifecycle) :=
  let enabled := body.enabled = some true
  if enabled ∧ body.value.getD 0 ≤ 0 then
    .done (.error (.status 400 (ascii "value must be greater than zero when enabled")))
  else
    setUserInactivityDeletion backends userID (if enabled then body.value.getD 0 else 0)
        (if enabled then trimSpace body.unit else []) >>= fun
      | some err => .done (.error (.internal (ascii "save delete policy") (storeFailure err)))
      | none => .ask (.selectUser userID) fun
        | .error err => .done (.error (.internal (ascii "reload delete policy") (storeFailure err)))
        | .ok fresh => .done (.ok fresh)

/-- What `sessionFromRequest` stores of each request of a user. It would skip the `UPDATE` on
the day of the last activity, but `UserByID` does not load that column. -/
def touchActivity (userID : Nat) (now : Time) : Queries Unit :=
  .ask (.selectUser userID) fun
    | .error _ => .done ()
    | .ok _ => .ask (.update userID (.lastActivity now)) fun _ => .done ()

inductive Call where
  | sweep (folders : Nat → Except GoError (List GoString)) (limit : Int) (now : Time)
  | deleteNow (userID : Nat) (folders : Except GoError (List GoString))
  | cancel (userID : Nat)
  | schedule (userID : Nat) (now : Time)
  | policy (userID : Nat) (body : PolicyBody)
  | activity (userID : Nat) (now : Time)

inductive Result where
  | swept (err : Option GoError)
  | answered (reply : Except Refusal Unit)
  | shown (reply : Except Refusal Lifecycle)
  | touched
deriving DecidableEq

def Call.program : Call → Queries Result
  | sweep folders limit now =>
    runAccountDeletionSweep backends folders limit now >>= fun err => .done (.swept err)
  | deleteNow userID folders =>
    apiAuthAccountDeleteNow backends userID folders >>= fun reply => .done (.answered reply)
  | cancel userID => apiAuthAccountDeleteCancel userID >>= fun reply => .done (.answered reply)
  | schedule userID now =>
    apiAuthAccountDeleteSchedule userID now >>= fun reply => .done (.answered reply)
  | policy userID body =>
    apiAccountDeletePolicyPut backends userID body >>= fun reply => .done (.shown reply)
  | activity userID now => touchActivity userID now >>= fun _ => .done .touched

/-- How far a sweep has come, as an observer of its statements notes it: the users that it
listed first, and those of its list that it has not begun to purge. -/
structure Marks where
  now : Time
  seen : List Nat := []
  waiting : List Nat := []
deriving DecidableEq

/-- Note the reply to a statement. A purge begins with `ListUserOwnedAddresses`. -/
def Marks.advance (marks : Marks) : (query : Query) → query.Answer → Marks
  | .selectDueScheduled .., .ok users => { marks with seen := users, waiting := users }
  | .selectDueInactive .., .ok users => { marks with waiting := users.filter (· ∉ marks.seen) }
  | .purge _ .listUserOwnedAddresses, _ => { marks with waiting := marks.waiting.tail }
  | _, _ => marks

def Call.marks : Call → Option Marks
  | sweep _ _ now => some { now }
  | _ => none

/-- A call under way or returned; a sweep with what is noted of it. -/
structure Thread where
  marks : Option Marks
  program : Queries Result

/-- What a user has done: whether the deletion was cancelled since it was last scheduled,
and the latest activity. -/
structure Standing where
  cancelled : Bool := false
  activeAt : Option Time := none
deriving DecidableEq

def Update.note (standing : Standing) : Update → Standing
  | cancelDeletion => { standing with cancelled := true }
  | scheduleDeletion .. => { standing with cancelled := false }
  | setInactivity .. => standing
  | lastActivity time => { standing with activeAt := some (max time (standing.activeAt.getD time)) }

/-- A purge that a sweep has begun, with the time the sweep goes by, and the user at that
moment. -/
structure Purge where
  userID : Nat
  now : Time
  row : Lifecycle
  standing : Standing
deriving DecidableEq

/-- The stores and the calls. Beside them, and known to no code, what the users have done
and the purges that sweeps have begun. -/
structure Server where
  population : Population
  threads : Nat → Option Thread
  standing : Nat → Standing
  purges : List Purge

/-- What happens: a call begins, or its next statement is executed. -/
inductive Event where
  | begin (index : Nat) (call : Call)
  | advance (index : Nat) (outcome : Outcome GoError)

namespace Server

def launched (population : Population) : Server := ⟨population, fun _ => none, fun _ => {}, []⟩

variable (server : Server)

def begins (thread : Thread) : Query → List Purge
  | .purge userID .listUserOwnedAddresses =>
    match thread.marks with
    | some marks =>
      if server.population.premises.users.contains userID then
        [⟨userID, marks.now, server.population.lifecycle userID, server.standing userID⟩]
      else []
    | none => []
  | _ => []

def noted (outcome : Outcome GoError) : Query → Nat → Standing
  | .update userID change =>
    if outcome.applied ∧ server.population.premises.users.contains userID then
      Function.update server.standing userID (change.note (server.standing userID))
    else server.standing
  | _ => server.standing

def execute (index : Nat) (thread : Thread) (outcome : Outcome GoError) (query : Query)
    (next : query.Answer → Queries Result) : Server :=
  let (reply, population) := query.answer backends.lib outcome server.population
  { population
    threads := Function.update server.threads index
      (some ⟨thread.marks.map fun marks => marks.advance query reply, next reply⟩)
    standing := server.noted outcome query
    purges := server.purges ++ server.begins thread query }

def step : Event → Option Server
  | .begin index call =>
    if (server.threads index).isNone then
      some { server with
        threads := Function.update server.threads index (some ⟨call.marks, call.program backends⟩) }
    else none
  | .advance index outcome =>
    match server.threads index with
    | none => none
    | some thread =>
      match thread.program with
      | .done _ => none
      | .ask query next => some (server.execute backends index thread outcome query next)

def returned (index : Nat) : Option Result :=
  (server.threads index).bind fun thread =>
    match thread.program with
    | .done result => some result
    | .ask _ _ => none

def asks (index : Nat) : Option Query := (server.threads index).bind fun thread => thread.program.query?

end Server

def deletions : Machine Server Event := ⟨Server.step backends⟩

end Deletion

end ElvishMail.Httpserver
