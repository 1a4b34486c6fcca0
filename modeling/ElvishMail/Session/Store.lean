import ElvishMail.Smtp.Wire
import ElvishMail.Semantics.Program
import ElvishMail.Semantics.Remote

/-!
# Sessions in Valkey

`internal/session/session.go`: a session is a value under its token, and the tokens of
a user are a set under another key. Each call of the store is a program of single
commands; any command can fail, and commands of other calls run between them.

Keys of the two kinds never collide, since tokens are hexadecimal. The payload is
stored as JSON and read back the same, so the model stores it as it is; its user id is
the text of a UUID, which no trimming changes. A key with a time to live may lapse.
-/

namespace ElvishMail.Session

open Go Smtp Semantics

structure Payload where
  userID : Nat
  email : GoString
  amr : List GoString
  authenticated : Int
  mfaVerifiedAt : Int
deriving DecidableEq

/-- The keys of the store: sessions by token, and tokens by user. -/
structure Valkey where
  sessions : GoString → Option Payload
  byuid : Nat → List GoString

inductive Command where
  | get (token : GoString)
  | set (token : GoString) (payload : Payload)
  | del (token : GoString)
  | sadd (userID : Nat) (token : GoString)
  | srem (userID : Nat) (token : GoString)
  | smembers (userID : Nat)
  | expire (userID : Nat)
  | delIndex (userID : Nat)
deriving DecidableEq

namespace Command

/-- What a command returns; a `get` of no value is `redis.Nil`. -/
abbrev Answer : Command → Type
  | get _ => Except GoError (Option Payload)
  | smembers _ => Except GoError (List GoString)
  | _ => Option GoError

def changeIndex (userID : Nat) (change : List GoString → List GoString) (valkey : Valkey) : Valkey :=
  { valkey with byuid := Function.update valkey.byuid userID (change (valkey.byuid userID)) }

def answer (outcome : Outcome GoError) : (command : Command) → Valkey → command.Answer × Valkey
  | get token, valkey => (outcome.read (valkey.sessions token), valkey)
  | set token payload, valkey =>
    outcome.exec (fun valkey =>
      { valkey with sessions := Function.update valkey.sessions token (some payload) }) valkey
  | del token, valkey =>
    outcome.exec (fun valkey =>
      { valkey with sessions := Function.update valkey.sessions token none }) valkey
  | sadd userID token, valkey =>
    outcome.exec (changeIndex userID fun tokens => if token ∈ tokens then tokens else tokens ++ [token])
      valkey
  | srem userID token, valkey =>
    outcome.exec (changeIndex userID fun tokens => tokens.filter (· ≠ token)) valkey
  | smembers userID, valkey => (outcome.read (valkey.byuid userID), valkey)
  | expire _, valkey => (outcome.error?, valkey)
  | delIndex userID, valkey => outcome.exec (changeIndex userID fun _ => []) valkey

end Command

/-- A token resolves through `Get`. -/
def Valkey.Resolves (valkey : Valkey) (token : GoString) : Prop :=
  token ≠ [] ∧ valkey.sessions token ≠ none

inductive Result where
  | issued (token : GoString)
  | ok
  | failed (err : GoError)
deriving DecidableEq

abbrev Commands : Type := Program Command Command.Answer Result

def Payload.stamped (payload : Payload) (now : Int) : Payload :=
  if payload.authenticated = 0 then { payload with authenticated := now } else payload

def errPayload : GoError := .plain (ascii "session: invalid payload")

/-- The end of `CreateWithPayload`: a session that cannot be indexed is deleted. -/
def indexNew (userID : Nat) (token : GoString) : Commands :=
  .ask (.sadd userID token) fun
    | some err => .ask (.del token) fun _ => .done (.failed err)
    | none => .ask (.expire userID) fun _ => .done (.issued token)

/-- `CreateWithPayload`, given what `randomToken` returned. -/
def createWithPayload (draw : Except GoError GoString) (payload : Payload) (now : Int) : Commands :=
  if trimSpace payload.email = [] then .done (.failed errPayload)
  else match draw with
    | .error err => .done (.failed err)
    | .ok token => .ask (.set token (payload.stamped now)) fun
      | some err => .done (.failed err)
      | none => indexNew payload.userID token

/-- The end of `Put`, whose errors are ignored. -/
def indexAgain (userID : Nat) (token : GoString) : Commands :=
  .ask (.sadd userID token) fun _ => .ask (.expire userID) fun _ => .done .ok

def put (token : GoString) (payload : Payload) (now : Int) : Commands :=
  if trimSpace token = [] then .done (.failed (.plain (ascii "session: token required")))
  else if trimSpace payload.email = [] then .done (.failed errPayload)
  else .ask (.set token (payload.stamped now)) fun
    | some err => .done (.failed err)
    | none => indexAgain payload.userID token

/-- The end of `Delete`. -/
def remove (token : GoString) : Commands :=
  .ask (.del token) fun
    | some err => .done (.failed err)
    | none => .done .ok

def delete (token : GoString) : Commands :=
  if token = [] then .done .ok
  else .ask (.get token) fun
    | .error err => .done (.failed err)
    | .ok none => remove token
    | .ok (some payload) => .ask (.srem payload.userID token) fun _ => remove token

/-- The pipeline of `DeleteUserSessions`: every command is sent, and the first error is
returned. -/
def sweep (userID : Nat) : List GoString → Option GoError → Commands
  | [], err => .ask (.delIndex userID) fun last =>
    .done (match err.or last with
      | some err => .failed err
      | none => .ok)
  | token :: rest, err => .ask (.del token) fun next => sweep userID rest (err.or next)

def deleteUserSessions (userID : Nat) : Commands :=
  .ask (.smembers userID) fun
    | .error err => .done (.failed err)
    | .ok tokens => if tokens.length = 0 then .done .ok else sweep userID tokens none

def markSessionMFAVerified (token : GoString) (pay : Payload) (now : Int) : Commands :=
  put token { pay with mfaVerifiedAt := now } now

/-- A request that proves a second factor again: it reads the payload of its cookie, and
writes it, marked, under the token it began with. -/
def verify (cookie target : GoString) (now : Int) : Commands :=
  if cookie = [] then .done (.failed (.plain (ascii "login required")))
  else .ask (.get cookie) fun
    | .ok (some pay) => markSessionMFAVerified target pay now
    | _ => .done (.failed (.plain (ascii "login required")))

/-- A login begins when its proof is checked, which may be long before its first command. What
`randomToken` will return counts as drawn from then on: nobody knows it before it is stored. -/
inductive Call where
  | login (draw : Except GoError GoString) (payload : Payload) (now : Int)
  | verify (cookie target : GoString) (now : Int)
  | logout (token : GoString)
  | revoke (userID : Nat)

def Call.program : Call → Commands
  | login draw payload now => createWithPayload draw payload now
  | verify cookie target now => Session.verify cookie target now
  | logout token => delete token
  | revoke userID => deleteUserSessions userID

/-- A call under way or returned, with the tokens of the logins that were authenticated when it
began. -/
structure Thread where
  call : Call
  drawn : GoString → Bool
  program : Commands

/-- The store, the tokens of the logins authenticated so far, and the calls. -/
structure Server where
  valkey : Valkey
  drawn : GoString → Bool
  threads : Nat → Option Thread

def Server.start : Server := ⟨⟨fun _ => none, fun _ => []⟩, fun _ => false, fun _ => none⟩

def Call.draws (drawn : GoString → Bool) : Call → GoString → Bool
  | login (.ok token) _ _ => Function.update drawn token true
  | _ => drawn

/-- What happens: a call begins, its next command is executed, or a key lapses. -/
inductive Event where
  | begin (index : Nat) (call : Call)
  | advance (index : Nat) (outcome : Outcome GoError)
  | lapse (token : GoString)
  | lapseIndex (userID : Nat)

def Server.begin (server : Server) (index : Nat) (call : Call) : Server :=
  { server with
    drawn := call.draws server.drawn
    threads := Function.update server.threads index (some ⟨call, server.drawn, call.program⟩) }

def Server.execute (server : Server) (index : Nat) (thread : Thread) (outcome : Outcome GoError)
    (command : Command) (next : command.Answer → Commands) : Server :=
  let (reply, valkey) := command.answer outcome server.valkey
  { server with
    valkey
    threads := Function.update server.threads index (some { thread with program := next reply }) }

section Owners

variable (owner : GoString → Nat)

/-- A random token is drawn in one login, for its one user, and a second factor is proved in a
session for a session of the same user. -/
def Call.fits (drawn : GoString → Bool) : Call → Bool
  | login (.ok token) payload _ => !drawn token && payload.userID = owner token
  | verify cookie target _ => owner target = owner cookie
  | _ => true

def Server.step (server : Server) : Event → Option Server
  | .begin index call =>
    if (server.threads index).isNone ∧ call.fits owner server.drawn then
      some (server.begin index call)
    else none
  | .advance index outcome =>
    match server.threads index with
    | none => none
    | some thread =>
      match thread.program with
      | .done _ => none
      | .ask command next => some (server.execute index thread outcome command next)
  | .lapse token =>
    some { server with valkey.sessions := Function.update server.valkey.sessions token none }
  | .lapseIndex userID =>
    some { server with valkey.byuid := Function.update server.valkey.byuid userID [] }

def sessionServer : Machine Server Event := ⟨Server.step owner⟩

end Owners

end ElvishMail.Session
