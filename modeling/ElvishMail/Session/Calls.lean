import ElvishMail.Session.Keyspace

/-!
# Sessions and records under their keys

The calls of `internal/session/session.go` on the keys of Valkey, and the requests of
`internal/httpserver` that make them. A key holds a JSON text or a set of tokens; a command
for the other kind fails. Other services of the same Valkey have keys with other prefixes.

What `uuid.Parse` reads is a parameter, as are the accounts a request finds and what the
checks of a second factor answer.
-/

namespace ElvishMail.Session.Keyspace

open Go Smtp Semantics

inductive Stored where
  | json (fields : Fields)
  | tokens (members : List GoString)

abbrev Valkey : Type := GoString → Option Stored

inductive Command where
  | get (key : GoString)
  | getDel (key : GoString)
  | set (key : GoString) (fields : Fields)
  | del (key : GoString)
  | sadd (key token : GoString)
  | srem (key token : GoString)
  | smembers (key : GoString)
  | expire (key : GoString)

def errWrongType : GoError :=
  .plain (ascii "WRONGTYPE Operation against a key holding the wrong kind of value")

def Valkey.text (valkey : Valkey) (key : GoString) : Except GoError (Option Fields) :=
  match valkey key with
  | none => .ok none
  | some (.json fields) => .ok (some fields)
  | some (.tokens _) => .error errWrongType

def Valkey.members (valkey : Valkey) (key : GoString) : Except GoError (List GoString) :=
  match valkey key with
  | none => .ok []
  | some (.tokens members) => .ok members
  | some (.json _) => .error errWrongType

def Valkey.write (valkey : Valkey) (key : GoString) (value : Option Stored) : Valkey :=
  Function.update valkey key value

def Valkey.writeMembers (valkey : Valkey) (key : GoString) (members : List GoString) : Valkey :=
  valkey.write key (if members = [] then none else some (.tokens members))

namespace Command

/-- What a command returns; a `get` of no value is `redis.Nil`. -/
abbrev Answer : Command → Type
  | get _ | getDel _ => Except GoError (Option Fields)
  | smembers _ => Except GoError (List GoString)
  | _ => Option GoError

def change (outcome : Outcome GoError) (key : GoString) (edit : List GoString → List GoString)
    (valkey : Valkey) : Option GoError × Valkey :=
  match valkey.members key with
  | .error err => (outcome.error?.or (some err), valkey)
  | .ok members => outcome.exec (fun valkey => valkey.writeMembers key (edit members)) valkey

def answer (outcome : Outcome GoError) : (command : Command) → Valkey → command.Answer × Valkey
  | get key, valkey => (outcome.read (valkey.text key) >>= id, valkey)
  | getDel key, valkey =>
    match valkey.text key with
    | .error err => (outcome.read (.error err) >>= id, valkey)
    | .ok text => (outcome.read text, if outcome.applied then valkey.write key none else valkey)
  | set key fields, valkey => outcome.exec (fun valkey => valkey.write key (some (.json fields))) valkey
  | del key, valkey => outcome.exec (fun valkey => valkey.write key none) valkey
  | sadd key token, valkey =>
    change outcome key (fun members => if token ∈ members then members else members ++ [token]) valkey
  | srem key token, valkey => change outcome key (fun members => members.filter (· ≠ token)) valkey
  | smembers key, valkey => (outcome.read (valkey.members key) >>= id, valkey)
  | expire _, valkey => (outcome.error?, valkey)

end Command

abbrev Commands (Value : Type) : Type := Program Command Command.Answer Value

def sessionPrefix : GoString := ascii "elvish:sess:"

def key (token : GoString) : GoString := sessionPrefix ++ token

def userKey (userID : GoString) : GoString := sessionPrefix ++ ascii "byuid:" ++ userID

/-- What `ephemeralKey` appends to the prefix: the handle of a record as a cookie. -/
def ephemeralHandle (bucket id : GoString) : GoString :=
  ascii "ephem:" ++ trimSpace bucket ++ ascii ":" ++ trimSpace id

def ephemeralKey (bucket id : GoString) : GoString := key (ephemeralHandle bucket id)

def Payload.stamped (payload : Payload) (now : Int) : Payload :=
  if payload.authenticated = 0 then { payload with authenticated := now } else payload

def errPayload : GoError := .plain (ascii "session: invalid payload")

/-- The end of `CreateWithPayload`: a session that cannot be indexed is deleted. -/
def indexNew (userID token : GoString) : Commands (Except GoError GoString) :=
  .ask (.sadd (userKey userID) token) fun
    | some err => .ask (.del (key token)) fun _ => .done (.error err)
    | none => .ask (.expire (userKey userID)) fun _ => .done (.ok token)

/-- `CreateWithPayload`, given the random bytes of `randomToken`. -/
def createWithPayload (draw : Except GoError GoString) (payload : Payload) (now : Int) :
    Commands (Except GoError GoString) :=
  if trimSpace payload.userID = [] ∨ trimSpace payload.email = [] then .done (.error errPayload)
  else match draw with
    | .error err => .done (.error err)
    | .ok random => .ask (.set (key (hexEncode random)) (payload.stamped now).marshal) fun
      | some err => .done (.error err)
      | none => indexNew payload.userID (hexEncode random)

/-- `Get`; `none` is `redis.Nil`. -/
def get (token : GoString) : Commands (Except GoError (Option Payload)) :=
  if token = [] then .done (.ok none)
  else .ask (.get (key token)) fun
    | .error err => .done (.error err)
    | .ok none => .done (.ok none)
    | .ok (some raw) => .done (match Payload.unmarshal raw with
      | .error err => .error (err.wrap (ascii "session: corrupt payload: "))
      | .ok payload => .ok (some payload))

def put (token : GoString) (payload : Payload) (now : Int) : Commands (Option GoError) :=
  if trimSpace token = [] then .done (some (.plain (ascii "session: token required")))
  else if trimSpace payload.userID = [] ∨ trimSpace payload.email = [] then .done (some errPayload)
  else .ask (.set (key token) (payload.stamped now).marshal) fun
    | some err => .done (some err)
    | none => .ask (.sadd (userKey payload.userID) token) fun _ =>
      .ask (.expire (userKey payload.userID)) fun _ => .done none

/-- The end of `Delete`. -/
def remove (token : GoString) : Commands (Option GoError) :=
  .ask (.del (key token)) .done

def delete (token : GoString) : Commands (Option GoError) :=
  if token = [] then .done none
  else .ask (.get (key token)) fun
    | .error err => .done (some err)
    | .ok none => remove token
    | .ok (some raw) => match Payload.unmarshal raw with
      | .error _ => remove token
      | .ok payload =>
        if trimSpace payload.userID = [] then remove token
        else .ask (.srem (userKey (trimSpace payload.userID)) token) fun _ => remove token

/-- The pipeline of `DeleteUserSessions`: every command is sent, and the first error is
returned. -/
def sweep (index : GoString) : List GoString → Option GoError → Commands (Option GoError)
  | [], err => .ask (.del index) fun last => .done (err.or last)
  | token :: rest, err => .ask (.del (key token)) fun next => sweep index rest (err.or next)

def deleteUserSessions (userID : GoString) : Commands (Option GoError) :=
  .ask (.smembers (userKey userID)) fun
    | .error err => .done (some err)
    | .ok tokens => if tokens.length = 0 then .done none else sweep (userKey userID) tokens none

def putEphemeralJSON (bucket id : GoString) (value : Fields) : Commands (Option GoError) :=
  if trimSpace bucket = [] ∨ trimSpace id = [] then
    .done (some (.plain (ascii "session: ephemeral bucket/id required")))
  else .ask (.set (ephemeralKey bucket id) value) .done

/-- `TakeEphemeralJSON`, without the reading of what it found. -/
def takeEphemeralJSON (bucket id : GoString) : Commands (Except GoError (Option Fields)) :=
  if trimSpace bucket = [] ∨ trimSpace id = [] then
    .done (.error (.plain (ascii "session: ephemeral bucket/id required")))
  else .ask (.getDel (ephemeralKey bucket id)) .done

/-- `SaveTemporaryJSON`, given the random bytes of `randomToken`. -/
def saveTemporaryJSON (kind : GoString) (draw : Except GoError GoString) (value : Fields) :
    Commands (Except GoError GoString) :=
  if trimSpace kind = [] then .done (.error (.plain (ascii "session: temp kind required")))
  else match draw with
    | .error err => .done (.error err)
    | .ok random => .ask (.set (ephemeralKey kind (hexEncode random)) value) fun
      | some err => .done (.error err)
      | none => .done (.ok (hexEncode random))

/-- `LoadTemporaryJSON`, without the reading of what it found. -/
def loadTemporaryJSON (kind id : GoString) : Commands (Except GoError (Option Fields)) :=
  if trimSpace kind = [] ∨ trimSpace id = [] then .done (.ok none)
  else .ask (.get (ephemeralKey kind id)) .done

def deleteTemporaryJSON (kind id : GoString) : Commands (Option GoError) :=
  if trimSpace kind = [] ∨ trimSpace id = [] then .done none
  else .ask (.del (ephemeralKey kind id)) .done

inductive Kind where
  | pendingLogin
  | totpSetup
  | webAuthnRegister
  | webAuthnLogin
  | webAuthnStepUp
  | srpChallenge
  | oauthCode
deriving DecidableEq

def Kind.bucket : Kind → GoString
  | pendingLogin => ascii "mfa-login"
  | totpSetup => ascii "mfa-totp-setup"
  | webAuthnRegister => ascii "mfa-webauthn-register"
  | webAuthnLogin => ascii "mfa-webauthn-login"
  | webAuthnStepUp => ascii "mfa-webauthn-stepup"
  | srpChallenge => ascii "srpchallenge"
  | oauthCode => ascii "oauthcode"

structure UUIDs (User : Type) where
  text : User → GoString
  parse : GoString → Except GoError User

/-- The text of a UUID is read back, and no UUID has an empty text. -/
structure UUIDs.Lawful {User : Type} (uuids : UUIDs User) : Prop where
  parse_text : ∀ user, uuids.parse (uuids.text user) = .ok user
  parse_empty : ∀ user, uuids.parse [] ≠ .ok user

section Requests

variable {User : Type} (uuids : UUIDs User)

structure Context (User : Type) where
  user : User
  pay : Payload
  token : GoString

def Payload.user (payload : Payload) : Except GoError User := uuids.parse (trimSpace payload.userID)

/-- `sessionFromRequest`, given the errors of `UserByID`. The activity of the user is left
out: it changes neither the session nor who it is of. -/
def sessionFromRequest (userByID : User → Option GoError) (cookie : GoString) :
    Commands (Option (Context User)) :=
  if cookie = [] then .done none
  else get cookie >>= fun
    | .ok (some pay) => match pay.user uuids with
      | .error _ => .done none
      | .ok user => match userByID user with
        | some _ => .done none
        | none => .done (some ⟨user, pay, cookie⟩)
    | _ => .done none

def errLogin : GoError := .plain (ascii "login required")

def markSessionMFAVerified (token : GoString) (pay : Payload) (now : Int) : Commands (Option GoError) :=
  put token { pay with mfaVerifiedAt := now } now

/-- `apiAuth2FAVerifyTOTP` and `apiAuth2FAVerifyRecovery`, given what the check of the code
answers. -/
def verifyCode (userByID : User → Option GoError) (cookie : GoString) (checked : Option GoError)
    (now : Int) : Commands (Option GoError) :=
  sessionFromRequest uuids userByID cookie >>= fun
    | none => .done (some errLogin)
    | some context => match checked with
      | some err => .done (some err)
      | none => markSessionMFAVerified context.token context.pay now

/-- `apiAuth2FAVerifyWebAuthnBegin`, given the data of the WebAuthn library. -/
def stepUpBegin (userByID : User → Option GoError) (cookie : GoString)
    (begun : Except GoError Json) (draw : Except GoError GoString) (now : GoString) :
    Commands (Except GoError GoString) :=
  sessionFromRequest uuids userByID cookie >>= fun
    | none => .done (.error errLogin)
    | some context => match begun with
      | .error err => .done (.error err)
      | .ok sessionData =>
        saveTemporaryJSON Kind.webAuthnStepUp.bucket draw
          (Record.webAuthn ⟨uuids.text context.user, context.token, [], sessionData, now⟩).marshal

/-- What `apiAuth2FAVerifyWebAuthnFinish` reads of a stored step-up: its user and its session. -/
def readStepUp (raw : Fields) : Except GoError (GoString × GoString) := do
  let userID ← decodeText (raw.at "user_id")
  let sessionToken ← decodeText (raw.at "session_token")
  .ok (userID, sessionToken)

/-- `apiAuth2FAVerifyWebAuthnFinish`, given what the reading of the other fields and the check
of the assertion answer. -/
def stepUpFinish (userByID : User → Option GoError) (cookie challengeID : GoString)
    (readable : Fields → Option GoError) (checked : Option GoError) (now : Int) :
    Commands (Option GoError) :=
  sessionFromRequest uuids userByID cookie >>= fun
    | none => .done (some errLogin)
    | some context =>
      loadTemporaryJSON Kind.webAuthnStepUp.bucket (trimSpace challengeID) >>= fun
        | .error err => .done (some err)
        | .ok none => .done (some (.plain (ascii "security key challenge expired")))
        | .ok (some raw) => match readStepUp raw, readable raw with
          | .error err, _ => .done (some err)
          | _, some err => .done (some err)
          | .ok (userID, sessionToken), none =>
            if userID ≠ uuids.text context.user then
              .done (some (.plain (ascii "security key challenge expired")))
            else match checked with
              | some err => .done (some err)
              | none =>
                deleteTemporaryJSON Kind.webAuthnStepUp.bucket (trimSpace challengeID) >>= fun _ =>
                  markSessionMFAVerified sessionToken context.pay now

def clearBrowserSession (cookie : GoString) : Commands (Option GoError) :=
  if cookie = [] then .done none else delete cookie

end Requests

end ElvishMail.Session.Keyspace
