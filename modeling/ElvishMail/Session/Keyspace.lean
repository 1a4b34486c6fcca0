import ElvishMail.Go.Encoding
import ElvishMail.Smtp.Wire
import ElvishMail.Semantics.Program
import ElvishMail.Semantics.Remote

/-!
# The keys of Valkey

`internal/session/session.go` and the records of `internal/httpserver` and
`internal/oauthoidc` that it stores: sessions, the tokens of a user, pending logins, the
setups of second factors, SRP challenges and OAuth codes all have keys with one prefix, and
a cookie is appended to that prefix as it is. What keeps a record from being read as a
session are its JSON field names.

Records are kept as JSON objects; the text of JSON and its reading back are the library's.
-/

namespace ElvishMail.Session.Keyspace

open Go Smtp Semantics

inductive Json where
  | null
  | bool (value : Bool)
  | num (value : Int)
  | str (text : GoString)
  | arr (items : List Json)
  | obj (fields : List (GoString × Json))

abbrev Fields : Type := List (GoString × Json)

/-- The values that `json.Unmarshal` stores in a field: names are compared without regard
to case. The names of fields are ASCII. -/
def Fields.at (fields : Fields) (name : String) : List Json :=
  fields.filterMap fun (key, value) => if key.map lowerByte = ascii name then some value else none

def errType : GoError := .plain (ascii "json: cannot unmarshal value into field")

/-- A text field: the last value counts, and `null` changes nothing. -/
def decodeText (values : List Json) : Except GoError GoString :=
  values.foldlM (fun text value => match value with
    | .str text => .ok text
    | .null => .ok text
    | _ => .error errType) []

def decodeInt (values : List Json) : Except GoError Int :=
  values.foldlM (fun number value => match value with
    | .num number => .ok number
    | .null => .ok number
    | _ => .error errType) 0

/-- The texts of an array; `null` leaves one empty. -/
def decodeItems (items : List Json) : Except GoError (List GoString) :=
  items.mapM fun
    | .str text => .ok text
    | .null => .ok []
    | _ => .error errType

def decodeTexts (values : List Json) : Except GoError (List GoString) :=
  values.foldlM (fun _ value => match value with
    | .arr items => decodeItems items
    | .null => .ok []
    | _ => .error errType) []

/-- A field with `omitempty` that is left out. -/
def omitEmpty (empty : Bool) (name : String) (value : Json) : Fields :=
  if empty then [] else [(ascii name, value)]

structure Payload where
  userID : GoString
  email : GoString
  amr : List GoString
  authenticated : Int
  mfaVerifiedAt : Int
deriving DecidableEq

def Payload.marshal (payload : Payload) : Fields :=
  [(ascii "uid", Json.str payload.userID), (ascii "email", .str payload.email)] ++
    omitEmpty (payload.amr = []) "amr" (.arr (payload.amr.map .str)) ++
    omitEmpty (payload.authenticated = 0) "auth_at" (.num payload.authenticated) ++
    omitEmpty (payload.mfaVerifiedAt = 0) "mfa_verified_at" (.num payload.mfaVerifiedAt)

def Payload.unmarshal (fields : Fields) : Except GoError Payload := do
  let userID ← decodeText (fields.at "uid")
  let email ← decodeText (fields.at "email")
  let amr ← decodeTexts (fields.at "amr")
  let authenticated ← decodeInt (fields.at "auth_at")
  let mfaVerifiedAt ← decodeInt (fields.at "mfa_verified_at")
  .ok { userID, email, amr, authenticated, mfaVerifiedAt }

/-- `pendingLoginState`. Times are texts. -/
structure PendingLogin where
  userID : GoString
  email : GoString
  name : GoString
  username : GoString
  isAdmin : Bool
  firstFactor : GoString
  methods : List GoString
  createdAt : GoString

/-- `pendingTOTPSetupState`. -/
structure PendingTOTPSetup where
  userID : GoString
  label : GoString
  secret : GoString
  issuer : GoString
  accountName : GoString
  createdAt : GoString

/-- `pendingWebAuthnState`, with the data of the WebAuthn library as they are. -/
structure PendingWebAuthn where
  userID : GoString
  sessionToken : GoString
  loginStateID : GoString
  sessionData : Json
  createdAt : GoString

/-- `srpChallenge`; its fields have no tags, and bytes are base64. -/
structure SRPChallenge where
  purpose : GoString
  userID : GoString
  expectedClientProof : GoString
  serverProof : GoString
  createdAt : GoString
  dummy : Bool

structure StoredAuthCode where
  userID : GoString
  email : GoString
  name : GoString
  nonce : GoString
  clientID : GoString
  redirectURI : GoString

inductive Record where
  | pendingLogin (state : PendingLogin)
  | totpSetup (state : PendingTOTPSetup)
  | webAuthn (state : PendingWebAuthn)
  | srpChallenge (challenge : SRPChallenge)
  | authCode (code : StoredAuthCode)

def Record.marshal : Record → Fields
  | pendingLogin state =>
    [(ascii "user_id", .str state.userID), (ascii "email", .str state.email)] ++
      omitEmpty (state.name = []) "name" (.str state.name) ++
      [(ascii "username", .str state.username), (ascii "is_admin", .bool state.isAdmin),
        (ascii "first_factor", .str state.firstFactor),
        (ascii "methods", .arr (state.methods.map .str)), (ascii "created_at", .str state.createdAt)]
  | totpSetup state =>
    [(ascii "user_id", .str state.userID), (ascii "label", .str state.label),
      (ascii "secret", .str state.secret), (ascii "issuer", .str state.issuer),
      (ascii "account_name", .str state.accountName), (ascii "created_at", .str state.createdAt)]
  | webAuthn state =>
    [(ascii "user_id", .str state.userID)] ++
      omitEmpty (state.sessionToken = []) "session_token" (.str state.sessionToken) ++
      omitEmpty (state.loginStateID = []) "login_state_id" (.str state.loginStateID) ++
      [(ascii "session_data", state.sessionData), (ascii "created_at", .str state.createdAt)]
  | srpChallenge challenge =>
    [(ascii "Purpose", .str challenge.purpose), (ascii "UserID", .str challenge.userID),
      (ascii "ExpectedClientProof", .str (base64Encode challenge.expectedClientProof)),
      (ascii "ServerProof", .str (base64Encode challenge.serverProof)),
      (ascii "CreatedAt", .str challenge.createdAt), (ascii "Dummy", .bool challenge.dummy)]
  | authCode code =>
    [(ascii "user_id", .str code.userID), (ascii "email", .str code.email)] ++
      omitEmpty (code.name = []) "name" (.str code.name) ++
      [(ascii "nonce", .str code.nonce), (ascii "client_id", .str code.clientID),
        (ascii "redirect_uri", .str code.redirectURI)]

theorem Record.at_uid (record : Record) : record.marshal.at "uid" = [] := by
  cases record with
  | pendingLogin state =>
    simp only [marshal]
    generalize decide (state.name = []) = unnamed
    cases unnamed <;> rfl
  | totpSetup state => rfl
  | webAuthn state =>
    simp only [marshal]
    generalize decide (state.sessionToken = []) = loggedOut
    generalize decide (state.loginStateID = []) = loggedIn
    cases loggedOut <;> cases loggedIn <;> rfl
  | srpChallenge challenge => rfl
  | authCode code =>
    simp only [marshal]
    generalize decide (code.name = []) = unnamed
    cases unnamed <;> rfl

theorem decodeItems_str (texts : List GoString) : decodeItems (texts.map .str) = .ok texts := by
  unfold decodeItems
  induction texts with
  | nil => rfl
  | cons text rest ih =>
    rw [List.map_cons, List.mapM_cons, ih]
    rfl

theorem Payload.marshal_at (payload : Payload) :
    payload.marshal.at "uid" = [.str payload.userID] ∧
      payload.marshal.at "email" = [.str payload.email] ∧
      payload.marshal.at "amr" = (if payload.amr = [] then [] else [.arr (payload.amr.map .str)]) ∧
      payload.marshal.at "auth_at" =
        (if payload.authenticated = 0 then [] else [.num payload.authenticated]) ∧
      payload.marshal.at "mfa_verified_at" =
        (if payload.mfaVerifiedAt = 0 then [] else [.num payload.mfaVerifiedAt]) := by
  unfold Payload.marshal
  by_cases first : payload.amr = [] <;> by_cases second : payload.authenticated = 0 <;>
    by_cases third : payload.mfaVerifiedAt = 0 <;> simp only [first, second, third] <;>
    exact ⟨rfl, rfl, rfl, rfl, rfl⟩

theorem Payload.unmarshal_marshal (payload : Payload) :
    Payload.unmarshal payload.marshal = .ok payload := by
  obtain ⟨uid, email, amr, authAt, mfaAt⟩ := payload.marshal_at
  have texts : decodeTexts (payload.marshal.at "amr") = .ok payload.amr := by
    rw [amr]
    split
    next empty => rw [empty]; rfl
    · rw [decodeTexts, List.foldlM_cons]
      simp only [decodeItems_str]
      rfl
  have authenticated : decodeInt (payload.marshal.at "auth_at") = .ok payload.authenticated := by
    rw [authAt]
    split
    next zero => rw [zero]; rfl
    · rfl
  have mfaVerifiedAt : decodeInt (payload.marshal.at "mfa_verified_at") = .ok payload.mfaVerifiedAt := by
    rw [mfaAt]
    split
    next zero => rw [zero]; rfl
    · rfl
  rw [Payload.unmarshal, uid, email, texts, authenticated, mfaVerifiedAt]
  rfl

theorem Record.unmarshal_marshal (record : Record) {payload : Payload}
    (read : Payload.unmarshal record.marshal = .ok payload) : payload.userID = [] := by
  rw [Payload.unmarshal, record.at_uid] at read
  have first : decodeText [] = .ok [] := rfl
  rw [first] at read
  simp only [bind, Except.bind] at read
  split at read
  · cases read
  split at read
  · cases read
  split at read
  · cases read
  split at read
  · cases read
  cases read
  rfl

theorem Record.stepUp_at (state : PendingWebAuthn) :
    decodeText ((webAuthn state).marshal.at "user_id") = .ok state.userID ∧
      decodeText ((webAuthn state).marshal.at "session_token") = .ok state.sessionToken := by
  simp only [marshal]
  generalize decide (state.loginStateID = []) = loggedIn
  by_cases loggedOut : state.sessionToken = []
  · simp only [loggedOut, decide_true]
    cases loggedIn <;> exact ⟨rfl, rfl⟩
  · simp only [loggedOut, decide_false]
    cases loggedIn <;> exact ⟨rfl, rfl⟩

end ElvishMail.Session.Keyspace
