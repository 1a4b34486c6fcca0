import ElvishMail.Elvishserver.Authentication
import ElvishMail.Httpserver.Challenges
import ElvishMail.Httpserver.Oidc
import ElvishMail.Semantics.Handlers

/-!
# Ways in

All the ways in which a request is taken to be a user's, on one set of stores: passwords
and SRP challenges, second factors of a pending login, sessions, authorization codes and
SMTP credentials (`internal/httpserver/auth_srp.go`, `api.go`, `api_auth_2fa.go`, `mfa.go`,
`oidc.go`, `api_admin_users.go`, and `cmd/elvishserver/smtp_backend.go`). The requests are
those of the other modules, whose commands become queries of these stores. Here a request
runs to its end before the next one begins.

What a code or a security key proves comes with the request. Requests on other tables,
which only need a session, are one kind of action. Of a pending login only the user and the
first factor are ever read.
-/

namespace ElvishMail.Elvishserver

open Go Smtp Mailmeta Mailpipe Semantics Httpserver

/-- `pendingLoginState`. -/
structure PendingLogin where
  userID : Nat
  firstFactor : GoString
deriving DecidableEq

/-- `pendingWebAuthnState` of a login. -/
structure PendingWebAuthn where
  userID : Nat
  loginStateID : GoString
deriving DecidableEq

/-- The stores: users with their names and the ids that were ever given to users, SRP
challenges, sessions, second factors, the temporary values of logins, authorization codes,
and SMTP credentials. -/
structure AccessStore where
  auth : Auth.AuthStore
  names : Nat → GoString
  given : Nat → Bool
  valkey : Session.Valkey
  accounts : Nat → Account
  pendingLogins : GoString → Option PendingLogin
  webAuthnLogins : GoString → Option PendingWebAuthn
  codes : GoString → Option OIDC.Kept
  credentials : SMTPCredentials

structure AccessSite where
  auth : Auth.AuthSite
  oidc : OIDC.OIDCSite
  bcrypt : Bcrypt
  backend : SMTPBackend

inductive SMTPAction where
  | create (random : Random) (body : Option (GoString × GoString))
  | regenerate (random : Random) (credentialID : Nat)
  | delete (credentialID : Nat)

/-- The queries of these stores: the commands and operations of the other modules, and
those of the temporary values and the other tables. A row that a request holds already,
and of which the program that read it returned the id only, is not read again. -/
inductive AccessQuery where
  | auth (command : Auth.Command)
  | session (command : Session.Command)
  | factor (userID : Nat) (operation : Operation)
  | oidc (command : OIDC.Command)
  | saveLogin (id : GoString) (state : PendingLogin)
  | loadLogin (id : GoString)
  | deleteLogin (id : GoString)
  | saveWebAuthn (id : GoString) (state : PendingWebAuthn)
  | loadWebAuthn (id : GoString)
  | deleteWebAuthn (id : GoString)
  | deleteTemporary
  | heldRow (userID : Nat)
  | insertUser (row : Auth.UserAuth) (name : GoString)
  | deleteUser (userID : Nat)
  | updateUserPasswordHash (userID : Nat) (passwordHash : GoString)
  | smtp (userID : Nat) (action : SMTPAction)
  | authenticate (credentials : Credentials)

def SMTPBackend.acceptedUser (be : SMTPBackend) (bcrypt : Bcrypt) (table : SMTPCredentials)
    (credentials : Credentials) : Option Nat :=
  match be.authenticator bcrypt table with
  | none => none
  | some auth =>
    if (auth credentials).isSome then none
    else ((smtpCredentialForAuth (normalized be.pipe.lib credentials.username) table).map
      Prod.fst).toOption

namespace AccessStore

variable (store : AccessStore)

def oidc : OIDC.OIDCStore where
  codes := store.codes
  sessions := store.valkey.sessions
  users userID := (store.auth.user userID).map fun row => ⟨row.email, store.names userID⟩
  accounts := store.accounts
  clock := store.auth.clock
  drawn _ := false

def withUser (row : Auth.UserAuth) (name : GoString) : AccessStore :=
  { store with
    auth.users := store.auth.users ++ [row]
    names := Function.update store.names row.userID name
    given := Function.update store.given row.userID true }

/-- Whether the constraints allow a new user; ids are random, and so never given twice. -/
def admits (row : Auth.UserAuth) : Bool :=
  !store.given row.userID && store.auth.users.all fun other => other.email ≠ row.email

def withoutUser (userID : Nat) : AccessStore :=
  { store with
    auth.users := store.auth.users.filter fun row => row.userID ≠ userID
    accounts := Function.update store.accounts userID .fresh
    credentials := store.credentials.without fun row => row.userID = userID }

def withPasswordHash (userID : Nat) (passwordHash : GoString) : AccessStore :=
  { store with
    auth.users := store.auth.users.map fun row =>
      if row.userID = userID then { row with passwordHash } else row }

end AccessStore

namespace AccessQuery

abbrev Answer : AccessQuery → Type
  | auth command => command.Answer
  | session command => command.Answer
  | factor _ operation => operation.Answer
  | oidc command => command.Answer
  | loadLogin _ => Except GoError (Option PendingLogin)
  | loadWebAuthn _ => Except GoError (Option PendingWebAuthn)
  | heldRow _ => Option Auth.UserAuth
  | insertUser _ _ => Option WriteError
  | updateUserPasswordHash _ _ => Option StoreError
  | smtp _ _ => Except Refusal (Option Issued)
  | authenticate _ => Option Nat
  | _ => Option GoError

def runSMTP (site : AccessSite) (outcome : Outcome GoError) (userID : Nat) (table : SMTPCredentials) :
    SMTPAction → Except Refusal (Option Issued) × SMTPCredentials
  | .create random body =>
    let (reply, table) :=
      apiSMTPCreate site.backend.pipe.lib site.bcrypt random outcome userID body table
    (reply.map some, table)
  | .regenerate random credentialID =>
    let (reply, table) := apiSMTPRegenerate site.bcrypt random outcome userID credentialID table
    (reply.map some, table)
  | .delete credentialID =>
    let (refusal, table) := apiSMTPDelete outcome userID credentialID table
    (match refusal with
      | some refusal => .error refusal
      | none => .ok none, table)

def answer (site : AccessSite) (outcome : Outcome GoError) :
    (query : AccessQuery) → AccessStore → query.Answer × AccessStore
  | auth command, store =>
    let (reply, after) := command.answer 0 outcome store.auth
    (reply, { store with auth := after })
  | session command, store =>
    let (reply, after) := command.answer outcome store.valkey
    (reply, { store with valkey := after })
  | factor userID operation, store =>
    let (reply, account) := operation.answer outcome (store.accounts userID)
    (reply, { store with accounts := Function.update store.accounts userID account })
  | oidc command, store =>
    let (reply, after) := command.answer 0 outcome store.oidc
    (reply, { store with codes := after.codes, accounts := after.accounts })
  | saveLogin id state, store =>
    outcome.exec (fun store =>
      { store with pendingLogins := Function.update store.pendingLogins id (some state) }) store
  | loadLogin id, store => (outcome.read (store.pendingLogins id), store)
  | deleteLogin id, store =>
    outcome.exec (fun store =>
      { store with pendingLogins := Function.update store.pendingLogins id none }) store
  | saveWebAuthn id state, store =>
    outcome.exec (fun store =>
      { store with webAuthnLogins := Function.update store.webAuthnLogins id (some state) }) store
  | loadWebAuthn id, store => (outcome.read (store.webAuthnLogins id), store)
  | deleteWebAuthn id, store =>
    outcome.exec (fun store =>
      { store with webAuthnLogins := Function.update store.webAuthnLogins id none }) store
  | deleteTemporary, store => (outcome.error?, store)
  | heldRow userID, store => (store.auth.user userID, store)
  | deleteUser userID, store => outcome.exec (·.withoutUser userID) store
  | insertUser row name, store =>
    if store.admits row then
      let (err, store) := outcome.exec (·.withUser row name) store
      (err.map .failed, store)
    else (some ((outcome.error?.map .failed).getD .duplicateKey), store)
  | updateUserPasswordHash userID passwordHash, store =>
    if (store.auth.user userID).isSome then
      let (err, store) := outcome.exec (·.withPasswordHash userID passwordHash) store
      (err.map .failed, store)
    else (some ((outcome.error?.map .failed).getD .notFound), store)
  | smtp userID action, store =>
    let (reply, credentials) := runSMTP site outcome userID store.credentials action
    (reply, { store with credentials })
  | authenticate credentials, store =>
    (if outcome.error?.isSome then none
      else site.backend.acceptedUser site.bcrypt store.credentials credentials, store)

end AccessQuery

inductive ActReply where
  | auth (reply : Auth.AuthReply)
  | mfa (reply : MFAReply)
  | smtp (reply : Except Refusal (Option Issued))
  | refused (refusal : Refusal)
  | done

/-- What a request comes to: it is refused or answered without a user, it acts for a user,
or it is answered by the OIDC endpoints. -/
inductive AccessReply where
  | refused (refusal : Refusal)
  | auth (reply : Auth.AuthReply)
  | challenged (id : GoString)
  | ok
  | acted (userID : Nat) (reply : ActReply)
  | oidc (reply : OIDC.OIDCReply)

abbrev AccessProgram (Value : Type) : Type := Program AccessQuery AccessQuery.Answer Value

def deny (code : Nat) (text : String) : AccessProgram AccessReply :=
  .done (.refused (.status code (ascii text)))

def failing (label : String) (err : GoError) : AccessProgram AccessReply :=
  .done (.refused (.internal (ascii label) err))

def runAuth (program : Auth.Commands) : AccessProgram Auth.AuthReply :=
  program.handle fun command => .ask (.auth command) .done

def runOIDC (program : OIDC.Commands) : AccessProgram AccessReply :=
  program.handle (fun command => .ask (.oidc command) .done) >>= fun reply => .done (.oidc reply)

def runSession (program : Session.Commands) : AccessProgram (Option GoError) :=
  program.handle (fun command => .ask (.session command) .done) >>= fun
    | .failed err => .done (some err)
    | _ => .done none

/-- What a request draws, and its time: the token of a session, and the id of a pending
login. -/
structure Draw where
  token : Except GoError GoString
  challengeID : Except GoError GoString
  now : Int

def payloadOf (user : Auth.UserAuth) (authenticated : Int) (payload : Payload) : Session.Payload :=
  ⟨user.userID, user.email, payload.amr, authenticated, payload.mfaVerifiedAt⟩

section Requests

variable (site : AccessSite)

/-- How the requests on second factors use the stores: for a user, with the first factor of
a pending login, the token of the session, and the pending login that is over. -/
def onFactors (user : Auth.UserAuth) (firstFactor : GoString)
    (draw : Draw) (session : Option (GoString × Int))
    (finished : Option GoString) : (operation : Operation) → AccessProgram operation.Answer
  | .saveTemporaryJSON =>
    match draw.challengeID with
    | .error err => .done (some err)
    | .ok id => .ask (.saveLogin id ⟨user.userID, trimSpace firstFactor⟩) .done
  | .deleteTemporaryJSON =>
    match finished with
    | none => .ask .deleteTemporary .done
    | some id => .ask (.deleteLogin id) .done
  | .deleteUserSessions => runSession (Session.deleteUserSessions user.userID)
  | .createSession payload =>
    runSession (Session.createWithPayload draw.token (payloadOf user draw.now payload) draw.now)
  | .putSession payload =>
    match session with
    | none => .done none
    | some (token, authenticated) =>
      runSession (Session.put token (payloadOf user authenticated payload) draw.now)
  | operation => .ask (.factor user.userID operation) .done

def act (user : Auth.UserAuth) (program : AccessProgram ActReply) : AccessProgram AccessReply :=
  program >>= fun reply => .done (.acted user.userID reply)

def finishLogin (user : Auth.UserAuth) (firstFactor : GoString) (draw : Draw) (finished : Option GoString)
    (program : Operations MFAReply) : AccessProgram AccessReply :=
  program.handle (onFactors user firstFactor draw none finished) >>= fun
    | .refused refusal => .done (.refused refusal)
    | reply => .done (.acted user.userID (.mfa reply))

/-! ### Logging in -/

/-- `apiLoginSRPFinish`. -/
def loginSRPFinish (gate : Option Refusal) (body : Auth.FinishBody) (draw : Draw) :
    AccessProgram AccessReply :=
  runAuth (Auth.apiLoginSRPFinish site.auth gate body) >>= fun
    | .verified userID _ => .ask (.heldRow userID) fun
        | none => deny 401 "invalid credentials"
        | some user => finishLogin user (ascii "srp") draw none Httpserver.apiLoginSRPFinish
    | reply => .done (.auth reply)

/-- `apiLogin`. -/
def login (gate : Option Refusal) (username password : GoString) (draw : Draw) :
    AccessProgram AccessReply :=
  match gate with
  | some refusal => .done (.refused refusal)
  | none =>
  let lib := site.auth.site.lib
  match normalizeAndValidateUsername lib username with
  | none => deny 400 "invalid username"
  | some user =>
  let email := composeCanonicalEmail lib user site.auth.site.effectiveMailDomain
  .ask (.auth (.userAuthByEmail (trimLower lib email))) fun
    | .error .notFound => deny 401 "invalid credentials"
    | .error (.failed err) => failing "login user lookup" err
    | .ok row =>
      if site.bcrypt.accepts row.passwordHash password = false then deny 401 "invalid credentials"
      else finishLogin row (ascii "password") draw none Httpserver.apiLogin

/-- `LoadTemporaryJSON` of a pending login. -/
def loadLogin (id : GoString) (next : Option PendingLogin → AccessProgram AccessReply) :
    AccessProgram AccessReply :=
  if trimSpace id = [] then next none
  else .ask (.loadLogin (trimSpace id)) fun
    | .error err => failing "pending login load" err
    | .ok state => next state

def withPending (id : GoString) (next : PendingLogin → Auth.UserAuth → AccessProgram AccessReply) :
    AccessProgram AccessReply :=
  loadLogin id fun
    | none => deny 401 "login challenge expired"
    | some state => .ask (.auth (.userByID state.userID)) fun
        | .error _ => deny 401 "invalid login challenge"
        | .ok user => next state user

def mfaMethodFromFirstFactor (firstFactor : GoString) : List GoString :=
  if trimSpace firstFactor = ascii "srp" then [ascii "pwd", ascii "srp"] else [ascii "pwd"]

def issueWith (state : PendingLogin) (method : String) (draw : Draw) : Operations MFAReply :=
  issueLoginSession draw.now
    (appendMFAMethod (mfaMethodFromFirstFactor state.firstFactor) (ascii method)) true "login session"

/-- `apiAuth2FALoginTOTP`. -/
def loginTOTP (gate : Option Refusal) (id : GoString) (proved : Bool) (draw : Draw) :
    AccessProgram AccessReply :=
  match gate with
  | some refusal => .done (.refused refusal)
  | none => withPending id fun state user =>
    if proved = false then deny 401 "invalid authenticator code"
    else .ask (.deleteLogin (trimSpace id)) fun _ =>
      finishLogin user state.firstFactor draw none (issueWith state "totp" draw)

/-- `apiAuth2FALoginRecovery`. -/
def loginRecovery (gate : Option Refusal) (id hash : GoString) (draw : Draw) :
    AccessProgram AccessReply :=
  match gate with
  | some refusal => .done (.refused refusal)
  | none => withPending id fun state user =>
    finishLogin user state.firstFactor draw (some (trimSpace id))
      (apiAuth2FALoginRecovery none hash (mfaMethodFromFirstFactor state.firstFactor) draw.now)

/-- `apiAuth2FALoginWebAuthnBegin`. -/
def loginWebAuthnBegin (gate : Option Refusal) (id : GoString) (draw : Draw) :
    AccessProgram AccessReply :=
  match gate with
  | some refusal => .done (.refused refusal)
  | none => loadLogin id fun
      | none => deny 401 "login challenge expired"
      | some state => .ask (.auth (.userByID state.userID)) fun
          | .error err => failing "webauthn user" (Auth.errorOf err)
          | .ok _ => match draw.challengeID with
              | .error err => failing "webauthn temp" err
              | .ok fresh => .ask (.saveWebAuthn fresh ⟨state.userID, trimSpace id⟩) fun
                  | some err => failing "webauthn temp" err
                  | none => .done (.challenged fresh)

/-- `apiAuth2FALoginWebAuthnFinish` for a challenge that was loaded. -/
def finishWebAuthn (id : GoString) (state : PendingWebAuthn) (proved : Bool) (draw : Draw) :
    AccessProgram AccessReply :=
  loadLogin state.loginStateID fun
    | none => deny 401 "login challenge expired"
    | some pending => .ask (.auth (.userByID state.userID)) fun
        | .error err => failing "webauthn user" (Auth.errorOf err)
        | .ok user =>
          if proved = false then deny 401 "security key verification failed"
          else .ask (.deleteWebAuthn (trimSpace id)) fun _ =>
            .ask (.deleteLogin (trimSpace state.loginStateID)) fun _ =>
              finishLogin user pending.firstFactor draw none (issueWith pending "webauthn" draw)

/-- `apiAuth2FALoginWebAuthnFinish`. -/
def loginWebAuthnFinish (gate : Option Refusal) (id : GoString) (proved : Bool) (draw : Draw) :
    AccessProgram AccessReply :=
  match gate with
  | some refusal => .done (.refused refusal)
  | none =>
    if trimSpace id = [] then deny 401 "security key challenge expired"
    else .ask (.loadWebAuthn (trimSpace id)) fun
      | .error err => failing "webauthn temp load" err
      | .ok none => deny 401 "security key challenge expired"
      | .ok (some state) => finishWebAuthn id state proved draw

/-- `apiRegister` on these stores. A user whose keys cannot be stored is deleted again. -/
def register (gate : Option Refusal) (row : Auth.UserAuth) (name : GoString)
    (bootstrap : Option Refusal) (draw : Draw) : AccessProgram AccessReply :=
  match gate with
  | some refusal => .done (.refused refusal)
  | none => .ask (.insertUser row name) fun
      | some .duplicateKey => deny 409 "username already taken"
      | some err => failing "register create srp user" err.error
      | none => match bootstrap with
          | some refusal => .ask (.deleteUser row.userID) fun _ => .done (.refused refusal)
          | none => runSession
              (Session.createWithPayload draw.token ⟨row.userID, row.email, [], draw.now, 0⟩ draw.now) >>= fun
              | some err => failing "register issue session" err
              | none => .done (.acted row.userID .done)

/-! ### With a session -/

inductive FactorRequest where
  | totpConfirm (registration : Registration)
  | webAuthnRegisterFinish (registration : Registration)
  | totpDelete (deletion : Deletion)
  | webAuthnDelete (deletion : Deletion)
  | recoveryRegenerate (codeHashes : Except GoError (List GoString)) (now : Int)
  | verifyRecovery (checked : Option Refusal) (hash : GoString) (now : Int)

def FactorRequest.program (session : RequestSession) : FactorRequest → Operations MFAReply
  | totpConfirm registration => apiAuth2FATOTPConfirm { registration with session := some session }
  | webAuthnRegisterFinish registration =>
    apiAuth2FAWebAuthnRegisterFinish { registration with session := some session }
  | totpDelete deletion => apiAuth2FATOTPDelete { deletion with session := some session }
  | webAuthnDelete deletion => apiAuth2FAWebAuthnDelete { deletion with session := some session }
  | recoveryRegenerate codeHashes now => apiAuth2FARecoveryRegenerate (some session) codeHashes now
  | verifyRecovery checked hash now => apiAuth2FAVerifyRecovery (some session) checked hash now

inductive Action where
  | passwordBegin (draws : Auth.Draws) (gate : Option Refusal) (clientPublicB64 : GoString)
  | passwordFinish (gate : Option Refusal) (body : Auth.PasswordChange)
  | deleteBegin (draws : Auth.Draws) (gate : Option Refusal) (clientPublicB64 : GoString)
  | deleteFinish (gate : Option Refusal) (confirmation : GoString) (body : Auth.FinishBody)
  | factors (request : FactorRequest) (draw : Draw)
  | verify (refused : Option Refusal) (now : Int)
  | smtp (action : SMTPAction)
  | elsewhere

def Action.program (cookie : GoString) (user : Auth.UserAuth) (pay : Session.Payload) :
    Action → AccessProgram ActReply
  | passwordBegin draws gate clientPublic =>
    runAuth (Auth.apiAuthPasswordSRPBegin site.auth draws gate user.userID clientPublic) >>= fun reply =>
      .done (.auth reply)
  | passwordFinish gate body =>
    runAuth (Auth.apiAuthPasswordSRPFinish site.auth gate user.userID body) >>= fun reply =>
      .done (.auth reply)
  | deleteBegin draws gate clientPublic =>
    runAuth (Auth.apiAuthAccountDeleteSRPBegin site.auth draws gate user.userID clientPublic) >>=
      fun reply => .done (.auth reply)
  | deleteFinish gate confirmation body =>
    runAuth (Auth.decodeVerifiedAccountDeleteAction site.auth gate user.userID confirmation body) >>=
      fun reply => .done (.auth reply)
  | factors request draw => .ask (.auth .now) fun now =>
    let session : RequestSession := ⟨⟨pay.amr, pay.mfaVerifiedAt⟩,
      now - pay.mfaVerifiedAt * 1000000000 ≤ OIDC.mfaRecentVerificationTTL⟩
    (request.program session).handle
      (onFactors user [] draw (some (cookie, pay.authenticated)) none) >>= fun reply => .done (.mfa reply)
  | verify refused now =>
    match refused with
    | some refusal => .done (.refused refusal)
    | none => runSession (Session.markSessionMFAVerified cookie pay now) >>= fun
        | some err => .done (.refused (.internal (ascii "2fa verify session") err))
        | none => .done .done
  | smtp action => .ask (.smtp user.userID action) fun reply => .done (.smtp reply)
  | elsewhere => .done .done

/-- `sessionFromRequest`, and the action that it is for. -/
def withSession (cookie : GoString) (action : Action) : AccessProgram AccessReply :=
  if cookie = [] then deny 401 "login required"
  else .ask (.session (.get cookie)) fun
    | .ok (some pay) => .ask (.auth (.userByID pay.userID)) fun
        | .ok user => act user (action.program site cookie user pay)
        | .error _ => deny 401 "login required"
    | _ => deny 401 "login required"

inductive AccessRequest where
  | loginSRPBegin (draws : Auth.Draws) (gate : Option Refusal) (body : Auth.LoginBegin)
  | loginSRPFinish (gate : Option Refusal) (body : Auth.FinishBody) (draw : Draw)
  | login (gate : Option Refusal) (username password : GoString) (draw : Draw)
  | loginTOTP (gate : Option Refusal) (id : GoString) (proved : Bool) (draw : Draw)
  | loginRecovery (gate : Option Refusal) (id hash : GoString) (draw : Draw)
  | loginWebAuthnBegin (gate : Option Refusal) (id : GoString) (draw : Draw)
  | loginWebAuthnFinish (gate : Option Refusal) (id : GoString) (proved : Bool) (draw : Draw)
  | register (gate : Option Refusal) (row : Auth.UserAuth) (name : GoString) (bootstrap : Option Refusal)
      (draw : Draw)
  | session (cookie : GoString) (action : Action)
  | logout (cookie : GoString)
  | authorize (request : OIDC.Authorize)
  | token (request : OIDC.TokenRequest)
  | submit (credentials : Credentials)

def AccessRequest.program : AccessRequest → AccessProgram AccessReply
  | loginSRPBegin draws gate body =>
    runAuth (Auth.apiLoginSRPBegin site.auth draws gate body) >>= fun reply => .done (.auth reply)
  | loginSRPFinish gate body draw => Elvishserver.loginSRPFinish site gate body draw
  | login gate username password draw => Elvishserver.login site gate username password draw
  | loginTOTP gate id proved draw => Elvishserver.loginTOTP gate id proved draw
  | loginRecovery gate id hash draw => Elvishserver.loginRecovery gate id hash draw
  | loginWebAuthnBegin gate id draw => Elvishserver.loginWebAuthnBegin gate id draw
  | loginWebAuthnFinish gate id proved draw => Elvishserver.loginWebAuthnFinish gate id proved draw
  | register gate row name bootstrap draw => Elvishserver.register gate row name bootstrap draw
  | session cookie action => withSession site cookie action
  | logout cookie => runSession (Session.delete cookie) >>= fun _ => .done .ok
  | authorize request => runOIDC (OIDC.handleOIDCAuthorize site.oidc request)
  | token request => runOIDC (OIDC.handleOIDCToken site.oidc request)
  | submit credentials => .ask (.authenticate credentials) fun
      | none => deny 535 "authentication failed"
      | some userID => .done (.acted userID .done)

end Requests

/-- The user for whom a request was answered. An authorize request that is sent off with a
code acts for the user of its session. -/
def AccessRequest.actor (store : AccessStore) (request : AccessRequest) : AccessReply → Option Nat
  | .acted userID _ => some userID
  | .auth (.verified userID _) => some userID
  | .auth (.changed userID _) => some userID
  | .oidc (.token claims) => some claims.subject
  | .oidc (.redirect _) =>
    match request with
    | authorize sent => (store.valkey.sessions sent.cookie).map (·.userID)
    | _ => none
  | _ => none

/-- What `apiAdminUsersDisable` comes to; when it succeeds, whether the sessions could be
deleted is kept for the statements. -/
inductive DisableReply where
  | refused (refusal : Refusal)
  | ok (deleting : Option GoError)
deriving DecidableEq

/-- `apiAdminUsersDisable`; an id that cannot be parsed is `none`. -/
def apiAdminUsersDisable (gate : Option Refusal) (hasSessions : Bool) (userID : Option Nat) :
    AccessProgram DisableReply :=
  match gate, userID with
  | some refusal, _ => .done (.refused refusal)
  | none, none => .done (.refused (.status 400 (ascii "invalid user id")))
  | none, some userID =>
    .ask (.updateUserPasswordHash userID Auth.disabledPasswordSentinel) fun
      | some err => .done (.refused (.internal (ascii "disable user") (Auth.errorOf err)))
      | none =>
        if hasSessions then runSession (Session.deleteUserSessions userID) >>= fun err => .done (.ok err)
        else .done (.ok none)

/-- What happens: a request that is not administrative is served, the clock is set, a value
in Valkey lapses or one in the process is lost, or the sweep deletes a user. -/
inductive AccessEvent where
  | request (request : AccessRequest) (outcomes : Nat → Outcome GoError)
  | tick (clock : Int)
  | lapse (key : GoString)
  | lapseIndex (userID : Nat)
  | lose (id : GoString)
  | sweep (userID : Nat)

def AccessStore.lapsed (store : AccessStore) (key : GoString) : AccessStore :=
  { store with
    auth.ephemeral := Function.update store.auth.ephemeral key none
    valkey.sessions := Function.update store.valkey.sessions key none
    pendingLogins := Function.update store.pendingLogins key none
    webAuthnLogins := Function.update store.webAuthnLogins key none
    codes := Function.update store.codes key none }

section Machine

variable (site : AccessSite)

def AccessStore.serve (store : AccessStore) (request : AccessRequest)
    (outcomes : Nat → Outcome GoError) : AccessReply × AccessStore :=
  (request.program site).run (AccessQuery.answer site) outcomes store

def AccessStore.step (store : AccessStore) : AccessEvent → Option AccessStore
  | .request request outcomes => some (store.serve site request outcomes).2
  | .tick clock => some { store with auth.clock := clock }
  | .lapse key => some (store.lapsed key)
  | .lapseIndex userID =>
    some { store with valkey.byuid := Function.update store.valkey.byuid userID [] }
  | .lose id =>
    some { store with auth.authChallenges := Function.update store.auth.authChallenges id none }
  | .sweep userID => some (store.withoutUser userID)

def AccessStore.notes (store : AccessStore) : AccessEvent → List Nat
  | .request request outcomes =>
    (request.actor store (store.serve site request outcomes).1).toList
  | _ => []

def accessMachine : Machine (AccessStore × List Nat) AccessEvent :=
  Machine.recorded ⟨fun store => store.step site⟩ fun store => store.notes site

end Machine

end ElvishMail.Elvishserver
