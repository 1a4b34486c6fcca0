import ElvishMail.Go.Encoding
import ElvishMail.Httpserver.Mfa
import ElvishMail.Semantics.Custody
import ElvishMail.Semantics.Threads
import ElvishMail.Session.Store

/-!
# Logging in elsewhere

`internal/httpserver/oidc.go` over `internal/oauthoidc` and `internal/session`: an
authorize request of a browser with a session stores a code and sends the browser to the
client with it, and a token request of the client takes the code away and gets an ID token
for it. Codes are kept in Valkey, which drops them when their time is over. Requests are
programs of single commands.

What is checked of a request before its parameters (that the issuer is set up, the method,
the rate limit) is one answer that comes with it. `url.Parse` is a parameter, and
a parsed URL is its query and the rest. A stored code is read back from its JSON the same.
-/

namespace ElvishMail.Httpserver.OIDC

open Go Smtp Semantics

/-- `oidcAuthCodeTTL`, in nanoseconds. -/
def oidcAuthCodeTTL : Int := 90 * 1000000000

/-- `mfaRecentVerificationTTL`, in nanoseconds. -/
def mfaRecentVerificationTTL : Int := 10 * 60 * 1000000000

structure StoredAuthCode where
  userID : Nat
  email : GoString
  name : GoString
  nonce : GoString
  clientID : GoString
  redirectURI : GoString
deriving DecidableEq

/-- A stored code and when it was stored; the number of the request that stored it is kept
for the statements only. -/
structure Kept where
  issuer : Nat
  stored : StoredAuthCode
  setAt : Int
deriving DecidableEq

/-- A row of `users`, as far as tokens tell of it. -/
structure UserRow where
  email : GoString
  name : GoString
deriving DecidableEq

/-- The stores: codes and sessions in Valkey, the rows of users and of their second factors,
and the clock. The codes that were drawn are kept for the statements only. -/
structure OIDCStore where
  codes : GoString → Option Kept
  sessions : GoString → Option Session.Payload
  users : Nat → Option UserRow
  accounts : Nat → Account
  clock : Int
  drawn : GoString → Bool

inductive Command where
  | get (token : GoString)
  | userByID (userID : Nat)
  | mfa (userID : Nat) (operation : Operation)
  | now
  | set (code : GoString) (stored : StoredAuthCode)
  | getDel (code : GoString)
deriving DecidableEq

namespace Command

/-- What a command returns; a `get` of no value is `redis.Nil`. -/
abbrev Answer : Command → Type
  | get _ => Except GoError (Option Session.Payload)
  | userByID _ => Except StoreError UserRow
  | mfa _ operation => operation.Answer
  | now => Int
  | set _ _ => Option GoError
  | getDel _ => Except GoError (Option StoredAuthCode)

def lookup (outcome : Outcome GoError) (row : Option UserRow) : Except StoreError UserRow :=
  match outcome.read row with
  | .error err => .error (.failed err)
  | .ok none => .error .notFound
  | .ok (some row) => .ok row

end Command

def OIDCStore.live (store : OIDCStore) (code : GoString) : Option Kept :=
  (store.codes code).filter fun kept => store.clock < kept.setAt + oidcAuthCodeTTL

def Command.answer (index : Nat) (outcome : Outcome GoError) :
    (command : Command) → OIDCStore → command.Answer × OIDCStore
  | get token, store => (outcome.read (store.sessions token), store)
  | userByID userID, store => (lookup outcome (store.users userID), store)
  | mfa userID operation, store =>
    let (reply, account) := operation.answer outcome (store.accounts userID)
    (reply, { store with accounts := Function.update store.accounts userID account })
  | now, store => (store.clock, store)
  | set code stored, store =>
    outcome.exec (fun store =>
      { store with
        codes := Function.update store.codes code (some ⟨index, stored, store.clock⟩) }) store
  | getDel code, store =>
    (outcome.read ((store.live code).map Kept.stored),
      if outcome.applied then { store with codes := Function.update store.codes code none }
      else store)

/-- `Issuer`, without its key. -/
structure Issuer where
  issuerURL : GoString
  clientID : GoString
  clientSecret : GoString
  redirectURIs : List GoString

def Issuer.redirectAllowed (issuer : Issuer) (redirectURI : GoString) : Bool :=
  issuer.redirectURIs.any fun uri => trimSpace redirectURI = trimSpace uri

def Issuer.clientSecretMatches (issuer : Issuer) (secret : GoString) : Bool :=
  issuer.clientSecret = trimSpace secret

def scopesIncludeOIDCRequired (scope : GoString) : Bool :=
  let scopes := (fields scope).map trimSpace
  ascii "openid" ∈ scopes ∧ ascii "email" ∈ scopes ∧ ascii "profile" ∈ scopes

structure URL where
  target : GoString
  query : List (GoString × List GoString)
deriving DecidableEq

/-- `Values.Set`. -/
def URL.setQuery (url : URL) (key value : GoString) : URL :=
  { url with query := url.query.filter (·.1 ≠ key) ++ [(key, [value])] }

/-- The issuer and `url.Parse`. -/
structure OIDCSite where
  issuer : Issuer
  parse : GoString → Except GoError URL

structure IDToken where
  issuer : GoString
  audience : GoString
  subject : Nat
  nonce : GoString
  email : GoString
  name : GoString
  issuedAt : Int
  expiry : Int
deriving DecidableEq

inductive OIDCReply where
  | refused (refusal : Refusal)
  | failed (status : Nat) (text : GoString)
  | login (next : GoString)
  | mfaRequired
  | redirect (location : URL)
  | tokenError (status : Nat) (code description : GoString)
  | token (claims : IDToken)
deriving DecidableEq

abbrev Commands : Type := Program Command Command.Answer OIDCReply

/-- `http.Error`. -/
def fail (status : Nat) (text : String) : Commands := .done (.failed status (ascii text))

/-- `writeOIDCTokenErr`. -/
def tokenErr (status : Nat) (code description : String) : Commands :=
  .done (.tokenError status (ascii code) (ascii description))

structure AuthorizeQuery where
  responseType : GoString
  clientID : GoString
  redirectURI : GoString
  scope : GoString
  state : GoString
  nonce : GoString
deriving DecidableEq

/-- An authorize request; a cookie that is missing is empty, and the random bytes of the
code may fail to be drawn. -/
structure Authorize where
  gate : Option Refusal
  requestURI : GoString
  cookie : GoString
  query : AuthorizeQuery
  codeBytes : Option {bytes : GoString // bytes.length = 32}

def Authorize.code (request : Authorize) : Option GoString :=
  request.codeBytes.map fun bytes => hexEncode bytes.1

def safeOAuthAuthorizeNext (next : GoString) : GoString :=
  let next := trimSpace next
  if next = [] ∨ hasPrefix next (ascii "/oauth/authorize") = false ∨ hasPrefix next (ascii "//") then []
  else next

def onAccount {Value : Type} (userID : Nat) : Operations Value → Program Command Command.Answer Value
  | .done value => .done value
  | .ask operation next => .ask (.mfa userID operation) fun reply => onAccount userID (next reply)

def sessionFromRequest (cookie : GoString) (next : Option (UserRow × Session.Payload) → Commands) :
    Commands :=
  if cookie = [] then next none
  else .ask (.get cookie) fun
    | .ok (some pay) => .ask (.userByID pay.userID) fun
        | .ok user => next (some (user, pay))
        | .error _ => next none
    | _ => next none

/-- The browser is sent to log in, and to come back after that. -/
def sendToLogin (requestURI : GoString) (status : Nat) (text : String) : Commands :=
  let next := safeOAuthAuthorizeNext requestURI
  if next = [] then fail status text else .done (.login next)

def oidcRecentMFAGate (request : Authorize) (userID : Nat) (next : Commands) : Commands :=
  onAccount userID loadMFAStatus >>= fun
    | .error _ => fail 500 "internal error"
    | .ok status =>
      if !status.settings.enabled then next
      else sessionFromRequest request.cookie fun
        | none => sendToLogin request.requestURI 401 "session invalid"
        | some (_, pay) =>
          if pay.mfaVerifiedAt = 0 then .done .mfaRequired
          else .ask .now fun now =>
            if now - pay.mfaVerifiedAt * 1000000000 > mfaRecentVerificationTTL then
              .done .mfaRequired
            else next

section Requests

variable (site : OIDCSite)

/-- The end of `handleOIDCAuthorize`: a code is stored and the browser sent off with it. -/
def issueCode (request : Authorize) (userID : Nat) (user : UserRow) : Commands :=
  match request.code with
  | none => fail 500 "internal error"
  | some code =>
    let redirectURI := trimSpace request.query.redirectURI
    let payload : StoredAuthCode :=
      { userID
        email := user.email
        name := trimSpace user.name
        nonce := trimSpace request.query.nonce
        clientID := trimSpace request.query.clientID
        redirectURI }
    if trimSpace code = [] then fail 500 "internal error"
    else .ask (.set (trimSpace code) payload) fun
      | some _ => fail 500 "internal error"
      | none =>
        match site.parse redirectURI with
        | .error _ => fail 400 "invalid redirect_uri"
        | .ok url =>
          .done (.redirect ((url.setQuery (ascii "code") code).setQuery (ascii "state")
            (trimSpace request.query.state)))

def handleOIDCAuthorize (request : Authorize) : Commands :=
  match request.gate with
  | some refusal => .done (.refused refusal)
  | none =>
  let query := request.query
  if trimSpace query.responseType ≠ ascii "code" then fail 400 "unsupported response_type"
  else if trimSpace query.clientID ≠ site.issuer.clientID then fail 400 "invalid client"
  else if trimSpace query.redirectURI = [] ∨
      site.issuer.redirectAllowed (trimSpace query.redirectURI) = false then
    fail 400 "invalid redirect_uri"
  else if scopesIncludeOIDCRequired (trimSpace query.scope) = false then fail 400 "invalid scope"
  else if trimSpace query.state = [] ∨ (trimSpace query.state).length > 2048 then
    fail 400 "invalid state"
  else if trimSpace query.nonce = [] ∨ (trimSpace query.nonce).length > 512 then
    fail 400 "invalid nonce"
  else sessionFromRequest request.cookie fun
    | none => sendToLogin request.requestURI 400 "invalid authorize url"
    | some (user, pay) =>
      oidcRecentMFAGate request pay.userID (issueCode site request pay.userID user)

/-- A token request: whether its form could be parsed, the form, and its `Authorization`
header. Signing may fail. -/
structure TokenRequest where
  gate : Option Refusal
  parsed : Bool
  authorization : GoString
  clientID : GoString
  clientSecret : GoString
  grantType : GoString
  code : GoString
  redirectURI : GoString
  signing : Option GoError

def parseClientSecretBasic (header : GoString) : Option (GoString × GoString) :=
  if hasPrefix header (ascii "Basic ") = false then none
  else do
    let text ← base64Decode (trimSpace (header.drop 6))
    let colon ← indexByte text 0x3A
    some (text.take colon, text.drop (colon + 1))

def TokenRequest.credentials (request : TokenRequest) : GoString × GoString :=
  let clientID := trimSpace request.clientID
  let clientSecret := trimSpace request.clientSecret
  match parseClientSecretBasic request.authorization with
  | none => (clientID, clientSecret)
  | some (id, secret) =>
    (if clientID = [] then id else clientID, if clientSecret = [] then secret else clientSecret)

/-- `SignIDToken`, for an hour. -/
def signIDToken (request : TokenRequest) (subject : Nat) (nonce email name : GoString) : Commands :=
  .ask .now fun now =>
    match request.signing with
    | some _ => tokenErr 500 "server_error" "temporary failure"
    | none =>
      .done (.token
        { issuer := site.issuer.issuerURL
          audience := site.issuer.clientID
          subject, nonce, email, name
          issuedAt := now
          expiry := now + 3600 * 1000000000 })

/-- The end of `handleOIDCToken`, with the code that was taken away. -/
def redeem (request : TokenRequest) (stored : StoredAuthCode) : Commands :=
  if stored.clientID ≠ request.credentials.1 ∨ stored.redirectURI ≠ trimSpace request.redirectURI then
    tokenErr 400 "invalid_grant" "code mismatch"
  else .ask (.userByID stored.userID) fun
    | .error .notFound => tokenErr 400 "invalid_grant" "invalid code"
    | .error (.failed _) => tokenErr 500 "server_error" "temporary failure"
    | .ok user =>
      if trimSpace user.email ≠ trimSpace stored.email then
        tokenErr 400 "invalid_grant" "invalid code"
      else signIDToken site request stored.userID stored.nonce user.email (trimSpace user.name)

def handleOIDCToken (request : TokenRequest) : Commands :=
  match request.gate with
  | some refusal => .done (.refused refusal)
  | none =>
  if request.parsed = false then tokenErr 400 "invalid_request" "invalid form body"
  else
  let (clientID, clientSecret) := request.credentials
  if clientID ≠ site.issuer.clientID ∨ site.issuer.clientSecretMatches clientSecret = false then
    tokenErr 401 "invalid_client" "invalid client credentials"
  else if trimSpace request.grantType ≠ ascii "authorization_code" then
    tokenErr 400 "unsupported_grant_type" "unsupported grant_type"
  else if trimSpace request.code = [] ∨ trimSpace request.redirectURI = [] then
    tokenErr 400 "invalid_request" "code and redirect_uri required"
  else .ask (.getDel (trimSpace request.code)) fun
    | .error _ => tokenErr 500 "server_error" "temporary failure"
    | .ok none => tokenErr 400 "invalid_grant" "invalid or expired code"
    | .ok (some stored) => redeem site request stored

end Requests

inductive Request where
  | authorize (request : Authorize)
  | token (request : TokenRequest)

def Request.program (site : OIDCSite) : Request → Commands
  | authorize request => handleOIDCAuthorize site request
  | token request => handleOIDCToken site request

/-- What a request remembers: the session that it read last, whose second factors it asked
after and whether they are enabled, its last look at the clock, and the code that it took
away and when. -/
structure Memory where
  session : Option Session.Payload
  enabled : Option (Nat × Bool)
  read : Int
  met : Option (Kept × Int)

def Memory.after (store : OIDCStore) : (command : Command) → command.Answer → Memory → Memory
  | .get _, .ok (some pay), memory => { memory with session := some pay }
  | .mfa userID .getMFASettings, .ok settings, memory =>
    { memory with enabled := some (userID, settings.enabled) }
  | .now, now, memory => { memory with read := now }
  | .getDel code, .ok (some _), memory =>
    { memory with met := (store.live code).map (·, store.clock) }
  | _, _, memory => memory

/-- What changes the stores otherwise: other requests change sessions, users and second
factors, a code is lost, or the clock is set. -/
inductive Change where
  | sessions (sessions : GoString → Option Session.Payload)
  | users (users : Nat → Option UserRow)
  | accounts (accounts : Nat → Account)
  | lapse (code : GoString)
  | tick (clock : Int)

namespace OIDCStore

/-- A request begins; the code that it draws is random, and so was not drawn before. -/
def enter : Request → OIDCStore → Option OIDCStore
  | .token _, store => some store
  | .authorize request, store =>
    match request.code with
    | none => some store
    | some code =>
      if store.drawn code then none
      else some { store with drawn := Function.update store.drawn code true }

def change : Change → OIDCStore → Option OIDCStore
  | .sessions sessions, store => some { store with sessions }
  | .users users, store => some { store with users }
  | .accounts accounts, store => some { store with accounts }
  | .lapse code, store => some { store with codes := Function.update store.codes code none }
  | .tick clock, store => some { store with clock }

end OIDCStore

def oidcService (site : OIDCSite) :
    Service Nat Request Command Command.Answer OIDCReply Memory OIDCStore (Outcome GoError) Change where
  program := Request.program site
  blank := ⟨none, none, 0, none⟩
  answer := Command.answer
  remember store command reply memory := memory.after store command reply
  enter := OIDCStore.enter
  change := OIDCStore.change

abbrev OIDCState : Type := Service.State Nat Request Command Command.Answer OIDCReply Memory OIDCStore

section Owners

variable (owner : GoString → Nat)

/-- A session is always that of the user for whom its token was drawn. -/
def Owned (sessions : GoString → Option Session.Payload) : Prop :=
  ∀ token pay, sessions token = some pay → pay.userID = owner token

/-- Other requests keep sessions with their users; otherwise anything may happen. -/
def KeepsOwners (_ : OIDCState) : Service.Event Nat Request (Outcome GoError) Change → Prop
  | .change (.sessions sessions) => Owned owner sessions
  | _ => True

end Owners

/-- No code and no request, whatever else is stored. -/
structure Idle (owner : GoString → Nat) (state : OIDCState) : Prop where
  codes : ∀ code, state.store.codes code = none
  threads : ∀ index, state.threads index = none
  owned : Owned owner state.store.sessions

end ElvishMail.Httpserver.OIDC
