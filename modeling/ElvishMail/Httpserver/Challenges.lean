import ElvishMail.Httpserver.Accounts
import ElvishMail.Pake.Srp

/-!
# SRP challenges

`internal/httpserver/auth_srp.go`, `api_auth_password.go` and `account_delete.go`: a begin
request stores what the proof of the client has to be, and a finish request takes it away
and compares. Challenges are kept in Valkey, or in a map of the process where there is no
Valkey. Requests are programs of single commands, and other requests run between them.

What a request is checked for before it reaches the challenge (rate limits, captcha, the
session, the second factor, the body) is one answer that comes with it. A stored challenge
is read back from its JSON the same.
-/

namespace ElvishMail.Httpserver.Auth

open Go Smtp Mailmeta Pake Semantics

/-- `srpChallengeTTL`, in nanoseconds. -/
def srpChallengeTTL : Int := 5 * 60 * 1000000000

/-- `srpChallenge`. The user of a dummy challenge may be missing. -/
structure SRPChallenge where
  purpose : GoString
  userID : Option Nat
  expectedClientProof : GoString
  serverProof : GoString
  createdAt : Int
  dummy : Bool
deriving DecidableEq

/-- A stored challenge; the number of the request that issued it is kept for the
statements only. -/
structure Kept where
  issuer : Nat
  challenge : SRPChallenge
deriving DecidableEq

/-- A row of `users`, as far as authentication reads it. -/
structure UserAuth where
  userID : Nat
  email : GoString
  passwordHash : GoString
  authMethod : GoString
  srpSalt : GoString
  srpVerifier : GoString
  srpGroup : GoString
  srpHash : GoString
deriving DecidableEq

/-- What `UpdateAccountKey` replaces in a row of `user_account_keys`. -/
structure AccountKeyWrap where
  wrappedSecret : GoString
  kdf : GoString
  kdfSalt : GoString
  kdfParams : GoString
deriving DecidableEq

/-- What `UpdateUserSRP` replaces in a row of `users`. -/
structure SRPRecord where
  salt : GoString
  verifier : GoString
  group : GoString
  hash : GoString
deriving DecidableEq

/-- The stores: the challenges in Valkey and those of the process, the rows of users, the
account keys, and the clock. -/
structure AuthStore where
  ephemeral : GoString → Option Kept
  authChallenges : GoString → Option Kept
  users : List UserAuth
  accountKeys : Nat → Option AccountKeyWrap
  clock : Int

/-- The commands of requests: the clock, `SET` and `GETDEL` in Valkey, the map of the
process under its lock, and the statements. -/
inductive Command where
  | now
  | set (id : GoString) (challenge : SRPChallenge)
  | getDel (id : GoString)
  | storeLocal (id : GoString) (challenge : SRPChallenge)
  | takeLocal (id : GoString)
  | userAuthByEmail (email : GoString)
  | userByID (userID : Nat)
  | updateAccountKey (userID : Nat) (wrap : AccountKeyWrap)
  | updateUserSRP (userID : Nat) (record : SRPRecord)
deriving DecidableEq

def srpPasswordSentinel : GoString := ascii "$srp$"

def disabledPasswordSentinel : GoString := ascii "$disabled$"

def UserAuth.withSRP (row : UserAuth) (record : SRPRecord) : UserAuth :=
  { row with
    authMethod := ascii "srp"
    passwordHash := srpPasswordSentinel
    srpSalt := record.salt
    srpVerifier := record.verifier
    srpGroup := trimSpace record.group
    srpHash := trimSpace record.hash }

namespace AuthStore

variable (store : AuthStore)

def user (userID : Nat) : Option UserAuth := store.users.find? (·.userID = userID)

/-- The effect of `UpdateUserSRP`. -/
def withSRP (userID : Nat) (record : SRPRecord) : AuthStore :=
  { store with
    users := store.users.map fun row =>
      if row.userID = userID then row.withSRP record else row }

/-- The effect of `UpdateAccountKey`. -/
def withWrap (userID : Nat) (wrap : AccountKeyWrap) : AuthStore :=
  { store with accountKeys := Function.update store.accountKeys userID (some wrap) }

/-- The map of the process, with expired challenges dropped and one added. -/
def withLocal (id : GoString) (kept : Kept) : AuthStore :=
  { store with
    authChallenges := Function.update
      (fun other => (store.authChallenges other).filter fun kept =>
        store.clock - kept.challenge.createdAt ≤ srpChallengeTTL)
      id (some kept) }

end AuthStore

namespace Command

/-- What a command returns; a `GETDEL` of no value is `redis.Nil`. -/
abbrev Answer : Command → Type
  | now => Int
  | set _ _ => Option GoError
  | getDel _ => Except GoError (Option SRPChallenge)
  | storeLocal _ _ => Unit
  | takeLocal _ => Option SRPChallenge
  | userAuthByEmail _ => Except StoreError UserAuth
  | userByID _ => Except StoreError UserAuth
  | updateAccountKey _ _ => Option StoreError
  | updateUserSRP _ _ => Option StoreError

def lookup (outcome : Outcome GoError) (row : Option UserAuth) : Except StoreError UserAuth :=
  match outcome.read row with
  | .error err => .error (.failed err)
  | .ok none => .error .notFound
  | .ok (some row) => .ok row

def update (outcome : Outcome GoError) (present : Bool) (write : AuthStore → AuthStore)
    (store : AuthStore) : Option StoreError × AuthStore :=
  if present then
    let (err, store) := outcome.exec write store
    (err.map .failed, store)
  else (some ((outcome.error?.map .failed).getD .notFound), store)

def answer (index : Nat) (outcome : Outcome GoError) :
    (command : Command) → AuthStore → command.Answer × AuthStore
  | now, store => (store.clock, store)
  | set id challenge, store =>
    outcome.exec (fun store =>
      { store with ephemeral := Function.update store.ephemeral id (some ⟨index, challenge⟩) }) store
  | getDel id, store =>
    (outcome.read ((store.ephemeral id).map Kept.challenge),
      if outcome.applied then { store with ephemeral := Function.update store.ephemeral id none }
      else store)
  | storeLocal id challenge, store => ((), store.withLocal id ⟨index, challenge⟩)
  | takeLocal id, store =>
    ((store.authChallenges id).map Kept.challenge,
      { store with authChallenges := Function.update store.authChallenges id none })
  | userAuthByEmail email, store =>
    (lookup outcome (store.users.find? (·.email = email)), store)
  | userByID userID, store => (lookup outcome (store.user userID), store)
  | updateAccountKey userID wrap, store =>
    update outcome (store.accountKeys userID).isSome (·.withWrap userID wrap) store
  | updateUserSRP userID record, store =>
    update outcome (store.user userID).isSome (·.withSRP userID record) store

def found (outcome : Outcome GoError) : Command → AuthStore → Option Kept
  | getDel id, store => if outcome.error?.isNone then store.ephemeral id else none
  | takeLocal id, store => store.authChallenges id
  | _, _ => none

end Command

/-- What a request comes to: a challenge, an accepted proof, a changed password, or
a refusal. -/
inductive AuthReply where
  | issued (id : GoString)
  | verified (userID : Nat) (serverProof : GoString)
  | changed (userID : Nat) (serverProof : GoString)
  | refused (refusal : Refusal)
deriving DecidableEq

abbrev Commands : Type := Program Command Command.Answer AuthReply

def refuse (code : Nat) (text : String) : Commands := .done (.refused (.status code (ascii text)))

def fault (label : String) (err : GoError) : Commands :=
  .done (.refused (.internal (ascii label) err))

/-- The site: how it is set up, its hash function, and whether there is a Valkey. -/
structure AuthSite where
  site : Site
  hash : Hash
  hasSessions : Bool

/-- `decodeB64Field`; the error says that the field is invalid. -/
def decodeB64Field (text : GoString) : Option GoString :=
  (base64Decode (trimSpace text)).filter (· ≠ [])

def errorOf : StoreError → GoError
  | .notFound => .plain (ascii "store: not found")
  | .failed err => err

section Requests

variable (site : AuthSite)

/-- The errors of `PutEphemeralJSON` and `TakeEphemeralJSON` for a blank id. -/
def errEphemeralID : GoError := .plain (ascii "session: ephemeral bucket/id required")

/-- `issueSRPChallenge`, with the id that it draws. -/
def issueSRPChallenge (label : String) (id : GoString) (challenge : SRPChallenge) : Commands :=
  .ask .now fun createdAt =>
    let challenge := { challenge with createdAt }
    if site.hasSessions then
      if trimSpace id = [] then fault label errEphemeralID
      else .ask (.set (trimSpace id) challenge) fun
        | some err => fault label err
        | none => .done (.issued id)
    else .ask (.storeLocal id challenge) fun () => .done (.issued id)

def checkTaken (purpose : GoString) (challenge : SRPChallenge)
    (next : Option SRPChallenge → Commands) : Commands :=
  if purpose ≠ [] ∧ challenge.purpose ≠ purpose then next none
  else .ask .now fun now =>
    if now - challenge.createdAt > srpChallengeTTL then next none else next (some challenge)

/-- The part of `takeSRPChallenge` on the map of the process. -/
def takeLocalChallenge (id purpose : GoString) (next : Option SRPChallenge → Commands) : Commands :=
  .ask (.takeLocal id) fun
    | none => next none
    | some challenge => checkTaken purpose challenge next

def takeSRPChallenge (label : String) (id purpose : GoString)
    (next : Option SRPChallenge → Commands) : Commands :=
  if site.hasSessions then
    if trimSpace id = [] then fault label errEphemeralID
    else .ask (.getDel (trimSpace id)) fun
      | .error err => fault label err
      | .ok none => takeLocalChallenge id purpose next
      | .ok (some challenge) => checkTaken purpose challenge next
  else takeLocalChallenge id purpose next

/-- What begin requests draw: the exponent of the server session, which may fail, the
salt of a dummy registration, and the id of the challenge. -/
structure Draws where
  exponent : Option (Scalar defaultGroup)
  dummySalt : Except GoError GoString
  id : GoString

def serverSession (draws : Draws) (username salt verifier clientPublic : GoString) :
    Option ServerSession :=
  draws.exponent.bind fun b =>
    (newServerSession site.hash b username salt verifier clientPublic).toOption

def usernameFromCanonicalEmail (email : GoString) : GoString :=
  ((splitMailbox (trimLower site.site.lib email)).map Prod.fst).getD []

def UserAuth.usesSRP (row : UserAuth) : Bool :=
  trimSpace row.authMethod = ascii "srp" ∧ row.srpSalt ≠ [] ∧ row.srpVerifier ≠ []

/-- The body of `apiLoginSRPBegin`. -/
structure LoginBegin where
  username : GoString
  clientPublicB64 : GoString
deriving DecidableEq

def dummySRPRegistration (draws : Draws) (username : GoString) : Except GoError Pake.Registration :=
  match draws.dummySalt with
  | .error err => .error err
  | .ok salt =>
    match computeRegistration site.hash username (ascii "dummy-password-for-missing-user") salt with
    | .error text => .error (.plain text)
    | .ok reg => .ok reg

/-- The end of `apiLoginSRPBegin`, with the user and the registration. -/
def issueLogin (draws : Draws) (username clientPublic : GoString) (authUser : Option UserAuth)
    (reg : Pake.Registration) : Commands :=
  if parsesGroup reg.groupName reg.hashName = false then
    -- the error also quotes the two names
    fault "srp params" (.plain (ascii "pake/srp: unsupported params"))
  else match serverSession site draws username reg.salt reg.verifier clientPublic with
    | none => refuse 400 "invalid client public"
    | some session =>
      issueSRPChallenge site "srp challenge store" draws.id
        { purpose := ascii "login"
          userID := authUser.map UserAuth.userID
          expectedClientProof := session.expectedClientM1
          serverProof := session.serverM2
          createdAt := 0
          dummy := authUser.isNone }

def loadSRPUserForEmail (email : GoString) (next : Except GoError (Option UserAuth) → Commands) :
    Commands :=
  .ask (.userAuthByEmail (trimLower site.site.lib email)) fun
    | .error .notFound => next (.ok none)
    | .error (.failed err) => next (.error err)
    | .ok row =>
      if trimSpace row.passwordHash = disabledPasswordSentinel then next (.ok none)
      else if row.usesSRP then next (.ok (some row))
      else next (.ok none)

def apiLoginSRPBegin (draws : Draws) (gate : Option Refusal) (body : LoginBegin) : Commands :=
  match gate with
  | some refusal => .done (.refused refusal)
  | none =>
  match normalizeAndValidateUsername site.site.lib body.username with
  | none => refuse 400 "invalid username"
  | some user =>
  match decodeB64Field body.clientPublicB64 with
  | none => refuse 400 "invalid client_public_b64"
  | some clientPublic =>
  loadSRPUserForEmail site (composeCanonicalEmail site.site.lib user site.site.effectiveMailDomain) fun
    | .error err => fault "srp begin user lookup" err
    | .ok (some row) =>
      issueLogin site draws user clientPublic (some row)
        ⟨row.srpSalt, row.srpVerifier, row.srpGroup, row.srpHash⟩
    | .ok none =>
      match dummySRPRegistration site draws user with
      | .error err => fault "srp dummy" err
      | .ok reg => issueLogin site draws user clientPublic none reg

def beginSRP (purpose loading storing : String) (draws : Draws) (gate : Option Refusal) (userID : Nat)
    (clientPublicB64 : GoString) : Commands :=
  match gate with
  | some refusal => .done (.refused refusal)
  | none =>
  match decodeB64Field clientPublicB64 with
  | none => refuse 400 "invalid client_public_b64"
  | some clientPublic =>
  .ask (.userByID userID) fun
    | .error err => fault loading (errorOf err)
    | .ok fresh =>
      if fresh.usesSRP = false then
        refuse 400 "browser auth is not SRP-enabled for this account"
      else match serverSession site draws (usernameFromCanonicalEmail site fresh.email) fresh.srpSalt
          fresh.srpVerifier clientPublic with
      | none => refuse 400 "invalid client public"
      | some session =>
        issueSRPChallenge site storing draws.id
          { purpose := ascii purpose
            userID := some fresh.userID
            expectedClientProof := session.expectedClientM1
            serverProof := session.serverM2
            createdAt := 0
            dummy := false }

def apiAuthPasswordSRPBegin : Draws → Option Refusal → Nat → GoString → Commands :=
  beginSRP site "password-change" "password srp load user" "password srp challenge store"

def apiAuthAccountDeleteSRPBegin : Draws → Option Refusal → Nat → GoString → Commands :=
  beginSRP site "account-delete" "delete srp load user" "delete srp challenge store"

structure FinishBody where
  sessionID : GoString
  clientProofB64 : GoString
deriving DecidableEq

def FinishBody.proves (body : FinishBody) (challenge : SRPChallenge) : Bool :=
  decodeB64Field body.clientProofB64 = some challenge.expectedClientProof

/-- `apiLoginSRPFinish`, up to the login of the user. -/
def apiLoginSRPFinish (gate : Option Refusal) (body : FinishBody) : Commands :=
  match gate with
  | some refusal => .done (.refused refusal)
  | none =>
  if site.hasSessions = false then refuse 503 "login requires database and Valkey"
  else takeSRPChallenge site "srp challenge load" (trimSpace body.sessionID) (ascii "login") fun
    | none => refuse 401 "invalid credentials"
    | some challenge =>
      if body.proves challenge = false ∨ challenge.dummy = true then
        refuse 401 "invalid credentials"
      else match challenge.userID with
      | none => refuse 401 "invalid credentials"
      | some userID => .ask (.userByID userID) fun
          | .error _ => refuse 401 "invalid credentials"
          | .ok user => .done (.verified user.userID challenge.serverProof)

/-- A finish request of a user with a session, up to the accepted proof. -/
def verifySRP (label purpose : String) (userID : Nat) (body : FinishBody)
    (next : SRPChallenge → Commands) : Commands :=
  takeSRPChallenge site label (trimSpace body.sessionID) (ascii purpose) fun
    | none => refuse 401 "invalid credentials"
    | some challenge =>
      if challenge.userID ≠ some userID then refuse 401 "invalid credentials"
      else if body.proves challenge = false then refuse 401 "invalid credentials"
      else next challenge

def decodeVerifiedAccountDeleteAction (gate : Option Refusal) (userID : Nat) (confirmation : GoString)
    (body : FinishBody) : Commands :=
  match gate with
  | some refusal => .done (.refused refusal)
  | none =>
  if trimSpace confirmation ≠ ascii "DELETE" then refuse 400 "confirmation must be \"DELETE\""
  else verifySRP site "delete srp challenge load" "account-delete" userID body fun challenge =>
    .done (.verified userID challenge.serverProof)

/-- The body of `apiAuthPasswordSRPFinish`. -/
structure PasswordChange where
  proof : FinishBody
  newSRPSaltB64 : GoString
  newSRPVerifierB64 : GoString
  newSRPGroup : GoString
  newSRPHash : GoString
  wrappedSecretB64 : GoString
  kdf : GoString
  kdfSaltB64 : GoString
  kdfParamsJSON : GoString
deriving DecidableEq

def passwordKDFs : List GoString :=
  [ascii "argon2id", ascii "pbkdf2-sha256", ascii "pbkdf2-sha256-600k"]

def PasswordChange.decode (body : PasswordChange) : Except GoString (AccountKeyWrap × SRPRecord) :=
  match base64Decode body.wrappedSecretB64 with
  | none => .error (ascii "invalid wrapped_secret_b64")
  | some wrappedSecret =>
  match base64Decode body.kdfSaltB64 with
  | none => .error (ascii "invalid kdf_salt_b64")
  | some kdfSalt =>
  if body.kdf ∉ passwordKDFs then .error (ascii "unsupported kdf")
  else match decodeB64Field body.newSRPSaltB64 with
  | none => .error (ascii "invalid new_srp_salt_b64")
  | some salt =>
  match decodeB64Field body.newSRPVerifierB64 with
  | none => .error (ascii "invalid new_srp_verifier_b64")
  | some verifier =>
  if parsesGroup body.newSRPGroup body.newSRPHash = false then
    .error (ascii "unsupported srp parameters")
  else .ok (⟨wrappedSecret, body.kdf, kdfSalt, body.kdfParamsJSON⟩,
    ⟨salt, verifier, body.newSRPGroup, body.newSRPHash⟩)

def updateUserSRP (userID : Nat) (record : SRPRecord) (next : Option GoError → Commands) : Commands :=
  if record.salt = [] ∨ record.verifier = [] then
    next (some (.plain (ascii "store: invalid srp data")))
  else .ask (.updateUserSRP userID record) fun err => next (err.map errorOf)

/-- The end of `apiAuthPasswordSRPFinish`: the account key, then the verifier. -/
def storePassword (userID : Nat) (wrap : AccountKeyWrap) (record : SRPRecord) (serverProof : GoString) :
    Commands :=
  .ask (.updateAccountKey userID wrap) fun
    | some .notFound => refuse 400 "account key not bootstrapped"
    | some (.failed err) => fault "account key update" err
    | none => updateUserSRP userID record fun
        | some err => fault "srp update" err
        | none => .done (.changed userID serverProof)

def apiAuthPasswordSRPFinish (gate : Option Refusal) (userID : Nat) (body : PasswordChange) :
    Commands :=
  match gate with
  | some refusal => .done (.refused refusal)
  | none =>
  verifySRP site "password srp challenge load" "password-change" userID body.proof fun challenge =>
    match body.decode with
    | .error text => .done (.refused (.status 400 text))
    | .ok (wrap, record) => storePassword userID wrap record challenge.serverProof

end Requests

inductive Request where
  | loginBegin (draws : Draws) (gate : Option Refusal) (body : LoginBegin)
  | passwordBegin (draws : Draws) (gate : Option Refusal) (userID : Nat) (clientPublicB64 : GoString)
  | deleteBegin (draws : Draws) (gate : Option Refusal) (userID : Nat) (clientPublicB64 : GoString)
  | loginFinish (gate : Option Refusal) (body : FinishBody)
  | passwordFinish (gate : Option Refusal) (userID : Nat) (body : PasswordChange)
  | deleteFinish (gate : Option Refusal) (userID : Nat) (confirmation : GoString) (body : FinishBody)

def Request.program (site : AuthSite) : Request → Commands
  | loginBegin draws gate body => apiLoginSRPBegin site draws gate body
  | passwordBegin draws gate userID clientPublic =>
    apiAuthPasswordSRPBegin site draws gate userID clientPublic
  | deleteBegin draws gate userID clientPublic =>
    apiAuthAccountDeleteSRPBegin site draws gate userID clientPublic
  | loginFinish gate body => apiLoginSRPFinish site gate body
  | passwordFinish gate userID body => apiAuthPasswordSRPFinish site gate userID body
  | deleteFinish gate userID confirmation body =>
    decodeVerifiedAccountDeleteAction site gate userID confirmation body

/-- A request under way or answered. The challenge that it took away and its last look
at the clock are kept for the statements. -/
structure Thread where
  request : Request
  program : Commands
  met : Option Kept
  read : Int

structure AuthServer where
  store : AuthStore
  threads : Nat → Option Thread

/-- What happens: a request begins, its next command is executed, a challenge lapses in
Valkey or is lost with the process, the clock is set, or other requests change accounts. -/
inductive Event where
  | begin (index : Nat) (request : Request)
  | advance (index : Nat) (outcome : Outcome GoError)
  | lapse (id : GoString)
  | lose (id : GoString)
  | tick (clock : Int)
  | accounts (users : List UserAuth) (accountKeys : Nat → Option AccountKeyWrap)

def Thread.next (thread : Thread) (outcome : Outcome GoError) (command : Command)
    (store : AuthStore) (program : Commands) : Thread :=
  { thread with
    program
    met := (command.found outcome store).or thread.met
    read := if command = .now then store.clock else thread.read }

namespace AuthServer

variable (server : AuthServer)

def execute (index : Nat) (thread : Thread) (outcome : Outcome GoError) (command : Command)
    (next : command.Answer → Commands) : AuthServer :=
  let (reply, store) := command.answer index outcome server.store
  { store
    threads := Function.update server.threads index
      (some (thread.next outcome command server.store (next reply))) }

def step (site : AuthSite) : Event → Option AuthServer
  | .begin index request =>
    if (server.threads index).isNone then
      some { server with
        threads := Function.update server.threads index
          (some ⟨request, request.program site, none, 0⟩) }
    else none
  | .advance index outcome =>
    match server.threads index with
    | none => none
    | some thread =>
      match thread.program with
      | .done _ => none
      | .ask command next => some (server.execute index thread outcome command next)
  | .lapse id =>
    some { server with store.ephemeral := Function.update server.store.ephemeral id none }
  | .lose id =>
    some { server with store.authChallenges := Function.update server.store.authChallenges id none }
  | .tick clock => some { server with store.clock := clock }
  | .accounts users accountKeys =>
    some { server with store.users := users, store.accountKeys := accountKeys }

end AuthServer

def authServer (site : AuthSite) : Machine AuthServer Event := ⟨fun server => server.step site⟩

def AuthServer.start (users : List UserAuth) (accountKeys : Nat → Option AccountKeyWrap) : AuthServer :=
  ⟨⟨fun _ => none, fun _ => none, users, accountKeys, 0⟩, fun _ => none⟩

end ElvishMail.Httpserver.Auth
