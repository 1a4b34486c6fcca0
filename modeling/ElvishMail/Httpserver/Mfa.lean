import ElvishMail.Httpserver.Reply
import ElvishMail.Semantics.Program
import ElvishMail.Semantics.Remote

/-!
# Second factors

`internal/httpserver/api_auth_2fa.go` and `mfa.go` over `internal/store/mfa.go`: the
requests that add and delete second factors, make and use recovery codes, and log
in with a first factor. A request is a program of operations on the rows of one
user; each operation can be reported as failed, and may have taken effect all the
same.

What a request is checked for before it reaches these rows (its session, its body,
the pending challenge, the code or the key it proves) comes with the request.
Requests that only confirm a factor again change none of the rows and are left out.
-/

namespace ElvishMail.Httpserver

open Go Smtp Semantics

inductive FactorKind where
  | totp
  | webauthn
deriving DecidableEq

namespace FactorKind

def method : FactorKind → GoString
  | totp => ascii "totp"
  | webauthn => ascii "webauthn"

def other : FactorKind → FactorKind
  | totp => webauthn
  | webauthn => totp

end FactorKind

/-- A row of `user_totp_factors` or `user_webauthn_credentials`. -/
structure Factor where
  id : Nat
  revoked : Bool
deriving DecidableEq

/-- A row of `user_mfa_recovery_codes`. -/
structure RecoveryCode where
  codeHash : GoString
  used : Bool
deriving DecidableEq

/-- A row of `user_mfa_settings`. -/
structure MFASettings where
  enabled : Bool
  preferredMethod : GoString
deriving DecidableEq

structure Account where
  totpFactors : List Factor
  webAuthnFactors : List Factor
  recoveryCodes : List RecoveryCode
  settings : Option MFASettings
deriving DecidableEq

namespace Account

def fresh : Account := ⟨[], [], [], none⟩

def factors (account : Account) : FactorKind → List Factor
  | .totp => account.totpFactors
  | .webauthn => account.webAuthnFactors

def setFactors (account : Account) : FactorKind → List Factor → Account
  | .totp, rows => { account with totpFactors := rows }
  | .webauthn, rows => { account with webAuthnFactors := rows }

def active (account : Account) (kind : FactorKind) : List Factor :=
  (account.factors kind).filter fun factor => !factor.revoked

def hasFactor (account : Account) : Bool :=
  decide (0 < (account.active .totp).length + (account.active .webauthn).length)

def unused (account : Account) : List RecoveryCode :=
  account.recoveryCodes.filter fun code => !code.used

/-- `enabled`, which is false without a row. -/
def enabled (account : Account) : Bool := account.settings.any MFASettings.enabled

end Account

structure Payload where
  amr : List GoString
  mfaVerifiedAt : Int
deriving DecidableEq

inductive Operation where
  | getMFASettings
  | listFactors (kind : FactorKind)
  | countFactors (kind : FactorKind)
  | countUnusedRecoveryCodes
  | createFactor (kind : FactorKind) (id : Nat)
  | revokeFactor (kind : FactorKind) (id : Nat)
  | replaceRecoveryCodes (hashes : List GoString)
  | consumeRecoveryCode (hash : GoString)
  | putMFASettings (enabled : Bool) (preferredMethod : GoString)
  | saveTemporaryJSON
  | deleteTemporaryJSON
  | deleteUserSessions
  | createSession (payload : Payload)
  | putSession (payload : Payload)
deriving DecidableEq

namespace Operation

abbrev Answer : Operation → Type
  | getMFASettings => Except GoError MFASettings
  | listFactors _ => Except GoError (List Factor)
  | countFactors _ | countUnusedRecoveryCodes => Except GoError Nat
  | revokeFactor _ _ | consumeRecoveryCode _ => Option StoreError
  | _ => Option GoError

def update (outcome : Outcome GoError) (matched : Bool) (write : Account → Account)
    (account : Account) : Option StoreError × Account :=
  let (err, next) := outcome.exec write account
  match err with
  | some err => (some (.failed err), next)
  | none => (if matched then none else some .notFound, next)

def revoke (id : Nat) (rows : List Factor) : List Factor :=
  rows.map fun factor => if factor.id = id then { factor with revoked := true } else factor

def consume (hash : GoString) (rows : List RecoveryCode) : List RecoveryCode :=
  rows.map fun code => if code.codeHash = trimSpace hash then { code with used := true } else code

def answer (outcome : Outcome GoError) :
    (operation : Operation) → Account → operation.Answer × Account
  | getMFASettings, account =>
    (outcome.read (account.settings.getD ⟨false, []⟩), account)
  | listFactors kind, account => (outcome.read (account.active kind), account)
  | countFactors kind, account => (outcome.read (account.active kind).length, account)
  | countUnusedRecoveryCodes, account => (outcome.read account.unused.length, account)
  | createFactor kind id, account =>
    outcome.exec (fun account => account.setFactors kind (⟨id, false⟩ :: account.factors kind)) account
  | revokeFactor kind id, account =>
    update outcome ((account.active kind).any fun factor => factor.id = id)
      (fun account => account.setFactors kind (revoke id (account.factors kind))) account
  | replaceRecoveryCodes hashes, account =>
    outcome.exec (fun account =>
      { account with
        recoveryCodes :=
          ((hashes.map trimSpace).filter (!·.isEmpty)).map fun hash => ⟨hash, false⟩ }) account
  | consumeRecoveryCode hash, account =>
    update outcome (account.unused.any fun code => code.codeHash = trimSpace hash)
      (fun account => { account with recoveryCodes := consume hash account.recoveryCodes }) account
  | putMFASettings enabled preferredMethod, account =>
    outcome.exec (fun account =>
      { account with settings := some ⟨enabled, trimSpace preferredMethod⟩ }) account
  | saveTemporaryJSON, account => (outcome.error?, account)
  | deleteTemporaryJSON, account => (outcome.error?, account)
  | deleteUserSessions, account => (outcome.error?, account)
  | createSession _, account => (outcome.error?, account)
  | putSession _, account => (outcome.error?, account)

end Operation

abbrev Operations (Value : Type) : Type := Program Operation Operation.Answer Value

inductive MFAReply where
  | refused (refusal : Refusal)
  | done
  | session (payload : Payload)
  | challenge (methods : List GoString)
deriving DecidableEq

def internal (label : String) (err : GoError) : MFAReply := .refused (.internal (ascii label) err)

structure MFAStatus where
  settings : MFASettings
  totpFactors : List Factor
  webAuthnFactors : List Factor
  recoveryRemaining : Nat
deriving DecidableEq

def MFAStatus.factors (status : MFAStatus) : FactorKind → List Factor
  | .totp => status.totpFactors
  | .webauthn => status.webAuthnFactors

def loadMFAStatus : Operations (Except GoError MFAStatus) :=
  .ask .getMFASettings fun
    | .error err => .done (.error err)
    | .ok settings => .ask (.listFactors .totp) fun
      | .error err => .done (.error err)
      | .ok totpFactors => .ask (.listFactors .webauthn) fun
        | .error err => .done (.error err)
        | .ok webAuthnFactors => .ask .countUnusedRecoveryCodes fun
          | .error err => .done (.error err)
          | .ok recoveryRemaining =>
            .done (.ok ⟨settings, totpFactors, webAuthnFactors, recoveryRemaining⟩)

def mfaMethodsForStatus (status : MFAStatus) : List GoString :=
  (if status.settings.enabled ∧ status.totpFactors.length > 0 then [ascii "totp"] else []) ++
  (if status.settings.enabled ∧ status.webAuthnFactors.length > 0 then [ascii "webauthn"] else []) ++
  (if status.settings.enabled ∧ status.recoveryRemaining > 0 then [ascii "recovery"] else [])

def syncMFASettings (preferred : GoString) : Operations (Option GoError) :=
  .ask (.countFactors .totp) fun
    | .error err => .done (some err)
    | .ok totpCount => .ask (.countFactors .webauthn) fun
      | .error err => .done (some err)
      | .ok webCount =>
        .ask (.putMFASettings (decide (totpCount + webCount > 0)) (trimSpace preferred)) .done

/-- The session a request comes with; `recentMFA` says whether its second factor was
proved in time. -/
structure RequestSession where
  payload : Payload
  recentMFA : Bool
deriving DecidableEq

/-- `issueLoginSession` as the end of a request. -/
def issueLoginSession (now : Int) (methods : List GoString) (mfaVerified : Bool) (label : String) :
    Operations MFAReply :=
  let payload : Payload := ⟨methods, if mfaVerified then now else 0⟩
  .ask (.createSession payload) fun
    | some err => .done (internal label err)
    | none => .done (.session payload)

/-- `requireRecentMFA`: the refusal, if the second factor has to be proved again. -/
def requireRecentMFA (session : RequestSession) : Operations (Option MFAReply) := do
  match ← loadMFAStatus with
  | .error err => return some (internal "mfa status" err)
  | .ok status =>
    if !status.settings.enabled then return none
    else if session.payload.mfaVerifiedAt = 0 ∨ !session.recentMFA then
      return some (.refused (.status 428 (ascii "recent 2fa verification required")))
    else return none

def appendMFAMethod (methods : List GoString) (method : GoString) : List GoString :=
  if method ∈ methods then methods else methods ++ [method]

def filterNonMFAAMR (amr : List GoString) : List GoString :=
  let out := amr.filter fun method => method ∉ [ascii "totp", ascii "webauthn", ascii "recovery"]
  if out.length = 0 then [ascii "pwd"] else out

/-- What a request that adds a factor brings: the refusal of the checks before the rows
of the user are read, if there is one, the id of the new row and fresh codes. -/
structure Registration where
  session : Option RequestSession
  checked : Option Refusal
  challenged : Option Refusal
  id : Nat
  codeHashes : Except GoError (List GoString)
  now : Int

/-- The end of a registration: recovery codes with the first factor, the settings, and a
new session. -/
def finishRegistration (kind : FactorKind) (registration : Registration) (payload : Payload)
    (status : MFAStatus) (label : String) : Operations MFAReply :=
  let settle : Operations MFAReply := do
    match ← syncMFASettings kind.method with
    | some err => return internal "2fa settings" err
    | none =>
      .ask .deleteUserSessions fun _ =>
        issueLoginSession registration.now (appendMFAMethod payload.amr kind.method) true label
  if status.settings.enabled then settle
  else match registration.codeHashes with
    | .error err => return internal "recovery codes" err
    | .ok hashes => .ask (.replaceRecoveryCodes hashes) fun
      | some err => .done (internal "recovery save" err)
      | none => settle

/-- `apiAuth2FATOTPConfirm` once the status is loaded. The request stops where the
pending setup cannot be deleted. -/
def createTOTPFactor (registration : Registration) (payload : Payload) (status : MFAStatus) :
    Operations MFAReply :=
  .ask (.createFactor .totp registration.id) fun
    | some err => .done (internal "totp save" err)
    | none => .ask .deleteTemporaryJSON fun
      | some err => .done (internal "totp temp cleanup" err)
      | none => finishRegistration .totp registration payload status "2fa session rotate"

def apiAuth2FATOTPConfirm (registration : Registration) : Operations MFAReply :=
  match registration.session, registration.checked with
  | none, _ => return .refused (.status 401 (ascii "login required"))
  | some _, some refusal => return .refused refusal
  | some session, none => do
      match ← loadMFAStatus with
      | .error err => return internal "2fa status" err
      | .ok status => createTOTPFactor registration session.payload status

/-- `apiAuth2FAWebAuthnRegisterFinish` once the status is loaded and the challenge
answered. -/
def createWebAuthnCredential (registration : Registration) (payload : Payload) (status : MFAStatus) :
    Operations MFAReply :=
  match registration.challenged with
  | some refusal => return .refused refusal
  | none => .ask (.createFactor .webauthn registration.id) fun
    | some err => .done (internal "webauthn save" err)
    | none => .ask .deleteTemporaryJSON fun _ =>
      finishRegistration .webauthn registration payload status "webauthn session rotate"

def apiAuth2FAWebAuthnRegisterFinish (registration : Registration) : Operations MFAReply :=
  match registration.session, registration.checked with
  | none, _ => return .refused (.status 401 (ascii "login required"))
  | some _, some refusal => return .refused refusal
  | some session, none => do
      match ← loadMFAStatus with
      | .error err => return internal "2fa status" err
      | .ok status => createWebAuthnCredential registration session.payload status

/-- What a request to delete a factor brings; an id that cannot be parsed is `none`. -/
structure Deletion where
  session : Option RequestSession
  id : Option Nat
  now : Int
  now_pos : 0 < now

/-- The end of a deletion, given how many factors of the other and of the same kind the
status has: the codes are wiped if these are few enough, and the session is made anew. -/
def finishDeletion (deletion : Deletion) (session : RequestSession) (others same : Nat) :
    Operations MFAReply :=
  let mfaStillEnabled := decide (others > 0 ∨ same > 1)
  let rotate : Operations MFAReply :=
    .ask .deleteUserSessions fun _ =>
      issueLoginSession deletion.now (filterNonMFAAMR session.payload.amr)
        (mfaStillEnabled && decide (session.payload.mfaVerifiedAt > 0)) "2fa session rotate"
  if others = 0 ∧ same ≤ 1 then .ask (.replaceRecoveryCodes []) fun _ => rotate else rotate

/-- The two deletions, which differ in the kind of factor only, from the write on. The
status is loaded after the factor was revoked. -/
def revokeFactor (kind : FactorKind) (deletion : Deletion) (session : RequestSession) (id : Nat)
    (missing revoking : String) : Operations MFAReply :=
  .ask (.revokeFactor kind id) fun
    | some .notFound => .done (.refused (.status 404 (ascii missing)))
    | some (.failed err) => .done (internal revoking err)
    | none => do
        match ← loadMFAStatus with
        | .error err => return internal "2fa status" err
        | .ok status =>
          let others := (status.factors kind.other).length
          let same := (status.factors kind).length
          match ← syncMFASettings (if others > 0 then kind.other.method else []) with
          | some err => return internal "2fa settings" err
          | none => finishDeletion deletion session others same

def deleteFactor (kind : FactorKind) (deletion : Deletion) (invalid missing revoking : String) :
    Operations MFAReply :=
  match deletion.session with
  | none => return .refused (.status 401 (ascii "login required"))
  | some session => do
      match ← requireRecentMFA session with
      | some reply => return reply
      | none =>
        match deletion.id with
        | none => return .refused (.status 400 (ascii invalid))
        | some id => revokeFactor kind deletion session id missing revoking

def apiAuth2FATOTPDelete (deletion : Deletion) : Operations MFAReply :=
  deleteFactor .totp deletion "invalid factor id" "factor not found" "totp revoke"

def apiAuth2FAWebAuthnDelete (deletion : Deletion) : Operations MFAReply :=
  deleteFactor .webauthn deletion "invalid credential id" "credential not found" "webauthn revoke"

def apiAuth2FARecoveryRegenerate (session : Option RequestSession)
    (codeHashes : Except GoError (List GoString)) (now : Int) : Operations MFAReply :=
  match session with
  | none => return .refused (.status 401 (ascii "login required"))
  | some session => do
      match ← requireRecentMFA session with
      | some reply => return reply
      | none =>
        match codeHashes with
        | .error err => return internal "recovery codes" err
        | .ok hashes => .ask (.replaceRecoveryCodes hashes) fun
          | some err => .done (internal "recovery save" err)
          | none => .ask .deleteUserSessions fun _ =>
            issueLoginSession now session.payload.amr true "recovery session rotate"

/-- `apiAuth2FAVerifyRecovery`: a code is used up and the session marked. -/
def apiAuth2FAVerifyRecovery (session : Option RequestSession) (checked : Option Refusal)
    (hash : GoString) (now : Int) : Operations MFAReply :=
  match session, checked with
  | none, _ => return .refused (.status 401 (ascii "login required"))
  | some _, some refusal => return .refused refusal
  | some session, none => .ask (.consumeRecoveryCode hash) fun
    | some _ => .done (.refused (.status 401 (ascii "invalid recovery code")))
    | none => .ask (.putSession { session.payload with mfaVerifiedAt := now }) fun
      | some err => .done (internal "2fa verify session" err)
      | none => .ask .countUnusedRecoveryCodes fun _ => .done .done

/-- `apiAuth2FALoginRecovery`: a code is used up and a session made. -/
def apiAuth2FALoginRecovery (checked : Option Refusal) (hash : GoString) (methods : List GoString)
    (now : Int) : Operations MFAReply :=
  match checked with
  | some refusal => return .refused refusal
  | none => .ask (.consumeRecoveryCode hash) fun
    | some _ => .done (.refused (.status 401 (ascii "invalid recovery code")))
    | none => .ask .deleteTemporaryJSON fun _ =>
      issueLoginSession now (appendMFAMethod methods (ascii "recovery")) true "login session"

/-- `createPendingLogin`: the methods of the challenge, if one is needed. -/
def createPendingLogin : Operations (Except GoError (Option (List GoString))) := do
  match ← loadMFAStatus with
  | .error err => return .error err
  | .ok status =>
    let methods := mfaMethodsForStatus status
    if methods.length = 0 then return .ok none
    else .ask .saveTemporaryJSON fun
      | some err => .done (.error err)
      | none => .done (.ok (some methods))

/-- The end of a login whose first factor was proved: a challenge or a session. -/
def finishLogin (amr : List GoString) (pending issuing : String) : Operations MFAReply := do
  match ← createPendingLogin with
  | .error err => return internal pending err
  | .ok (some methods) => return .challenge methods
  | .ok none => issueLoginSession 0 amr false issuing

/-- The end of `apiLogin`. -/
def apiLogin : Operations MFAReply := finishLogin [ascii "pwd"] "login mfa status" "login issue session"

/-- The end of `apiLoginSRPFinish`. -/
def apiLoginSRPFinish : Operations MFAReply :=
  finishLogin [ascii "pwd", ascii "srp"] "srp mfa status" "srp issue session"

inductive MFARequest where
  | totpConfirm (registration : Registration)
  | webAuthnRegisterFinish (registration : Registration)
  | totpDelete (deletion : Deletion)
  | webAuthnDelete (deletion : Deletion)
  | recoveryRegenerate (session : Option RequestSession) (codeHashes : Except GoError (List GoString))
      (now : Int)
  | verifyRecovery (session : Option RequestSession) (checked : Option Refusal) (hash : GoString)
      (now : Int)
  | loginRecovery (checked : Option Refusal) (hash : GoString) (methods : List GoString) (now : Int)
  | login
  | loginSRP

def MFARequest.program : MFARequest → Operations MFAReply
  | totpConfirm registration => apiAuth2FATOTPConfirm registration
  | webAuthnRegisterFinish registration => apiAuth2FAWebAuthnRegisterFinish registration
  | totpDelete deletion => apiAuth2FATOTPDelete deletion
  | webAuthnDelete deletion => apiAuth2FAWebAuthnDelete deletion
  | recoveryRegenerate session codeHashes now => apiAuth2FARecoveryRegenerate session codeHashes now
  | verifyRecovery session checked hash now => apiAuth2FAVerifyRecovery session checked hash now
  | loginRecovery checked hash methods now => apiAuth2FALoginRecovery checked hash methods now
  | login => apiLogin
  | loginSRP => apiLoginSRPFinish

end ElvishMail.Httpserver
