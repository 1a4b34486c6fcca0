import ElvishMail.Mailpipe.Pipe

/-!
# The SMTP backend

`cmd/elvishserver/smtp_backend.go`: the bridge between the SMTP server and the
ingest pipe. A call is given what it meets outside the process, and threads the
state of the stores. Logging and telemetry are left out.
-/

namespace ElvishMail.Elvishserver

open Go Smtp Mailmeta Mailstore Mailpipe

inductive Mode where
  | none
  | quarantine
  | reject
deriving DecidableEq

/-- `mailauth.Results`, as far as `Enforce` reads them. -/
structure AuthResults where
  spf : GoString
  dkim : GoString
  dmarc : GoString
deriving DecidableEq

def authFailed (results : AuthResults) : Bool :=
  results.spf == ascii "fail" || results.dkim == ascii "fail" || results.dmarc == ascii "fail"

/-- `Enforce` applies the configured mode. Quarantine accepts. -/
def enforce (mode : Mode) (results : AuthResults) : Option GoError :=
  match mode with
  | .none => none
  | .quarantine => none
  | .reject =>
    if authFailed results then
      some (.smtp { code := 550, message := ascii "mail authentication failed" })
    else none

/-- `smtpBackend`: which of its dependencies are set, and its pipe. -/
structure SMTPBackend where
  pipe : Pipe
  submission : Bool
  hasStore : Bool
  hasMeta : Bool
  hasRateLimit : Bool
  mailAuth : Option Mode

/-- What one call of the backend meets: the rate limiter's answer for a peer, the
results of mail authentication, the answers of the user queries, and what the
ingest of each recipient meets, by position. -/
structure Call where
  allow : (name peer : GoString) → (max : Int) → Except GoError Bool
  check : (peer fromAddr body : GoString) → AuthResults
  userByEmail : GoString → Except GoError GoString
  smtpCredentialForAuth : GoString → Except LookupError Nat
  defaultIdentityForUser : Nat → Except LookupError IdentityKey
  ingest : Nat → Conditions

def rateLimitMXPerHour : Int := 120

def rateLimitSubmissionPerHour : Int := 200

def errRateLimit : GoError :=
  .smtp { code := 451, message := ascii "rate limit exceeded, please retry later" }
def errTemporary : GoError :=
  .smtp { code := 451, message := ascii "temporary failure, please retry" }
def errPrincipal : GoError :=
  .smtp { code := 554, message := ascii "principal unavailable" }

namespace SMTPBackend

variable (be : SMTPBackend)

/-- `allowSMTP` fails closed. -/
def allowSMTP (call : Call) (peer : GoString) (max : Int) : Bool :=
  if !be.hasRateLimit then true
  else
    let name := if be.submission then ascii "smtp_submission" else ascii "smtp_mx"
    match call.allow name peer max with
    | .error _ => false
    | .ok allowed => allowed

/-- The checks of `HandleInbound` before the first recipient. -/
def gate (call : Call) (fromAddr body peer : GoString) : Option GoError :=
  if !be.allowSMTP call peer rateLimitMXPerHour then some errRateLimit
  else match be.mailAuth with
    | none => none
    | some mode => enforce mode (call.check peer fromAddr body)

/-- The loop of `HandleInbound`: recipients are ingested in order, and the first
that fails ends the call. A dropped message counts as delivered. -/
def ingestEach (fromAddr body : GoString) :
    (ingest : Nat → Conditions) → (rcpt : List GoString) → Stores → Option GoError × Stores
  | _, [], stores => (none, stores)
  | ingest, addr :: rest, stores =>
    match be.pipe.ingestExternal (ingest 0) fromAddr (normalized be.pipe.lib addr) body stores with
    | (.error _, stores) => (some errTemporary, stores)
    | (.ok _, stores) => ingestEach fromAddr body (fun position => ingest (position + 1)) rest stores

def handleInbound (call : Call) (fromAddr : GoString) (rcpt : List GoString)
    (body peer : GoString) (stores : Stores) : Option GoError × Stores :=
  match be.gate call fromAddr body peer with
  | some err => (some err, stores)
  | none => be.ingestEach fromAddr body call.ingest rcpt stores

/-- `resolveSubmissionPrincipal`: the email of the user who logged in. -/
def resolveSubmissionPrincipal (call : Call) (principal : GoString) : Except GoError GoString :=
  let p := normalized be.pipe.lib principal
  if p = [] then .error (.plain (ascii "empty principal"))
  else
    let viaCredential : Except GoError GoString :=
      if be.hasMeta then
        match call.smtpCredentialForAuth p with
        | .ok userID =>
          match call.defaultIdentityForUser userID with
          | .error err => .error err.error
          | .ok identity => .ok identity.email
        | .error (.failed err) => .error err
        | .error .notFound => .error (.plain (ascii "unknown principal"))
      else .error (.plain (ascii "unknown principal"))
    if be.hasStore then
      match call.userByEmail p with
      | .ok email => .ok email
      | .error _ => viaCredential
    else viaCredential

def handleSubmission (call : Call) (principal fromAddr : GoString) (rcpt : List GoString)
    (body peer : GoString) (stores : Stores) : Option GoError × Stores :=
  if !be.allowSMTP call peer rateLimitSubmissionPerHour then (some errRateLimit, stores)
  else match be.resolveSubmissionPrincipal call principal with
    | .error _ => (some errPrincipal, stores)
    | .ok principalEmail =>
      match be.pipe.ingestSubmission (call.ingest 0) principalEmail fromAddr rcpt body stores with
      | (.error _, stores) => (some errTemporary, stores)
      | (.ok _, stores) => (none, stores)

end SMTPBackend

/-- A call whose ingest at a position meets a store that is down for one kind of
write. -/
def sampleCall (down : Nat → Option Op) : Call where
  allow := fun _ _ _ => .ok true
  check := fun _ _ _ => ⟨ascii "none", ascii "none", ascii "none"⟩
  userByEmail := fun email => .ok email
  smtpCredentialForAuth := fun _ => .error .notFound
  defaultIdentityForUser := fun _ => .error .notFound
  ingest := fun position => sampleConditions (down position)

def sampleBackend (submission : Bool) : SMTPBackend where
  pipe := samplePipe
  submission
  hasStore := true
  hasMeta := true
  hasRateLimit := true
  mailAuth := some .none

end ElvishMail.Elvishserver
