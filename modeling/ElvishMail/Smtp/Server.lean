import ElvishMail.Smtp.Sasl
import ElvishMail.Smtp.Wire
import ElvishMail.Semantics.Trace

/-!
# The SMTP server session

`internal/smtp/server`: the command handlers and the connection loop of one
session, as functions from the session before a line to the session after it.
Each handler returns whether it ends the session.

Everything outside the session is a function of the session's own log: the
backend's answers, the outcome of a TLS handshake and of a write. No choice of
these functions makes the past depend on the future, and every behaviour of a
backend, a client or a network along one session is described by some choice.
-/

namespace ElvishMail.Smtp

open Go Semantics

/-- MX sessions take mail for local recipients without AUTH; submission
sessions require AUTH. -/
inductive Mode where
  | mx
  | submission
deriving DecidableEq

/-- What a session did, in order. `command` lines are those the connection loop
reads, `response` lines those an AUTH exchange reads. A reply is logged when it
is issued. -/
inductive Event where
  | command (line : GoString)
  | response (line : GoString)
  | reply (code : Int) (lines : List GoString)
  | handshake
  | authenticate (credentials : Credentials) (accepted : Bool)
  | lookup (rcpt : GoString) (accepted : Bool)
  | inbound (fromAddr : GoString) (rcpt : List GoString) (body peer hello : GoString)
  | submission (principal fromAddr : GoString) (rcpt : List GoString) (body peer : GoString)
deriving DecidableEq

abbrev Log := List Event

/-- `Config`, as far as a session reads it. -/
structure Config where
  hostname : GoString
  mode : Mode
  maxMessageBytes : Int
  maxRecipients : Int
  tlsConfig : Bool
  allowPlainAuth : Bool
deriving DecidableEq

/-- The defaults `New` fills in. -/
def Config.new (cfg : Config) : Config :=
  { cfg with
    hostname := if cfg.hostname = [] then ascii "localhost" else cfg.hostname
    maxMessageBytes := if cfg.maxMessageBytes ≤ 0 then 26 * 2 ^ 20 else cfg.maxMessageBytes
    maxRecipients :=
      if cfg.maxRecipients ≤ 0 then Smtp.maxRecipients else cfg.maxRecipients }

/-- The `Backend` interface. Each method returns its error, and `authenticator`
is `none` when AUTH is disabled. As the interface demands, an error of
`LookupRecipient` is a refusal: it is not written to the client as a 250. -/
structure Backend where
  handleInbound : Log → (fromAddr : GoString) → (rcpt : List GoString) →
    (body peer hello : GoString) → Option GoError
  handleSubmission : Log → (principal fromAddr : GoString) → (rcpt : List GoString) →
    (body peer : GoString) → Option GoError
  lookupRecipient : Log → (rcpt : GoString) → Option GoError
  authenticator : Log → Option (Credentials → Option GoError)
  lookupRefuses : ∀ log rcpt err, lookupRecipient log rcpt = some err → (replyErr err).1 ≠ 250

/-- The connection under the session: whether the write of the last logged
reply fails, and the stream that follows a successful TLS handshake. -/
structure Transport where
  writeFails : Log → Bool
  handshake : Log → Option Stream

/-- One listener: configuration, backend, transport and the standard library. -/
structure Server where
  cfg : Config
  be : Backend
  net : Transport
  lib : Library

structure Session where
  r : Stream
  peer : GoString
  greeted : Bool := false
  hello : GoString := []
  tlsActive : Bool := false
  authed : Bool := false
  principal : GoString := []
  fromAddr : GoString := []
  rcpt : List GoString := []
  extensions : List GoString
  upgradedConn : Option Stream := none
  log : Log := []
deriving DecidableEq

namespace Session

def record (st : Session) (event : Event) : Session := { st with log := st.log ++ [event] }

def reply (st : Session) (code : Int) (text : GoString) : Session := st.record (.reply code [text])

def replyErr (st : Session) (err : GoError) : Session :=
  st.reply (Smtp.replyErr err).1 (Smtp.replyErr err).2

/-- `ReadLine` inside an AUTH exchange. -/
def readResponse (st : Session) : Option GoString × Session :=
  match st.r.readLine with
  | (.error _, rest) => (none, { st with r := rest })
  | (.ok line, rest) => (some line, ({ st with r := rest }).record (.response line))

end Session

namespace Server

variable (srv : Server)

def advertiseExtensions (afterTLS : Bool) : List GoString :=
  [ascii "SIZE " ++ itoa srv.cfg.maxMessageBytes, ascii "8BITMIME", ascii "PIPELINING",
    ascii "ENHANCEDSTATUSCODES"] ++
  (if srv.cfg.tlsConfig ∧ !afterTLS then [ascii "STARTTLS"] else []) ++
  (if srv.cfg.mode = .submission ∧ (afterTLS ∨ srv.cfg.allowPlainAuth) then
    [ascii "AUTH PLAIN LOGIN"] else [])

def greets (name : GoString) : GoString := srv.cfg.hostname ++ ascii " greets " ++ name

/-- EHLO answers with the greeting and the advertised extensions. -/
def cmdEHLO (st : Session) (args : GoString) : Bool × Session :=
  match parseHelloName args with
  | .error err => (false, st.replyErr (.smtp err))
  | .ok name =>
    (false, ({ st with hello := name, greeted := true }).record
      (.reply 250 (srv.greets name :: st.extensions)))

def cmdHELO (st : Session) (args : GoString) : Bool × Session :=
  match parseHelloName args with
  | .error err => (false, st.replyErr (.smtp err))
  | .ok name =>
    (false, ({ st with hello := name, greeted := true }).reply 250 (srv.greets name))

/-- STARTTLS leaves the upgraded connection for the connection loop to install.
A failed handshake ends the session. -/
def cmdSTARTTLS (st : Session) : Bool × Session :=
  if !st.greeted then (false, st.replyErr (.smtp errBadSequence))
  else if !srv.cfg.tlsConfig then (false, st.reply 454 (ascii "TLS not available"))
  else
    let ready := st.reply 220 (ascii "Ready to start TLS")
    if srv.net.writeFails ready.log then (true, ready)
    else match srv.net.handshake ready.log with
      | none => (true, ready)
      | some conn =>
        (false, { ready.record .handshake with tlsActive := true, upgradedConn := some conn })

def splitMechanism (args : GoString) : GoString × GoString :=
  let args := trimSpace args
  match indexByte args 0x20 with
  | none => (args, [])
  | some index => (args.take index, trimSpace (args.drop (index + 1)))

def authenticate (auth : Credentials → Option GoError) (st : Session)
    (credentials : Credentials) : Bool × Session :=
  match auth credentials with
  | some _ =>
    (false, (st.record (.authenticate credentials false)).replyErr (.smtp errAuthFailed))
  | none =>
    (false, ({ st.record (.authenticate credentials true) with
      authed := true, principal := credentials.username }).reply 235
        (ascii "Authentication succeeded"))

/-- The PLAIN response, given with the command or read after a 334. -/
def authPLAIN (auth : Credentials → Option GoError) (st : Session) (rest : GoString) :
    Bool × Session :=
  let decode (st : Session) (b64 : GoString) : Bool × Session :=
    match decodePlain b64 with
    | none => (false, st.replyErr (.smtp errSyntax))
    | some credentials => authenticate auth st credentials
  if rest ≠ [] then decode st rest
  else
    let asked := st.reply 334 []
    if srv.net.writeFails asked.log then (true, asked)
    else match asked.readResponse with
      | (none, st) => (true, st)
      | (some line, st) => decode st line

def authLOGIN (auth : Credentials → Option GoError) (st : Session) : Bool × Session :=
  let asked := st.reply 334 (ascii "VXNlcm5hbWU6")
  if srv.net.writeFails asked.log then (true, asked)
  else match asked.readResponse with
    | (none, st) => (true, st)
    | (some userLine, st) =>
      match decodeLogin userLine with
      | none => (false, st.replyErr (.smtp errSyntax))
      | some user =>
        let asked := st.reply 334 (ascii "UGFzc3dvcmQ6")
        if srv.net.writeFails asked.log then (true, asked)
        else match asked.readResponse with
          | (none, st) => (true, st)
          | (some passLine, st) =>
            match decodeLogin passLine with
            | none => (false, st.replyErr (.smtp errSyntax))
            | some pass => authenticate auth st ⟨[], user, pass⟩

/-- AUTH needs a greeting, a submission listener, and TLS unless plaintext AUTH
is allowed. -/
def cmdAUTH (st : Session) (args : GoString) : Bool × Session :=
  if !st.greeted then (false, st.replyErr (.smtp errBadSequence))
  else if srv.cfg.mode ≠ .submission then
    (false, st.reply 503 (ascii "AUTH not allowed on this port"))
  else if !st.tlsActive ∧ !srv.cfg.allowPlainAuth then (false, st.replyErr (.smtp errTLSRequired))
  else match srv.be.authenticator st.log with
    | none => (false, st.reply 504 (ascii "AUTH mechanism not implemented"))
    | some auth =>
      let (mech, rest) := splitMechanism args
      if toUpper srv.lib mech = ascii "PLAIN" then srv.authPLAIN auth st rest
      else if toUpper srv.lib mech = ascii "LOGIN" then srv.authLOGIN auth st
      else (false, st.reply 504 (ascii "AUTH mechanism not implemented"))

/-- MAIL opens a transaction; the null reverse path `<>` is accepted. -/
def cmdMAIL (st : Session) (args : GoString) : Bool × Session :=
  if !st.greeted then (false, st.replyErr (.smtp errBadSequence))
  else if srv.cfg.mode = .submission ∧ !st.authed then
    (false, st.replyErr (.smtp errAuthRequired))
  else match parseMailFromOrRcptTo srv.lib args with
    | .error err => (false, st.replyErr (.smtp err))
    | .ok addr =>
      if addr ≠ [] ∧ (srv.lib.parseAddress addr).isNone then
        (false, st.reply 553 (ascii "bad sender address"))
      else (false, ({ st with fromAddr := addr, rcpt := [] }).reply 250 (ascii "Sender OK"))

def cmdRCPT (st : Session) (args : GoString) : Bool × Session :=
  if st.fromAddr = [] then (false, st.replyErr (.smtp errBadSequence))
  else match parseMailFromOrRcptTo srv.lib args with
    | .error err => (false, st.replyErr (.smtp err))
    | .ok addr =>
      match srv.lib.parseAddress addr with
      | none => (false, st.reply 553 (ascii "bad recipient address"))
      | some parsed =>
        if parsed = [] then (false, st.reply 553 (ascii "bad recipient address"))
        else
          let em := toLower srv.lib (trimSpace parsed)
          if (st.rcpt.length : Int) ≥ srv.cfg.maxRecipients then
            (false, st.replyErr (.smtp errTooManyRcpts))
          else
            let accept (st : Session) : Bool × Session :=
              (false, ({ st with rcpt := st.rcpt ++ [em] }).reply 250 (ascii "Recipient OK"))
            if srv.cfg.mode = .mx then
              match srv.be.lookupRecipient st.log em with
              | some err => (false, (st.record (.lookup em false)).replyErr err)
              | none => accept (st.record (.lookup em true))
            else accept st

def deliverToBackend (st : Session) (body : GoString) : Option GoError × Session :=
  match srv.cfg.mode with
  | .mx =>
    (srv.be.handleInbound st.log st.fromAddr st.rcpt body st.peer st.hello,
      st.record (.inbound st.fromAddr st.rcpt body st.peer st.hello))
  | .submission =>
    (srv.be.handleSubmission st.log st.principal st.fromAddr st.rcpt body st.peer,
      st.record (.submission st.principal st.fromAddr st.rcpt body st.peer))

/-- DATA checks only that a recipient is set. A message that cannot be read
leaves the transaction open. -/
def cmdDATA (st : Session) : Bool × Session :=
  if st.rcpt.length = 0 then (false, st.replyErr (.smtp errBadSequence))
  else
    let ready := st.reply 354 (ascii "End data with <CR><LF>.<CR><LF>")
    if srv.net.writeFails ready.log then (true, ready)
    else match ready.r.readDATA srv.cfg.maxMessageBytes with
      | (.error err, rest) => (false, ({ ready with r := rest }).replyErr err)
      | (.ok body, rest) =>
        match srv.deliverToBackend { ready with r := rest } body with
        | (some err, st) => (false, { st.replyErr err with fromAddr := [], rcpt := [] })
        | (none, st) =>
          (false, { st.reply 250 (ascii "Message accepted") with fromAddr := [], rcpt := [] })

/-- `handleLine` dispatches on the verb; `true` ends the session. -/
def handleLine (st : Session) (line : GoString) : Bool × Session :=
  let (verb, args) := parseCommand srv.lib line
  if verb = ascii "EHLO" then srv.cmdEHLO st args
  else if verb = ascii "HELO" then srv.cmdHELO st args
  else if verb = ascii "STARTTLS" then srv.cmdSTARTTLS st
  else if verb = ascii "AUTH" then srv.cmdAUTH st args
  else if verb = ascii "MAIL" then srv.cmdMAIL st args
  else if verb = ascii "RCPT" then srv.cmdRCPT st args
  else if verb = ascii "DATA" then srv.cmdDATA st
  else if verb = ascii "RSET" then
    (false, ({ st with fromAddr := [], rcpt := [] }).reply 250 (ascii "Reset"))
  else if verb = ascii "VRFY" then (false, st.reply 252 (ascii "Cannot verify"))
  else if verb = ascii "NOOP" then (false, st.reply 250 (ascii "OK"))
  else if verb = ascii "QUIT" then (true, st.reply 221 (ascii "Bye"))
  else (false, st.replyErr (.smtp errUnknownCommand))

/-- The upgrade block of `handle`: install the TLS connection and forget the
greeting. -/
def installTLS (st : Session) : Session :=
  match st.upgradedConn with
  | none => st
  | some conn =>
    { st with
      r := conn
      upgradedConn := none
      greeted := false
      extensions := srv.advertiseExtensions true }

/-- One iteration of the loop in `handle`. -/
def serveLine (st : Session) : Bool × Session :=
  match st.r.readLine with
  | (.error _, rest) => (true, { st with r := rest })
  | (.ok line, rest) =>
    match srv.handleLine (({ st with r := rest }).record (.command line)) line with
    | (true, st) => (true, st)
    | (false, st) => (false, srv.installTLS st)

def start (conn : Stream) (peer : GoString) : Session :=
  let st : Session := { r := conn, peer := peer, extensions := srv.advertiseExtensions false }
  st.reply 220 (srv.cfg.hostname ++ ascii " ESMTP Elvish")

/-- The states of one session: from the greeting, line by line, each line read
in a state that is `allowed`. -/
abbrev Runs (allowed : Session → Prop) (conn : Stream) (peer : GoString) :
    Bool → Session → Prop :=
  Loop.Runs srv.serveLine allowed (srv.start conn peer)

end Server

end ElvishMail.Smtp
