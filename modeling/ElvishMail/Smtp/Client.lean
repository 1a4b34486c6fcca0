import Mathlib.Data.List.Sort
import ElvishMail.Smtp.Wire

/-!
# The SMTP client

`internal/smtp/client`: one outbound connection, from the dial to the reply to
the transmitted message. The peer is a `Host`, a function of everything the
client has written on the connection so far, so it may answer each command as it
likes but not see the future. Each operation of a connection appends what the
client observed to the connection's `events`.
-/

namespace ElvishMail.Smtp

open Go

/-- What a reply on an outbound connection answers. `message` is the reply to the
transmitted message, after the one to the `DATA` command itself. -/
inductive Command where
  | connect
  | greeting
  | ehlo
  | helo
  | starttls
  | mail
  | rcpt (addr : GoString)
  | data
  | message
deriving DecidableEq

/-- What the client observed: a line it refused to write, a failure to connect,
to write, to read or to negotiate, or a reply. -/
inductive WireEvent where
  | tooLong (command : Command)
  | broken (command : Command)
  | reply (command : Command) (code : Int) (text : GoString)
deriving DecidableEq

/-- How a host treats one command line: the error of the write, or what a read
then finds on the connection. -/
structure Exchange where
  writeErr : Option GoString := none
  response : Stream
deriving DecidableEq

/-- The behaviour of one host on one connection. `exchange`, `handshake`,
`transmit` and `message` are given all command lines written so far, the
current one last; `transmit` is the error of the dot writer. -/
structure Host where
  connectErr : Option GoString
  greeting : Stream
  exchange : List GoString → Exchange
  handshake : List GoString → Option GoString
  transmit : List GoString → (payload : GoString) → Option GoString
  message : List GoString → (payload : GoString) → Stream

/-- The loop of `Conn.read` over the complete lines of a response. A first code
of zero is replaced by the next line's. -/
def readReply (lib : Library) (ended : GoString) :
    List GoString → Int → GoString → Except GoError (Int × GoString)
  | [], _, _ => .error (.plain ended)
  | line :: rest, firstCode, text =>
    let line := trimRightCRLF line
    if line.length < 4 then .error (.plain (ascii "short response " ++ lib.quote line))
    else match atoi (line.take 3) with
      | none =>
        .error (.plain (ascii "strconv.Atoi: parsing " ++ lib.quote (line.take 3) ++
          ascii ": invalid syntax"))
      | some code =>
        let firstCode := if firstCode = 0 then code else firstCode
        let text := text ++ line.drop 4
        if (line.drop 3).head? = some 0x20 then .ok (firstCode, text)
        else readReply lib ended rest firstCode (text ++ [0x0A])

def Stream.completeLines (stream : Stream) : List GoString :=
  (stream.bytes.splitOnP (· == 0x0A)).dropLast

/-- `Conn.read`. Every call reads through a buffer of its own, so what a host sent
beyond one reply is not seen by the next. -/
def Stream.readReply (lib : Library) (stream : Stream) : Except GoError (Int × GoString) :=
  Smtp.readReply lib (if stream.failed then ascii "read error" else ascii "EOF")
    stream.completeLines 0 []

/-- `parseExtensions`: the upper-cased keyword and the arguments of each line. A
keyword given twice keeps its last arguments. -/
def parseExtensions (lib : Library) (text : GoString) : List (GoString × GoString) :=
  ((text.splitOnP (· == 0x0A)).map trimSpace).filter (!·.isEmpty) |>.reverse.map fun line =>
    match indexByte line 0x20 with
    | none => (toUpper lib line, [])
    | some index => (toUpper lib (line.take index), line.drop (index + 1))

/-- One open connection: the peer, the name used in EHLO, the advertised
extensions, the lines written and the events observed. -/
structure Conn where
  host : Host
  hostname : GoString
  tlsActive : Bool := false
  exts : List (GoString × GoString) := []
  sent : List GoString := []
  events : List WireEvent := []

/-- `DialOptions`, as far as the outcome of a dial depends on it. -/
structure DialOptions where
  hostname : GoString
  tlsConfig : Bool
  useTLS : Bool := false
  useSTARTTLS : Bool := false
deriving DecidableEq

/-- The per-recipient outcome `Rcpt` reports beside its error. -/
structure Result where
  recipient : GoString
  code : Int := 0
  enhancedCode : GoString := []
  message : GoString := []
  permanent : Bool := false
deriving DecidableEq

namespace Conn

variable (lib : Library)

def record (c : Conn) (event : WireEvent) : Conn := { c with events := c.events ++ [event] }

def wrote (c : Conn) (line : GoString) : Conn := { c with sent := c.sent ++ [line] }

/-- `cmdf` writes one command line, unless it is too long. -/
def cmdf (c : Conn) (command : Command) (line : GoString) : Option GoError × Conn :=
  if line.length + 2 > maxLineBytes then
    (some (.smtp errLineTooLong), c.record (.tooLong command))
  else
    let c := c.wrote line
    match (c.host.exchange c.sent).writeErr with
    | some text => (some (.plain text), c.record (.broken command))
    | none => (none, c)

def response (c : Conn) : Stream := (c.host.exchange c.sent).response

/-- `read`, as the answer to a command. -/
def read (c : Conn) (command : Command) (stream : Stream) : Except GoError (Int × GoString) × Conn :=
  match stream.readReply lib with
  | .error err => (.error err, c.record (.broken command))
  | .ok (code, text) => (.ok (code, text), c.record (.reply command code text))

/-- `expect` reads one reply and demands its code. -/
def expect (c : Conn) (command : Command) (stream : Stream) (want : Int) :
    Except GoError (Int × GoString) × Conn :=
  match c.read lib command stream with
  | (.error err, c) => (.error err, c)
  | (.ok (code, text), c) =>
    if code ≠ want then
      (.error (.plain (ascii "smtp: want " ++ itoa want ++ ascii " got " ++ itoa code ++
        ascii " " ++ text)), c)
    else (.ok (code, text), c)

/-- EHLO, falling back to HELO. After HELO the extensions stay as they were. -/
def ehlo (c : Conn) : Option GoError × Conn :=
  match c.cmdf .ehlo (ascii "EHLO " ++ c.hostname) with
  | (some err, c) => (some err, c)
  | (none, c) =>
    match c.expect lib .ehlo c.response 250 with
    | (.ok (_, text), c) => (none, { c with exts := parseExtensions lib text })
    | (.error err, c) =>
      match c.cmdf .helo (ascii "HELO " ++ c.hostname) with
      | (some _, c) => (some err, c)
      | (none, c) =>
        match c.expect lib .helo c.response 250 with
        | (.error err, c) => (some err, c)
        | (.ok _, c) => (none, c)

def greet (c : Conn) : Option GoError × Conn :=
  match c.expect lib .greeting c.host.greeting 220 with
  | (.error err, c) => (some (.wrap (ascii "greeting: ") err), c)
  | (.ok _, c) => c.ehlo lib

def startTLS (c : Conn) : Option GoError × Conn :=
  match c.cmdf .starttls (ascii "STARTTLS") with
  | (some err, c) => (some err, c)
  | (none, c) =>
    match c.expect lib .starttls c.response 220 with
    | (.error err, c) => (some (.wrap (ascii "starttls: ") err), c)
    | (.ok _, c) =>
      match c.host.handshake c.sent with
      | some text =>
        (some (.wrap (ascii "tls handshake: ") (.plain text)), c.record (.broken .starttls))
      | none => ({ c with tlsActive := true }).ehlo lib

def dial (host : Host) (opt : DialOptions) : Option GoError × Conn :=
  let c : Conn :=
    { host, hostname := if opt.hostname = [] then ascii "localhost" else opt.hostname }
  match host.connectErr with
  | some text => (some (.plain text), c.record (.broken .connect))
  | none =>
    if opt.useTLS then
      if !opt.tlsConfig then
        (some (.plain (ascii "smtp/client: implicit TLS requires TLSConfig")),
          c.record (.broken .connect))
      else match host.handshake [] with
        | some text =>
          (some (.wrap (ascii "tls handshake: ") (.plain text)), c.record (.broken .connect))
        | none => ({ c with tlsActive := true }).greet lib
    else match c.greet lib with
      | (some err, c) => (some err, c)
      | (none, c) =>
        if opt.useSTARTTLS ∧ opt.tlsConfig ∧ (c.exts.lookup (ascii "STARTTLS")).isSome then
          c.startTLS lib
        else (none, c)

def mail (c : Conn) (fromAddr : GoString) : Option GoError × Conn :=
  match c.cmdf .mail (ascii "MAIL FROM:<" ++ fromAddr ++ ascii ">") with
  | (some err, c) => (some err, c)
  | (none, c) =>
    match c.expect lib .mail c.response 250 with
    | (.error err, c) => (some err, c)
    | (.ok _, c) => (none, c)

/-- `Rcpt` accepts any 2xx reply; its error is a plain one whatever the code. -/
def rcpt (c : Conn) (addr : GoString) : (Result × Option GoError) × Conn :=
  let res : Result := { recipient := addr }
  match c.cmdf (.rcpt addr) (ascii "RCPT TO:<" ++ addr ++ ascii ">") with
  | (some err, c) => ((res, some err), c)
  | (none, c) =>
    match c.read lib (.rcpt addr) c.response with
    | (.error err, c) => ((res, some err), c)
    | (.ok (code, text), c) =>
      let res := { res with code, message := text }
      if hundreds code ≠ 2 then
        (({ res with permanent := hundreds code == 5 },
          some (.plain (ascii "rcpt: " ++ itoa code ++ ascii " " ++ text))), c)
      else ((res, none), c)

/-- `Data`: the code and text of the reply to the message, or an error with code
zero. -/
def data (c : Conn) (payload : GoString) : (Int × GoString × Option GoError) × Conn :=
  match c.cmdf .data (ascii "DATA") with
  | (some err, c) => ((0, [], some err), c)
  | (none, c) =>
    match c.expect lib .data c.response 354 with
    | (.error err, c) => ((0, [], some err), c)
    | (.ok _, c) =>
      match c.host.transmit c.sent payload with
      | some text => ((0, [], some (.plain text)), c.record (.broken .message))
      | none =>
        match c.read lib .message (c.host.message c.sent payload) with
        | (.error err, c) => ((0, [], some err), c)
        | (.ok (code, text), c) => ((code, text, none), c)

end Conn

structure MX where
  host : GoString
  pref : Nat
deriving DecidableEq

/-- What the resolver answers for a domain: records, and an error that may come
with them. -/
abbrev Resolver := GoString → List MX × Option GoError

/-- `LookupMX` returns the exchangers of a domain by preference, or the domain
itself; it never returns an empty list. -/
def lookupMX (resolve : Resolver) (domain : GoString) : List GoString × Option GoError :=
  match resolve domain with
  | (mxs, err) =>
    if err.isSome ∨ mxs = [] then ([domain], err)
    else
      let recs := (mxs.map fun mx =>
        { mx with host := trimSuffix (trimSpace mx.host) (ascii ".") }).filter (!·.host.isEmpty)
      if recs = [] then ([domain], none)
      else ((recs.insertionSort fun a b => a.pref ≤ b.pref).map MX.host, none)

theorem lookupMX_ne_nil (resolve : Resolver) (domain : GoString) :
    (lookupMX resolve domain).1 ≠ [] := by
  unfold lookupMX
  obtain ⟨mxs, err⟩ := resolve domain
  dsimp only
  split
  · simp
  split
  · simp
  · rename_i kept
    intro empty
    have sorted := (List.map_eq_nil_iff.mp empty ▸ List.perm_insertionSort _ _ : List.Perm [] _)
    exact kept sorted.nil_eq.symm

end ElvishMail.Smtp
