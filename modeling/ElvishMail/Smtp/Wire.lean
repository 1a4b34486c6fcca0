import ElvishMail.Go.Strings

/-!
# SMTP wire framing

`internal/smtp/wire`: the typed reply error, command-line and `DATA` framing,
and the argument parsers shared by the server and the client. A connection is
the byte stream its peer will still send, together with how that stream ends.
-/

namespace ElvishMail.Smtp

open Go

/-- `MaxLineBytes` (RFC 5321 §4.5.3.1.4). -/
def maxLineBytes : Nat := 8192

/-- `MaxRecipients`, the default recipient cap. -/
def maxRecipients : Nat := 100

structure SMTPError where
  code : Int
  enhancedCode : GoString := []
  message : GoString
deriving DecidableEq

def hundreds (code : Int) : Int := code.tdiv 100

namespace SMTPError

def error (err : SMTPError) : GoString :=
  if err.enhancedCode ≠ [] then
    ascii "smtp " ++ itoa err.code ++ ascii " " ++ err.enhancedCode ++ ascii ": " ++ err.message
  else ascii "smtp " ++ itoa err.code ++ ascii ": " ++ err.message

def isPermanent (err : SMTPError) : Bool := hundreds err.code == 5

end SMTPError

def errLineTooLong : SMTPError := ⟨500, ascii "5.5.6", ascii "line too long"⟩
def errSyntax : SMTPError := ⟨500, ascii "5.5.2", ascii "syntax error"⟩
def errBadSequence : SMTPError := ⟨503, ascii "5.5.1", ascii "bad sequence of commands"⟩
def errAuthRequired : SMTPError := ⟨530, ascii "5.7.0", ascii "authentication required"⟩
def errTooManyRcpts : SMTPError := ⟨452, ascii "4.5.3", ascii "too many recipients"⟩
def errMessageTooLarge : SMTPError := ⟨552, ascii "5.3.4", ascii "message too large"⟩
def errUnknownCommand : SMTPError := ⟨502, ascii "5.5.1", ascii "command not implemented"⟩
def errTLSRequired : SMTPError :=
  ⟨530, ascii "5.7.0", ascii "must issue a STARTTLS command first"⟩
def errAuthFailed : SMTPError := ⟨535, ascii "5.7.8", ascii "authentication failed"⟩

/-- A Go `error` value as the mail code inspects it: a typed reply error, an
opaque error known only by its text, or an error wrapped by `%w`. -/
inductive GoError where
  | smtp (err : SMTPError)
  | plain (text : GoString)
  | wrap (start : GoString) (inner : GoError)
deriving DecidableEq

namespace GoError

/-- The `Error` method. -/
def text : GoError → GoString
  | .smtp err => err.error
  | .plain text => text
  | .wrap start inner => start ++ inner.text

/-- `errors.As` into a `*wire.SMTPError`. -/
def asSMTP : GoError → Option SMTPError
  | .smtp err => some err
  | .plain _ => none
  | .wrap _ inner => inner.asSMTP

/-- `errors.Is`. -/
def isErr : GoError → GoError → Bool
  | .wrap start inner, target => .wrap start inner = target || inner.isErr target
  | err, target => err = target

end GoError

/-- What a peer will still send on a connection, and whether the stream then
ends in a read error (a reset or a passed deadline) instead of end of file. -/
structure Stream where
  bytes : GoString
  failed : Bool := false
deriving DecidableEq

/-- `Reader.ReadLine`. An unterminated last line is still returned, unless the
stream ends in an error. -/
def Stream.readLine (stream : Stream) : Except GoError GoString × Stream :=
  let finish (line : GoString) : Except GoError GoString :=
    if line.length > maxLineBytes then .error (.smtp errLineTooLong)
    else .ok (trimRightCRLF line)
  match indexByte stream.bytes 0x0A with
  | some index =>
    (finish (stream.bytes.take (index + 1)),
      { stream with bytes := stream.bytes.drop (index + 1) })
  | none =>
    let drained := { stream with bytes := [] }
    if stream.failed then (.error (.plain (ascii "read error")), drained)
    else if stream.bytes = [] then (.error (.plain (ascii "EOF")), drained)
    else (finish stream.bytes, drained)

/-- Positions of `net/textproto`'s dot reader inside a line. -/
inductive DotState where
  | beginLine
  | dot
  | dotCR
  | cr
  | data
deriving DecidableEq

def emit (bytes : GoString) (rest : Option (GoString × GoString)) : Option (GoString × GoString) :=
  rest.map fun result => (bytes ++ result.1, result.2)

/-- `textproto.Reader.ReadDotBytes`: the unstuffed message and the bytes after
its end marker, or `none` when the stream ends first. A carriage return that
does not end a line is emitted and the following byte is read again as data. -/
def readDotBytes : DotState → GoString → Option (GoString × GoString)
  | _, [] => none
  | .beginLine, byte :: rest =>
    if byte = 0x2E then readDotBytes .dot rest
    else if byte = 0x0D then readDotBytes .cr rest
    else emit [byte] (readDotBytes .data rest)
  | .dot, byte :: rest =>
    if byte = 0x0D then readDotBytes .dotCR rest
    else if byte = 0x0A then some ([], rest)
    else emit [byte] (readDotBytes .data rest)
  | .dotCR, byte :: rest =>
    if byte = 0x0A then some ([], rest)
    else if byte = 0x0D then emit [0x0D] (readDotBytes .cr rest)
    else emit [0x0D, byte] (readDotBytes .data rest)
  | .cr, byte :: rest =>
    if byte = 0x0A then emit [byte] (readDotBytes .beginLine rest)
    else if byte = 0x0D then emit [0x0D] (readDotBytes .cr rest)
    else emit [0x0D, byte] (readDotBytes .data rest)
  | .data, byte :: rest =>
    if byte = 0x0D then readDotBytes .cr rest
    else if byte = 0x0A then emit [byte] (readDotBytes .beginLine rest)
    else emit [byte] (readDotBytes .data rest)

/-- `Reader.ReadDATA`: the whole message is read before its size is checked. -/
def Stream.readDATA (stream : Stream) (limit : Int) : Except GoError GoString × Stream :=
  match readDotBytes .beginLine stream.bytes with
  | none => (.error (.plain (ascii "unexpected EOF")), { stream with bytes := [] })
  | some (body, rest) =>
    (if limit > 0 ∧ (body.length : Int) > limit then .error (.smtp errMessageTooLarge)
      else .ok body,
      { stream with bytes := rest })

/-- `sanitize`: at most 200 bytes, with line breaks blanked. -/
def sanitize (text : GoString) : GoString :=
  (runes (text.take 200)).flatMap fun rune =>
    if rune.value = 0x0D ∨ rune.value = 0x0A then [0x20] else encodeRune rune.value

/-- The code and text `Writer.ReplyErr` writes for an error. -/
def replyErr (err : GoError) : Int × GoString :=
  match err.asSMTP with
  | some typed => (typed.code, typed.message)
  | none => (451, ascii "internal error: " ++ sanitize err.text)

/-- `ParseCommand` splits `VERB ARGS` into upper-case verb and remainder. -/
def parseCommand (lib : Library) (line : GoString) : GoString × GoString :=
  match indexByte line 0x20 with
  | none => (toUpper lib line, [])
  | some index => (toUpper lib (line.take index), trimLeftSpaces (line.drop (index + 1)))

/-- `ParseMailFromOrRcptTo` extracts the address inside `FROM:<addr>` or
`TO:<addr>`; extension arguments are ignored. Either keyword is accepted for
either command. -/
def parseMailFromOrRcptTo (lib : Library) (args : GoString) : Except SMTPError GoString :=
  let args := trimSpace args
  if args.length < 4 then .error errSyntax
  else
    let upper := toUpper lib args
    let address (rest : GoString) : Except SMTPError GoString :=
      let rest := trimLeftSpaces rest
      if !hasPrefix rest (ascii "<") then .error errSyntax
      else match indexByte rest 0x3E with
        | none => .error errSyntax
        | some stop => .ok (trimSpace ((rest.take stop).drop 1))
    if hasPrefix upper (ascii "FROM:") then address (args.drop 5)
    else if hasPrefix upper (ascii "TO:") then address (args.drop 3)
    else .error errSyntax

/-- `ParseHelloName` extracts the EHLO/HELO domain or address literal. -/
def parseHelloName (args : GoString) : Except SMTPError GoString :=
  let args := trimSpace args
  if args = [] then .error errSyntax
  else if (runes args).any fun rune => rune.value < 0x20 || rune.value > 0x7E then
    .error errSyntax
  else .ok args

example : parseMailFromOrRcptTo .plain (ascii "from:<a@x.org> SIZE=9") = .ok (ascii "a@x.org") := by
  decide
example : readDotBytes .beginLine (ascii "..a\r\n.\r\nQUIT") = some (ascii ".a\n", ascii "QUIT") := by
  decide

end ElvishMail.Smtp
