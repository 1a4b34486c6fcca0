import ElvishMail.Go.Strings

/-!
# `net/textproto`

`Reader.ReadMIMEHeader` over a header block in memory: lines end at a line feed
with the carriage return before it, a line that starts with a blank continues the
one before it, and the header ends at the first empty line. The limits on memory
and on the number of fields are those of the exported function, which has none.
-/

namespace Go

def isBlank (byte : UInt8) : Bool := byte == 0x20 || byte == 0x09

/-- `textproto.trim`. -/
def trimBlanks (text : GoString) : GoString :=
  ((text.dropWhile isBlank).reverse.dropWhile isBlank).reverse

def dropCR (line : GoString) : GoString := trimSuffix line [0x0D]

def continuedLines : List GoString → List (GoString × List GoString)
  | [] => []
  | line :: rest =>
    match continuedLines rest with
    | (next, more) :: later =>
      if next.head?.any isBlank then (line, next :: more) :: later
      else (line, []) :: (next, more) :: later
    | [] => [(line, [])]

/-- `validHeaderFieldByte`: a byte of an RFC 7230 token. -/
def validHeaderFieldByte (byte : UInt8) : Bool :=
  inRange 48 57 byte || inRange 65 90 byte || inRange 97 122 byte ||
    (ascii "!#$%&'*+-.^_`|~").contains byte

def validHeaderValueByte (byte : UInt8) : Bool :=
  byte == 0x09 || (0x20 ≤ byte && byte != 0x7F)

/-- Letters in upper case at the start and after a dash, in lower case elsewhere. -/
def canonicalLetters : Bool → GoString → GoString
  | _, [] => []
  | upper, byte :: rest =>
    let byte :=
      if upper && inRange 97 122 byte then byte - 32
      else if !upper && inRange 65 90 byte then byte + 32
      else byte
    byte :: canonicalLetters (byte == 0x2D) rest

/-- `canonicalMIMEHeaderKey`; a key with a space is accepted as it is. -/
def canonicalMIMEHeaderKey (key : GoString) : Option GoString :=
  if key = [] then none
  else if !key.all fun byte => validHeaderFieldByte byte || byte == 0x20 then none
  else if key.contains 0x20 then some key
  else some (canonicalLetters true key)

/-- One field from its lines, or the text of a `ProtocolError`. -/
def mimeField (lib : Library) (line : GoString) (more : List GoString) :
    Except GoString (GoString × GoString) :=
  if !line.contains 0x3A then
    .error (ascii "malformed MIME header: missing colon: " ++ lib.quote line)
  else
    let whole := trimBlanks line ++ more.flatMap fun next => 0x20 :: trimBlanks next
    let malformed := ascii "malformed MIME header line: " ++ whole
    let name := whole.takeWhile (· != 0x3A)
    let value := (whole.dropWhile (· != 0x3A)).drop 1
    match canonicalMIMEHeaderKey name with
    | none => .error malformed
    | some key =>
      if !value.all validHeaderValueByte then .error malformed
      else .ok (key, value.dropWhile isBlank)

/-- `Reader.ReadMIMEHeader`: the fields in order, with their keys. -/
def readMIMEHeader (lib : Library) (text : GoString) :
    Except GoString (List (GoString × GoString)) :=
  let lines := ((text.splitOn 0x0A).map dropCR).takeWhile (· ≠ [])
  match lines.head? with
  | none => .ok []
  | some first =>
    if first.head?.any isBlank then
      if first.length > 80 then .error (ascii "message too large")
      else .error (ascii "malformed MIME header initial line: " ++ first)
    else (continuedLines lines).mapM fun (line, more) => mimeField lib line more

end Go
