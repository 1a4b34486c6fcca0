import ElvishMail.Js.Text
import ElvishMail.Keyvault.Vault

/-!
# The envelope that is shown

`static/mail/mail-app.jsx`: `extractDisplayEnvelope` parses a decrypted text for the
reader. `atob` may throw, and with it the parse of an attachment.
-/

namespace ElvishMail.Mailapp

open Js Keyvault Semantics

/-- What the browser decodes besides: base64, UTF-8, and HTML to text. -/
structure Browser extends Host where
  atob : JsString → Option (List UInt8)
  decodeUtf8 : List UInt8 → JsString
  htmlToDisplayText : JsString → JsString

/-- An attachment. Its bytes are not kept in the browser's storage. -/
structure Attachment where
  fileName : JsString
  contentType : JsString
  bytes : Option (List UInt8)
deriving DecidableEq

structure DisplayEnvelope where
  bodyText : JsString := []
  bodyHtml : JsString := []
  attachments : List Attachment := []
deriving DecidableEq

abbrev Headers := List (JsString × JsString)

/-- `headers[name]`, empty if there is none. -/
def header (headers : Headers) (name : JsString) : JsString :=
  ((headers.find? fun entry => entry.1 = name).map Prod.snd).getD []

/-- The result of `parseHeaderBlock`. -/
structure HeaderBlock where
  headers : Headers := []
  totalHeaders : Nat := 0
  knownHeaders : Nat := 0
deriving DecidableEq

def knownHeaderNames : List JsString :=
  ["from", "to", "cc", "subject", "date", "message-id", "in-reply-to", "references", "reply-to",
    "mime-version", "content-type", "content-transfer-encoding", "content-disposition"].map lit

/-- `[A-Za-z0-9-]`. -/
def isNameUnit (unit : UInt16) : Bool :=
  let code := lowerUnit unit
  (97 ≤ code && code ≤ 122) || (48 ≤ unit && unit ≤ 57) || unit == 45

/-- `^([A-Za-z0-9-]+):\s*(.*)$`: the name and the value. -/
def matchHeader (line : JsString) : Option (JsString × JsString) :=
  let name := line.takeWhile isNameUnit
  let following := line.dropWhile isNameUnit
  let value := trimStart (following.drop 1)
  if name ≠ [] ∧ startsWith following (lit ":") ∧ value.any isTerminator = false then
    some (name.map lowerUnit, value)
  else none

def parseHeaderLines : Option JsString → HeaderBlock → List JsString → Option HeaderBlock
  | _, parsed, [] => some parsed
  | current, parsed, line :: rest =>
    if line = [] then none
    else if startsWith line (lit " ") ∨ startsWith line (lit "\t") then
      match current with
      | none => none
      | some name =>
        let value := header parsed.headers name ++ lit " " ++ trim line
        parseHeaderLines current
          { parsed with headers := Rows.upsert Prod.fst (name, value) parsed.headers } rest
    else
      match matchHeader line with
      | none => none
      | some (name, value) =>
        parseHeaderLines (some name)
          { headers := Rows.upsert Prod.fst (name, value) parsed.headers
            totalHeaders := parsed.totalHeaders + 1
            knownHeaders := parsed.knownHeaders + if name ∈ knownHeaderNames then 1 else 0 } rest

def parseHeaderBlock (headerBlock : JsString) : Option HeaderBlock :=
  parseHeaderLines none {} (split headerBlock (lit "\n"))

/-- `replace(/=\r?\n/g, "")`. -/
def joinSoftLines : JsString → JsString
  | 61 :: 13 :: 10 :: rest => joinSoftLines rest
  | 61 :: 10 :: rest => joinSoftLines rest
  | unit :: rest => unit :: joinSoftLines rest
  | [] => []

def hexDigit (unit : UInt16) : Option UInt8 :=
  let code := lowerUnit unit
  if 48 ≤ unit ∧ unit ≤ 57 then some (unit - 48).toUInt8
  else if 97 ≤ code ∧ code ≤ 102 then some (code - 87).toUInt8
  else none

def quotedBytes : JsString → List UInt8
  | 61 :: high :: low :: rest =>
    match hexDigit high, hexDigit low with
    | some h, some l => (h * 16 + l) :: quotedBytes rest
    | _, _ => 61 :: quotedBytes (high :: low :: rest)
  | unit :: rest => unit.toUInt8 :: quotedBytes rest
  | [] => []

variable (browser : Browser)

def decodeQuotedPrintable (text : JsString) : JsString :=
  if text.contains 61 then browser.decodeUtf8 (quotedBytes (joinSoftLines text)) else text

def decodeMailBody (body transferEncoding : JsString) : JsString :=
  let encoding := browser.lib.toLowerCase (trim transferEncoding)
  if encoding = lit "quoted-printable" then decodeQuotedPrintable browser body
  else if encoding = lit "base64" then
    match browser.atob (stripWhite body) with
    | some bytes => browser.decodeUtf8 bytes
    | none => body
  else body

def decodeAttachmentBytes (body transferEncoding : JsString) : Option (List UInt8) :=
  if browser.lib.toLowerCase (trim transferEncoding) = lit "base64" then
    browser.atob (stripWhite body)
  else some (body.map UInt16.toUInt8)

/-- A piece between two markers, as it is shown, if it is more than a closing `--`. -/
def shownPart (piece : JsString) : Option JsString :=
  let part := trim piece
  if part = [] ∨ part = lit "--" then none
  else
    let part := if endsWith part (lit "--") then trim (part.take (part.length - 2)) else part
    if part = [] then none else some part

/-- `splitMultipartBody`: what precedes the first marker is a part like the others. -/
def splitMultipartBody (body boundary : JsString) : List JsString :=
  (split body (lit "--" ++ boundary)).filterMap shownPart

def contentKind (contentType : JsString) : JsString :=
  browser.lib.toLowerCase (trim (contentType.takeWhile (· != 59)))

def scoreBodyText (contentType bodyText : JsString) : Nat :=
  let kind := contentKind browser contentType
  if trim bodyText = [] then 0
  else if kind = lit "text/plain" then 3
  else if kind = lit "text/html" then 2
  else if startsWith kind (lit "text/") then 1
  else 0

structure Entity where
  bodyText : JsString := []
  bodyHtml : JsString := []
  bodyScore : Nat := 0
  attachments : List Attachment := []
deriving DecidableEq

def splitPart (part : JsString) : Option (Headers × JsString) :=
  match indexOf part (lit "\n\n") with
  | none => none
  | some index =>
    if index = 0 then none
    else (parseHeaderBlock (part.take index)).map fun parsed =>
      (parsed.headers, part.drop (index + 2))

def fileName (headers : Headers) : Option JsString :=
  let isQuote (unit : UInt16) : Bool := unit == 34
  (findParameter (lit "filename=") isQuote (header headers (lit "content-disposition"))).or
    (findParameter (lit "name=") isQuote (header headers (lit "content-type")))

def isAttachment (headers : Headers) : Bool :=
  let kind := contentKind browser (header headers (lit "content-type"))
  kind ≠ lit "application/pgp-signature" ∧ kind ≠ lit "application/x-pgp-signature" ∧
    (containsInsensitive (header headers (lit "content-disposition")) (lit "attachment") ∨
      ((fileName headers).isSome ∧ startsWith kind (lit "multipart/") = false ∧
        kind ≠ lit "text/plain" ∧ kind ≠ lit "text/html"))

def partBoundary (headers : Headers) : Option JsString :=
  findParameter (lit "boundary=") (fun unit => (lit "\";\n").contains unit)
    (header headers (lit "content-type"))

/-- `protocol\s*=\s*"?([^";\s]+)"?` at the start of a text. -/
def matchProtocol (text : JsString) : Option JsString :=
  if startsWithInsensitive text (lit "protocol") then
    let following := trimStart (text.drop 8)
    if startsWith following (lit "=") then
      matchQuoted (fun unit => isWhite unit || (lit "\";").contains unit)
        (trimStart (following.drop 1))
    else none
  else none

def isPGPMime (headers : Headers) : Bool :=
  let contentType := header headers (lit "content-type")
  let protocol := ((contentType.tails.findSome? matchProtocol).map fun value =>
    browser.lib.toLowerCase (trim value)).getD []
  contentKind browser contentType = lit "multipart/signed" ∧
    (containsInsensitive protocol (lit "application/pgp-signature") ∨
      containsInsensitive protocol (lit "application/x-pgp-signature"))

/-- One more part of a multipart entity: the text with the best score and the last HTML are
kept. -/
def Entity.add (entity child : Entity) : Entity :=
  { bodyText := if entity.bodyScore < child.bodyScore then child.bodyText else entity.bodyText
    bodyHtml := if trim child.bodyHtml ≠ [] then child.bodyHtml else entity.bodyHtml
    bodyScore := max entity.bodyScore child.bodyScore
    attachments := entity.attachments ++ child.attachments }

def parseLeaf (headers : Headers) (body : JsString) : Entity :=
  let kind := contentKind browser (header headers (lit "content-type"))
  let decodedBody := decodeMailBody browser body (header headers (lit "content-transfer-encoding"))
  if kind = lit "text/html" then
    let text := browser.htmlToDisplayText decodedBody
    { bodyText := text, bodyHtml := decodedBody, bodyScore := scoreBodyText browser kind text }
  else if startsWith kind (lit "text/") ∨ kind = [] then
    { bodyText := decodedBody
      bodyScore := scoreBodyText browser (if kind = [] then lit "text/plain" else kind) decodedBody }
  else {}

/-- `parseMimeEntity`, given how many levels may still be taken apart. -/
def parseMimeEntity : Nat → Headers → JsString → Option Entity
  | levels, headers, body =>
    if isAttachment browser headers then do
      let kind := contentKind browser (header headers (lit "content-type"))
      let bytes ← decodeAttachmentBytes browser body
        (header headers (lit "content-transfer-encoding"))
      return { attachments :=
        [{ fileName := (fileName headers).getD (lit "attachment.bin")
           contentType := if kind ≠ [] then kind else lit "application/octet-stream"
           bytes := some bytes }] }
    else match levels with
      | 0 => some (parseLeaf browser headers body)
      | levels + 1 =>
        let kind := contentKind browser (header headers (lit "content-type"))
        match partBoundary headers with
        | none => some (parseLeaf browser headers body)
        | some boundary =>
          if startsWith kind (lit "multipart/") = false then
            some (parseLeaf browser headers body)
          else
            let parts := splitMultipartBody body boundary
            if isPGPMime browser headers then
              match parts.head?.bind splitPart with
              | some (headers, body) => parseMimeEntity levels headers body
              | none => some {}
            else
              (parts.filterMap splitPart).foldlM (fun entity part => do
                let child ← parseMimeEntity levels part.1 part.2
                return entity.add child) {}

def looksLikeMimeEntityHeaders (headers : Headers) : Bool :=
  let value (name : String) : JsString := browser.lib.toLowerCase (trim (header headers (lit name)))
  value "content-type" ≠ [] ∧
    (startsWith (value "content-type") (lit "multipart/") ∨
      startsWith (value "content-type") (lit "text/") ∨
      (indexOf (value "content-disposition") (lit "attachment")).isSome ∨
      value "content-transfer-encoding" = lit "base64" ∨
      value "content-transfer-encoding" = lit "quoted-printable")

def looksLikeDisplayableEnvelope (parsed : HeaderBlock) : Bool :=
  (2 ≤ parsed.totalHeaders ∧ 2 ≤ parsed.knownHeaders) ∨
    looksLikeMimeEntityHeaders browser parsed.headers

/-- The headers and the body that a text is shown by, if it looks like a message. -/
def displayParts (text : JsString) : Option (Headers × JsString) :=
  let normalized := unixLines text
  match indexOf normalized (lit "\n\n") with
  | none => none
  | some index =>
    if index = 0 ∨ 32 * 1024 < index then none
    else match parseHeaderBlock (normalized.take index) with
      | none => none
      | some parsed =>
        if looksLikeDisplayableEnvelope browser parsed then
          some (parsed.headers, normalized.drop (index + 2))
        else none

def extractDisplayEnvelope (text : JsString) : Option DisplayEnvelope :=
  match displayParts browser text with
  | none => some { bodyText := text }
  | some (headers, body) => do
      let envelope ← parseMimeEntity browser 8 headers body
      let contentType := browser.lib.toLowerCase (header headers (lit "content-type"))
      if 0 < envelope.bodyScore ∨ envelope.attachments ≠ [] ∨
          startsWith contentType (lit "multipart/") then
        return { bodyText := envelope.bodyText
                 bodyHtml := envelope.bodyHtml
                 attachments := envelope.attachments }
      else
        return { bodyText :=
          decodeMailBody browser body (header headers (lit "content-transfer-encoding")) }

end ElvishMail.Mailapp
