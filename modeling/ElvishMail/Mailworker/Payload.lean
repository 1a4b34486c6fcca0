import ElvishMail.Go.Base64
import ElvishMail.Mailmeta.Outbox
import ElvishMail.Semantics.Grouping

/-!
# The message a delivery sends

The part of `internal/mailworker` that runs before any host is contacted: reading
the payload, unwrapping or wrapping it, finding the sender, and signing. It ends
in a prepared message, in a failure that is recorded on the row, or, where a
header is cut out of range, in a crash of the worker.

The OpenPGP, blob store and key code behind it enters as functions in
`Material`, together with the random and clock strings of the attempt.
-/

namespace ElvishMail.Mailworker

open Go Mailmeta Semantics

/-- A DKIM key: `dkim.SignAndPrepend` for a domain and selector. -/
abbrev Signer := (domain selector payload : GoString) → Except GoString GoString

structure DKIM where
  signer : Option Signer
  selector : GoString
  domain : GoString
  domainsDir : GoString
  getDomainDKIMByName : GoString → Option (GoString × GoString)
  cachedDomainSigner : (domain ref : GoString) → Option Signer

/-- What one attempt finds outside the network. `relayKey` is the relay key's
`Unwrap`, `armored` is `Sniff` answering `BodyArmoredMessage`, and
`ingestSentCopy` is the message id under which the sender's copy was stored. -/
structure Material where
  blob : GoString → Except GoString GoString
  relayKey : Option (GoString → Except GoString GoString)
  dkim : DKIM
  armored : GoString → Bool
  boundaryUUID : GoString
  messageUUID : GoString
  date : GoString
  stamp : GoString
  ingestSentCopy : OutboxRow → List GoString → Option Nat

variable (lib : Library)

def normalizeMailbox (addr : GoString) : GoString :=
  let addr := trimSpace addr
  if addr = [] then []
  else match lib.parseAddress addr with
    | some parsed => toLower lib (trimSpace parsed)
    | none => toLower lib addr

def domainFromFromAddress (fromAddr : GoString) : GoString :=
  let fromAddr := trimSpace fromAddr
  if fromAddr = [] then []
  else
    let fromAddr := match lib.parseAddress fromAddr with
      | some parsed => toLower lib (trimSpace parsed)
      | none => toLower lib fromAddr
    match lastIndexByte fromAddr 0x40 with
    | none => []
    | some index =>
      if index = 0 ∨ index = fromAddr.length - 1 then [] else fromAddr.drop (index + 1)

/-- `indexHeader`: positions are found in the lower-cased text and used in the
original. A header right after a leading line break is reported at that break. -/
def indexHeader (payload name : GoString) : Option Nat :=
  let lower := toLower lib payload
  let target := toLower lib name
  match index lower (ascii "\r\n" ++ target) with
  | some 0 => some 0
  | some idx => some (idx + 2)
  | none => if hasPrefix lower target then some 0 else none

/-- `text[low:high]`, or `none` where the bounds make Go panic. -/
def slice (text : GoString) (low high : Nat) : Option GoString :=
  if low ≤ high ∧ high ≤ text.length then some ((text.take high).drop low) else none

/-- `extractFromHeader`; `none` is the panic of an out-of-range slice. -/
def extractFromHeader (payload : GoString) : Option GoString :=
  match indexHeader lib payload (ascii "From:") with
  | none => some []
  | some idx =>
    if payload.length < idx then none
    else match index (payload.drop idx) (ascii "\r\n") with
      | none => some []
      | some stop =>
        (slice payload (idx + 5) (idx + stop)).map fun value =>
          let value := trimSpace value
          match indexByte value 0x3C with
          | none => toLower lib value
          | some lt =>
            match indexByte (value.drop lt) 0x3E with
            | none => toLower lib value
            | some gt =>
              if 0 < gt then
                toLower lib (trimSpace ((value.take (lt + gt)).drop (lt + 1)))
              else toLower lib value

def looksLikeRFC822Message (payload : GoString) : Bool :=
  let from? (normalized : GoString) : Bool :=
    match lib.readMessage normalized with
    | none => false
    | some header => !(trimSpace (header (ascii "From"))).isEmpty
  if (index payload (ascii "\r\n\r\n")).isSome then from? payload
  else if (index payload (ascii "\n\n")).isSome then
    from? (replaceAll payload (ascii "\n") (ascii "\r\n"))
  else false

def normalizeCRLFString (text : GoString) : GoString :=
  replaceAll (replaceAll (replaceAll text (ascii "\r\n") (ascii "\n")) (ascii "\r") (ascii "\n"))
    (ascii "\n") (ascii "\r\n")

/-- The loop of `writeBase64CRLF` over at most `fuel` lines. -/
def base64Lines : Nat → GoString → GoString
  | 0, _ => []
  | fuel + 1, encoded =>
    if encoded.length > 76 then
      encoded.take 76 ++ ascii "\r\n" ++ base64Lines fuel (encoded.drop 76)
    else if encoded ≠ [] then encoded ++ ascii "\r\n"
    else []

/-- `writeBase64CRLF`; every line takes 76 characters, so one more line than
characters is enough fuel. -/
def writeBase64CRLF (data : GoString) : GoString :=
  let encoded := base64Encode data
  base64Lines (encoded.length + 1) encoded

def buildMessageID (material : Material) (fromAddr : GoString) : GoString :=
  let domain := match lib.parseAddress fromAddr with
    | none => ascii "elvish.local"
    | some addr =>
      match lastIndexByte addr 0x40 with
      | none => ascii "elvish.local"
      | some index =>
        if index < addr.length - 1 then toLower lib (addr.drop (index + 1))
        else ascii "elvish.local"
  material.stamp ++ ascii "." ++ replaceAll material.messageUUID (ascii "-") [] ++ ascii "@" ++
    domain

def buildPGPMIMEMessage (material : Material) (fromAddr : GoString) (rcpt : List GoString)
    (payload : GoString) : Except GoString GoString :=
  let fromAddr := normalizeMailbox lib fromAddr
  if fromAddr = [] then .error (ascii "missing sender address")
  else if rcpt.length = 0 then .error (ascii "missing recipients")
  else
    let boundary := ascii "=_elvish_" ++ replaceAll material.boundaryUUID (ascii "-") []
    let head :=
      ascii "Message-ID: <" ++ buildMessageID lib material fromAddr ++ ascii ">\r\n" ++
      ascii "Date: " ++ material.date ++ ascii "\r\n" ++
      ascii "From: " ++ fromAddr ++ ascii "\r\n" ++
      ascii "To: " ++ join rcpt (ascii ", ") ++ ascii "\r\n" ++
      ascii "Subject: ...\r\n" ++
      ascii "MIME-Version: 1.0\r\n" ++
      ascii "Content-Type: multipart/encrypted; protocol=\"application/pgp-encrypted\"; boundary=\"" ++
      boundary ++ ascii "\"\r\n" ++
      ascii "\r\n" ++
      ascii "This is an OpenPGP/MIME encrypted message.\r\n" ++
      ascii "--" ++ boundary ++ ascii "\r\n" ++
      ascii "Content-Type: application/pgp-encrypted\r\n" ++
      ascii "Content-Description: PGP/MIME version identification\r\n" ++
      ascii "\r\n" ++
      ascii "Version: 1\r\n" ++
      ascii "--" ++ boundary ++ ascii "\r\n"
    let part :=
      if material.armored payload then
        ascii "Content-Type: application/octet-stream; name=\"encrypted.asc\"\r\n" ++
        ascii "Content-Disposition: inline; filename=\"encrypted.asc\"\r\n" ++
        ascii "Content-Transfer-Encoding: 7bit\r\n" ++
        ascii "\r\n" ++
        normalizeCRLFString payload
      else
        ascii "Content-Type: application/octet-stream; name=\"encrypted.pgp\"\r\n" ++
        ascii "Content-Disposition: inline; filename=\"encrypted.pgp\"\r\n" ++
        ascii "Content-Transfer-Encoding: base64\r\n" ++
        ascii "\r\n" ++
        writeBase64CRLF payload
    let body := head ++ part
    let body := if hasSuffix body (ascii "\r\n") then body else body ++ ascii "\r\n"
    .ok (body ++ ascii "--" ++ boundary ++ ascii "--\r\n")

/-- `preparePGPOutboundPayload`: the payload and the sender, an error, or a panic. -/
def preparePGPOutboundPayload (material : Material) (row : OutboxRow) (rcpt : List GoString)
    (payload : GoString) : Option (Except GoString (GoString × GoString)) :=
  let fromAddr := normalizeMailbox lib row.sentCopyFromAddr
  if looksLikeRFC822Message lib payload then
    (if fromAddr = [] then extractFromHeader lib payload else some fromAddr).map fun fromAddr =>
      if fromAddr = [] then .error (ascii "missing sender address") else .ok (payload, fromAddr)
  else if fromAddr = [] then some (.error (ascii "missing sender address"))
  else match buildPGPMIMEMessage lib material fromAddr rcpt payload with
    | .error text => some (.error text)
    | .ok wrapped => some (.ok (wrapped, fromAddr))

/-- `filepath.Base` on a path separated by slashes. -/
def filepathBase (path : GoString) : GoString :=
  if path = [] then ascii "."
  else
    let stripped := (path.reverse.dropWhile (· == 0x2F)).reverse
    if stripped = [] then ascii "/"
    else match lastIndexByte stripped 0x2F with
      | none => stripped
      | some index => stripped.drop (index + 1)

/-- `resolveDKIM`: a stored key of the sender's domain, the platform key if the
domain is the platform's, or no key. -/
def resolveDKIM (dkim : DKIM) (fromAddr : GoString) : Option Signer × GoString × GoString :=
  let dom := domainFromFromAddress lib fromAddr
  if dom = [] then (dkim.signer, dkim.selector, dkim.domain)
  else
    let stored : Option (Signer × GoString) :=
      if trimSpace dkim.domainsDir = [] then none
      else match dkim.getDomainDKIMByName dom with
        | none => none
        | some (sel, ref) =>
          let safeRef := filepathBase (trimSpace ref)
          let want := trimSpace (toLower lib dom) ++ ascii ".pem"
          if ref ≠ [] ∧ sel ≠ [] ∧ safeRef = ref ∧ safeRef = want then
            (dkim.cachedDomainSigner dom safeRef).map fun signer =>
              (signer, trimSpace (toLower lib sel))
          else none
    match stored with
    | some (signer, sel) => (some signer, sel, dom)
    | none =>
      if dkim.signer.isSome ∧ dkim.selector ≠ [] ∧ dkim.domain ≠ [] ∧
          lib.equalFold dom dkim.domain then
        (dkim.signer, dkim.selector, dkim.domain)
      else (none, [], [])

def signPayload (dkim : DKIM) (fromAddr payload : GoString) : Except GoString GoString :=
  match resolveDKIM lib dkim fromAddr with
  | (some signer, selector, domain) =>
    if domain ≠ [] ∧ selector ≠ [] then signer domain selector payload else .ok payload
  | (none, _, _) => .ok payload

/-- How the part of `deliver` before the first host ends. -/
inductive Prepared where
  | crashed
  | failed (code : Int) (text : GoString) (transient : Bool)
  | ready (fromAddr payload : GoString)
deriving DecidableEq

/-- The recipients of a row: the fields of its summary, commas counted as white
space. -/
def recipients (row : OutboxRow) : List GoString := fields (replaceByte row.recipientSummary 0x2C 0x20)

/-- The payload and the sender by dispatch kind. The sender may still be empty. -/
def openPayload (material : Material) (row : OutboxRow) (payload : GoString) : Prepared :=
  match row.kind with
  | .unset | .pgp =>
    match preparePGPOutboundPayload lib material row (recipients row) payload with
    | none => .crashed
    | some (.error text) => .failed 554 (ascii "prepare pgp payload: " ++ text) false
    | some (.ok (payload, fromAddr)) => .ready fromAddr payload
  | .plaintextRelay =>
    match material.relayKey with
    | none => .failed 554 (ascii "relay key not configured (set ELVISH_RELAY_KEY_PATH)") false
    | some unwrap =>
      match unwrap payload with
      | .error text => .failed 554 (ascii "relay unwrap: " ++ text) false
      | .ok plain =>
        match extractFromHeader lib plain with
        | none => .crashed
        | some fromAddr => .ready fromAddr plain
  | .other name => .failed 554 (ascii "unknown outbox kind " ++ lib.quote name) false

/-- `deliver` up to the loop over domains. -/
def prepare (material : Material) (row : OutboxRow) : Prepared :=
  match material.blob row.payloadBlobRef with
  | .error text => .failed 0 (ascii "blob get: " ++ text) true
  | .ok payload =>
    if (recipients row).length = 0 then .failed 553 (ascii "no recipients in outbox row") false
    else match openPayload lib material row payload with
      | .crashed => .crashed
      | .failed code text transient => .failed code text transient
      | .ready fromAddr payload =>
        match if fromAddr = [] then extractFromHeader lib payload else some fromAddr with
        | none => .crashed
        | some fromAddr =>
          if fromAddr = [] then .failed 554 (ascii "missing From address") false
          else match signPayload lib material.dkim fromAddr payload with
            | .error text => .failed 0 (ascii "dkim sign: " ++ text) true
            | .ok signed => .ready fromAddr signed

theorem prepare_congr {material : Material} {row other : OutboxRow} (kind : other.kind = row.kind)
    (blob : other.payloadBlobRef = row.payloadBlobRef)
    (summary : other.recipientSummary = row.recipientSummary)
    (sender : other.sentCopyFromAddr = row.sentCopyFromAddr) :
    prepare lib material other = prepare lib material row := by
  have sameRecipients : recipients other = recipients row := by rw [recipients, summary, recipients]
  have samePGP (payload : GoString) :
      preparePGPOutboundPayload lib material other (recipients row) payload =
        preparePGPOutboundPayload lib material row (recipients row) payload := by
    rw [preparePGPOutboundPayload, sender, preparePGPOutboundPayload]
  have sameOpened (payload : GoString) :
      openPayload lib material other payload = openPayload lib material row payload := by
    rw [openPayload, kind, sameRecipients, samePGP, openPayload]
  rw [prepare, blob, prepare]
  simp only [sameRecipients, sameOpened]

/-- The domain a recipient is delivered to. A recipient whose last `@` is missing,
first or last has none. -/
def mailDomain (addr : GoString) : Option GoString :=
  match lastIndexByte addr 0x40 with
  | none => none
  | some index =>
    if index = 0 ∨ index = addr.length - 1 then none
    else some (toLower lib (trimSpace (addr.drop (index + 1))))

/-- `groupByDomain`: the entries of the map, with the recipients of a domain in the
order of the row. -/
def groupByDomain (rcpt : List GoString) : List (GoString × List GoString) :=
  groupOn (mailDomain lib) rcpt

end ElvishMail.Mailworker
