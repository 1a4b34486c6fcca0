import ElvishMail.Mailmeta.Outbox

/-!
# Header summaries

`internal/mailpipe/pipe.go`: the fields of a message header that are kept, as
encrypted mailbox metadata, and how they are read from a raw message.
-/

namespace ElvishMail.Mailpipe

open Go Mailmeta

structure AttachmentSummary where
  fileName : GoString
  contentType : GoString
  sizeBytes : Int
deriving DecidableEq

/-- The encrypted mailbox metadata persisted alongside a message. A message
without a readable date has the zero time, here `none`. -/
structure HeaderSummary where
  subject : GoString := []
  fromAddr : GoString := []
  toAddrs : List GoString := []
  cc : List GoString := []
  date : Option Time := none
  threadID : GoString := []
  attachments : List AttachmentSummary := []
deriving DecidableEq

/-- More grammars of the standard library: `mime.WordDecoder.DecodeHeader`,
`mail.ParseDate`, `mail.ParseAddressList`, returning the `Address` fields, and
`json.Marshal` of a summary. -/
structure Grammars where
  decodeHeader : GoString → Option GoString
  parseDate : GoString → Option Time
  parseAddressList : GoString → Option (List GoString)
  toJSON : HeaderSummary → GoString

variable (lib : Library) (grammars : Grammars)

/-- `firstMessageIDInField`: the first token in angle brackets. -/
def firstMessageIDInField (text : GoString) : GoString :=
  let unfolded := replaceAll (replaceAll text (ascii "\r\n") (ascii " ")) (ascii "\n") (ascii " ")
  let identifier (token : GoString) : Option GoString :=
    let token := trimSpace token
    if token.length < 3 ∨ token.head? ≠ some 0x3C then none
    else match indexByte token 0x3E with
      | some close => if close > 1 then some (token.take (close + 1)) else none
      | none => none
  ((fields unfolded).findSome? identifier).getD []

/-- `threadIDFromMessageHeaders` picks a stable conversation id, given
`Header.Get`. -/
def threadIDFromMessageHeaders (get : GoString → GoString) : GoString :=
  let refs := firstMessageIDInField (trimSpace (get (ascii "References")))
  if refs ≠ [] then refs
  else
    let irt := firstMessageIDInField (trimSpace (get (ascii "In-Reply-To")))
    if irt ≠ [] then irt else trimSpace (get (ascii "Message-ID"))

/-- `decodeHeaderMIMEWords` replaces encoded words in a header field. -/
def decodeHeaderMIMEWords (text : GoString) : GoString :=
  let text := trimSpace text
  if text = [] ∨ (index text (ascii "=?")).isNone then text
  else match grammars.decodeHeader text with
    | none => text
    | some decoded => if trimSpace decoded = [] then text else trimSpace decoded

def addressField (value : GoString) : List GoString :=
  if value = [] then []
  else ((grammars.parseAddressList value).getD []).map (toLower lib)

/-- The part of a message `extractHeaders` looks at. -/
def headerBytes : Nat := 96 * 1024

def extractHeaders (rawBody : GoString) : HeaderSummary :=
  match lib.readMessage (rawBody.take headerBytes) with
  | none => {}
  | some get =>
    { subject := decodeHeaderMIMEWords grammars (get (ascii "Subject"))
      fromAddr := decodeHeaderMIMEWords grammars (get (ascii "From"))
      threadID := threadIDFromMessageHeaders get
      date := grammars.parseDate (get (ascii "Date"))
      toAddrs := addressField lib grammars (get (ascii "To"))
      cc := addressField lib grammars (get (ascii "Cc")) }

/-- `completeHeaderSummary` fills in sender and recipients from the envelope. -/
def completeHeaderSummary (headers : HeaderSummary) (fromAddr : GoString) (rcpt : List GoString) :
    HeaderSummary :=
  { headers with
    fromAddr := if trimSpace headers.fromAddr = [] then trimSpace fromAddr else headers.fromAddr
    toAddrs :=
      if headers.toAddrs.length = 0 then
        (rcpt.map fun addr => toLower lib (trimSpace addr)).filter (!·.isEmpty)
      else headers.toAddrs }

end ElvishMail.Mailpipe
