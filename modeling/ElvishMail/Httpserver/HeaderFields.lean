import ElvishMail.Go.Mail
import ElvishMail.Httpserver.Senders

/-!
# The header of a message that a user sends

`buildRFC5322` writes addresses and a subject into the header of a message as they come. They are
trimmed, and the addresses parse, but a subject may hold a line feed, and so may the comment of
an address. With attachments the text becomes the first part of a multipart body.
-/

namespace ElvishMail.Httpserver

open Go Smtp Mailmeta Maillinks

structure PlaintextAttachment where
  fileName : GoString
  contentType : GoString
  data : GoString
deriving DecidableEq

def sanitizeAttachmentName (name : GoString) : GoString :=
  let name := trimSpace (replaceAll (replaceAll name (ascii "\r") []) (ascii "\n") [])
  if name = [] then ascii "attachment.bin" else name

def sanitizeContentType (lib : Library) (contentType : GoString) : GoString :=
  let contentType := trimSpace (toLower lib contentType)
  if contentType = [] ∨ contentType.any (fun byte => byte == 0x0D || byte == 0x0A) = true then
    ascii "application/octet-stream"
  else contentType

def writeBase64Lines (data : GoString) : GoString := Mailworker.writeBase64CRLF data

def attachmentPart (lib : Library) (boundary : GoString) (attachment : PlaintextAttachment) :
    GoString :=
  let name := lib.quote (sanitizeAttachmentName attachment.fileName)
  ascii "\r\n--" ++ boundary ++ ascii "\r\n" ++
  ascii "Content-Disposition: attachment; filename=" ++ name ++ ascii "\r\n" ++
  ascii "Content-Transfer-Encoding: base64\r\n" ++
  ascii "Content-Type: " ++ sanitizeContentType lib attachment.contentType ++ ascii "; name=" ++ name ++
  ascii "\r\n" ++ ascii "\r\n" ++ writeBase64Lines attachment.data

def multipartBody (lib : Library) (boundary bodyText : GoString)
    (attachments : List PlaintextAttachment) : GoString :=
  ascii "--" ++ boundary ++ ascii "\r\n" ++
  ascii "Content-Transfer-Encoding: 8bit\r\n" ++
  ascii "Content-Type: text/plain; charset=utf-8\r\n" ++
  ascii "\r\n" ++ writeBodyLines bodyText ++
  (attachments.flatMap (attachmentPart lib boundary)) ++
  ascii "\r\n--" ++ boundary ++ ascii "--\r\n"

section Message

variable (server : Server) (situation : Situation) (boundary fromAddr : GoString)
  (toAddrs : List GoString) (subject bodyText : GoString) (attachments : List PlaintextAttachment)

/-- `buildRFC5322` of a message that may have attachments; `boundary` is `mw.Boundary()`. -/
def buildRFC5322Attached : GoString :=
  if attachments.length = 0 then
    buildRFC5322 server situation fromAddr toAddrs subject bodyText
  else
    ascii "Message-ID: <" ++ messageID server situation fromAddr ++ ascii ">\r\n" ++
    ascii "Date: " ++ situation.date ++ ascii "\r\n" ++
    ascii "From: " ++ fromAddr ++ ascii "\r\n" ++
    ascii "To: " ++ join toAddrs (ascii ", ") ++ ascii "\r\n" ++
    (if subject = [] then [] else ascii "Subject: " ++ subject ++ ascii "\r\n") ++
    ascii "MIME-Version: 1.0\r\n" ++
    ascii "X-Elvish-Send-Mode: plaintext-relay\r\n" ++
    ascii "Content-Type: multipart/mixed; boundary=" ++ server.lib.quote boundary ++ ascii "\r\n" ++
    ascii "\r\n" ++ multipartBody server.lib boundary bodyText attachments

def renderedBody : GoString :=
  if attachments.length = 0 then writeBodyLines bodyText
  else multipartBody server.lib boundary bodyText attachments

def contentFields : List (GoString × GoString) :=
  if attachments.length = 0 then
    [(ascii "Content-Type", ascii "text/plain; charset=utf-8"),
      (ascii "Content-Transfer-Encoding", ascii "8bit")]
  else [(ascii "Content-Type", ascii "multipart/mixed; boundary=" ++ server.lib.quote boundary)]

def meantFields : List (GoString × GoString) :=
  [(ascii "Message-ID", ascii "<" ++ messageID server situation fromAddr ++ ascii ">"),
    (ascii "Date", situation.date), (ascii "From", fromAddr),
    (ascii "To", join toAddrs (ascii ", "))] ++
  (if subject = [] then [] else [(ascii "Subject", subject)]) ++
  [(ascii "MIME-Version", ascii "1.0"), (ascii "X-Elvish-Send-Mode", ascii "plaintext-relay")] ++
  contentFields server boundary attachments

/-- Up to its first empty line the message is read as the fields it is meant to have, and what
comes behind is the body. -/
def ParsesBack : Prop :=
  readHeader (buildRFC5322Attached server situation boundary fromAddr toAddrs subject bodyText
      attachments) =
    some ((meantFields server situation boundary fromAddr toAddrs subject attachments).map readField) ∧
  ∃ before ending,
    emptyLine true (buildRFC5322Attached server situation boundary fromAddr toAddrs subject bodyText
      attachments) =
      some (before, ending, renderedBody server boundary bodyText attachments)

theorem buildRFC5322Attached_eq :
    buildRFC5322Attached server situation boundary fromAddr toAddrs subject bodyText attachments =
      (meantFields server situation boundary fromAddr toAddrs subject attachments).flatMap
          (fun field => fieldLine field ++ [cr, lf]) ++
        cr :: lf :: renderedBody server boundary bodyText attachments := by
  have opens : ascii "Message-ID: <" = ascii "Message-ID" ++ (ascii ": " ++ ascii "<") ∧
      ascii "Date: " = ascii "Date" ++ ascii ": " ∧ ascii "From: " = ascii "From" ++ ascii ": " ∧
      ascii "To: " = ascii "To" ++ ascii ": " ∧ ascii "Subject: " = ascii "Subject" ++ ascii ": " ∧
      ascii "Content-Type: multipart/mixed; boundary=" =
        ascii "Content-Type" ++ (ascii ": " ++ ascii "multipart/mixed; boundary=") := by decide
  have whole : ascii "MIME-Version: 1.0\r\n" =
        ascii "MIME-Version" ++ (ascii ": " ++ (ascii "1.0" ++ [cr, lf])) ∧
      ascii "X-Elvish-Send-Mode: plaintext-relay\r\n" =
        ascii "X-Elvish-Send-Mode" ++ (ascii ": " ++ (ascii "plaintext-relay" ++ [cr, lf])) ∧
      ascii "Content-Type: text/plain; charset=utf-8\r\n" =
        ascii "Content-Type" ++ (ascii ": " ++ (ascii "text/plain; charset=utf-8" ++ [cr, lf])) ∧
      ascii "Content-Transfer-Encoding: 8bit\r\n" =
        ascii "Content-Transfer-Encoding" ++ (ascii ": " ++ (ascii "8bit" ++ [cr, lf])) ∧
      ascii ">\r\n" = ascii ">" ++ [cr, lf] ∧ ascii "\r\n" = [cr, lf] := by decide
  have subjectLine : ((if subject = [] then [] else [(ascii "Subject", subject)]).flatMap fun field =>
      fieldLine field ++ [cr, lf]) =
        if subject = [] then [] else ascii "Subject: " ++ subject ++ ascii "\r\n" := by
    split
    · rfl
    · rw [List.flatMap_singleton, fieldLine, opens.2.2.2.2.1, whole.2.2.2.2.2]
  rw [meantFields, List.flatMap_append, List.flatMap_append, List.flatMap_append, subjectLine]
  rw [buildRFC5322Attached, buildRFC5322, contentFields, renderedBody]
  split
  · simp only [List.flatMap_cons, List.flatMap_nil, fieldLine, opens, whole, List.append_assoc,
      List.append_nil, List.cons_append, List.nil_append]
  · simp only [List.flatMap_cons, List.flatMap_nil, fieldLine, opens, whole, List.append_assoc,
      List.append_nil, List.cons_append, List.nil_append]

end Message

section Requests

variable {server : Server} {situation : Situation} {boundary : GoString} {body : OutboxPlainBody}
  {attachments : List PlaintextAttachment} {addresses clean : List GoString}

/-- What `submitPlaintextOutboxWithContext` has checked when it builds a message. -/
structure Submitted (server : Server) (body : OutboxPlainBody) (clean : List GoString) : Prop where
  sender : trimSpace body.fromAddr ≠ []
  parsed : (server.lib.parseAddress (trimSpace body.fromAddr)).isSome = true
  recipients : cleanAddresses server body.toAddrs = .ok clean
  addressed : clean ≠ []

/-- What the server itself formats: a time, the stamp of a message id and a boundary of hexadecimal
digits. An address that was parsed has no comments left. -/
structure Formatted (server : Server) (situation : Situation) (boundary : GoString) : Prop where
  date : Solid situation.date
  dateFeedless : lf ∉ situation.date
  stamp : lf ∉ situation.messageStamp
  address : ∀ text address, server.lib.parseAddress text = some address → lf ∉ address
  delimiter : lf ∉ boundary
  quote : server.lib.quote boundary = ascii "\"" ++ (boundary ++ ascii "\"")

theorem solid_cleanAddresses (cleaned : cleanAddresses server addresses = .ok clean) :
    ∀ address ∈ clean, Solid address := by
  induction addresses generalizing clean with
  | nil =>
    cases cleaned
    exact List.forall_mem_nil _
  | cons first addresses ih =>
    rw [cleanAddresses] at cleaned
    split at cleaned
    next => exact ih cleaned
    next some =>
      split at cleaned
      next => cases cleaned
      next =>
        cases others : cleanAddresses server addresses with
        | error address =>
          rw [others] at cleaned
          cases cleaned
        | ok kept =>
          rw [others] at cleaned
          cases cleaned
          exact List.forall_mem_cons.mpr ⟨solid_trimSpace some, ih others⟩

theorem feedless_messageID (formatted : Formatted server situation boundary) (fromAddr : GoString) :
    lf ∉ messageID server situation fromAddr := by
  have domain : lf ∉ messageDomain server fromAddr := by
    unfold messageDomain
    split
    next => decide
    next address parsed =>
      split
      · decide
      · exact fun feed => formatted.address _ _ parsed (List.mem_of_mem_drop feed)
  have sign : lf ∉ ascii "@" := by decide
  simp [messageID, formatted.stamp, domain, sign]

theorem feedless_join {pieces : List GoString} {separator : GoString} (plain : lf ∉ separator) :
    lf ∉ join pieces separator ↔ ∀ piece ∈ pieces, lf ∉ piece := by
  induction pieces with
  | nil => simp [join]
  | cons piece pieces ih =>
    cases pieces with
    | nil => simp [join]
    | cons next pieces =>
      rw [join, List.intercalate_cons_cons, List.mem_append, List.mem_append, not_or, not_or,
        List.forall_mem_cons, ← ih, join]
      exact ⟨fun both => ⟨both.1.1, both.2⟩, fun both => ⟨⟨both.1, plain⟩, both.2⟩⟩

theorem readable_of {name value : GoString} (named : name.head?.any (!isBlank ·) = true)
    (colonless : 0x3A ∉ name) (nameFeedless : lf ∉ name) (valueFeedless : lf ∉ value)
    (solid : Solid value) : Readable (name, value) :=
  ⟨named, colonless, nameFeedless, valueFeedless, solid⟩

theorem readable_contentFields (formatted : Formatted server situation boundary) :
    ∀ field ∈ contentFields server boundary attachments, Readable field := by
  unfold contentFields
  split
  · simp only [List.forall_mem_cons]
    exact ⟨readable_of (by decide) (by decide) (by decide) (by decide) (by decide),
      readable_of (by decide) (by decide) (by decide) (by decide) (by decide), List.forall_mem_nil _⟩
  · have sign : lf ∉ ascii "\"" := by decide
    have kind : lf ∉ ascii "multipart/mixed; boundary=" := by decide
    rw [List.forall_mem_singleton, formatted.quote]
    refine readable_of (by decide) (by decide) (by decide) ?_ ?_
    · simp [sign, kind, formatted.delimiter]
    · rw [← List.append_assoc (ascii "multipart/mixed; boundary=")]
      exact Solid.around (by decide) (by decide) boundary

theorem readable_meantFields (submitted : Submitted server body clean)
    (formatted : Formatted server situation boundary) (sender : lf ∉ trimSpace body.fromAddr)
    (recipients : ∀ address ∈ clean, lf ∉ address) (subject : lf ∉ trimSpace body.subject) :
    ∀ field ∈ meantFields server situation boundary (trimSpace body.fromAddr) clean
      (trimSpace body.subject) attachments, Readable field := by
  have identifier : lf ∉ ascii "<" ++ messageID server situation (trimSpace body.fromAddr) ++
      ascii ">" := by
    have left : lf ∉ ascii "<" := by decide
    have right : lf ∉ ascii ">" := by decide
    simp [left, right, feedless_messageID formatted]
  have listed : Solid (join clean (ascii ", ")) :=
    solid_join submitted.addressed (solid_cleanAddresses submitted.recipients) _
  have spread : lf ∉ join clean (ascii ", ") := (feedless_join (by decide)).mpr recipients
  unfold meantFields
  simp only [List.forall_mem_append, List.forall_mem_cons]
  refine ⟨⟨⟨⟨?_, ?_, ?_, ?_, List.forall_mem_nil _⟩, ?_⟩, ?_, ?_, List.forall_mem_nil _⟩,
    readable_contentFields formatted⟩
  · refine readable_of (by decide) (by decide) (by decide) identifier ?_
    rw [List.append_assoc]
    exact Solid.around (by decide) (by decide) _
  · exact readable_of (by decide) (by decide) (by decide) formatted.dateFeedless formatted.date
  · exact readable_of (by decide) (by decide) (by decide) sender (solid_trimSpace submitted.sender)
  · exact readable_of (by decide) (by decide) (by decide) spread listed
  · split
    next => exact List.forall_mem_nil _
    next some =>
      rw [List.forall_mem_singleton]
      exact readable_of (by decide) (by decide) (by decide) subject (solid_trimSpace some)
  · exact readable_of (by decide) (by decide) (by decide) (by decide) (by decide)
  · exact readable_of (by decide) (by decide) (by decide) (by decide) (by decide)

/-- The message that is built for a request is read as the fields that it is meant to have, and
its body is the rendered one, exactly where neither the sender nor a recipient nor the subject has
a line feed in it. -/
theorem buildRFC5322_parses (submitted : Submitted server body clean)
    (formatted : Formatted server situation boundary) :
    ParsesBack server situation boundary (trimSpace body.fromAddr) clean (trimSpace body.subject)
        body.bodyText attachments ↔
      lf ∉ trimSpace body.fromAddr ∧ (∀ address ∈ clean, lf ∉ address) ∧
        lf ∉ trimSpace body.subject := by
  constructor
  · rintro ⟨read, -⟩
    have unbroken (name value : GoString) (meant : (name, value) ∈ meantFields server situation
        boundary (trimSpace body.fromAddr) clean (trimSpace body.subject) attachments) : lf ∉ value :=
      readHeader_feedless read (List.mem_map_of_mem meant)
    refine ⟨unbroken (ascii "From") _ (by simp [meantFields]), ?_, ?_⟩
    · have listed := unbroken (ascii "To") (join clean (ascii ", ")) (by simp [meantFields])
      exact (feedless_join (by decide)).mp listed
    · by_cases blank : trimSpace body.subject = []
      · rw [blank]
        exact List.not_mem_nil
      · exact unbroken (ascii "Subject") _ (by simp [meantFields, blank])
  · rintro ⟨sender, recipients, subject⟩
    have readable := @readable_meantFields _ _ _ _ attachments _ submitted formatted sender recipients
      subject
    have feedless : ∀ line ∈ (meantFields server situation boundary (trimSpace body.fromAddr) clean
        (trimSpace body.subject) attachments).map fieldLine, lf ∉ line :=
      List.forall_mem_map.mpr fun field listed => (readable field listed).lineFeedless
    have some : ∀ line ∈ (meantFields server situation boundary (trimSpace body.fromAddr) clean
        (trimSpace body.subject) attachments).map fieldLine, line ≠ [] :=
      List.forall_mem_map.mpr fun field listed => (readable field listed).solid.own.2
    have ended := emptyLine_rendered feedless some
      (renderedBody server boundary body.bodyText attachments)
    rw [List.flatMap_map] at ended
    rw [ParsesBack, buildRFC5322Attached_eq]
    exact ⟨readHeader_rendered readable _, _, _, ended⟩

end Requests

/-! A subject with a field of its own. -/

def datedSituation : Situation :=
  { forgedSituation with
    date := ascii "Mon, 02 Jan 2006 15:04:05 +0000"
    date_plain := by decide
    messageStamp := ascii "5f0c"
    messageStamp_plain := by decide }

def subjectBody (subject : GoString) : OutboxPlainBody where
  fromAddr := ascii "ann@e.org"
  toAddrs := [ascii " b@y.org "]
  subject
  bodyText := ascii "hi"

theorem submitted_subjectBody (subject : GoString) :
    Submitted forgedServer (subjectBody subject) [ascii "b@y.org"] where
  sender := show trimSpace (ascii "ann@e.org") ≠ [] by decide
  parsed := show (Library.plain.parseAddress (trimSpace (ascii "ann@e.org"))).isSome = true by
    decide
  recipients := show cleanAddresses forgedServer [ascii " b@y.org "] = .ok [ascii "b@y.org"] by
    decide
  addressed := List.cons_ne_nil _ _

theorem formatted_forgedServer : Formatted forgedServer datedSituation (ascii "9a4e") where
  date := by decide
  dateFeedless := by decide
  stamp := by decide
  address text address parsed feed := by
    have plain : Library.plain.parseAddress text = some address := parsed
    simp only [Library.plain] at plain
    split at plain
    next => cases plain
    next special =>
      split at plain
      · split at plain
        · cases plain
        · cases plain
          exact special (List.any_eq_true.mpr ⟨lf, feed, by decide⟩)
      · cases plain
  delimiter := by decide
  quote := by decide

theorem buildRFC5322_parses_greeting :
    ParsesBack forgedServer datedSituation (ascii "9a4e") (ascii "ann@e.org") [ascii "b@y.org"]
      (ascii "Hi") (ascii "hi") [] := by
  have trimmed : trimSpace (subjectBody (ascii "Hi")).fromAddr = ascii "ann@e.org" ∧
      trimSpace (subjectBody (ascii "Hi")).subject = ascii "Hi" := by decide
  rw [← trimmed.1, ← trimmed.2]
  exact (buildRFC5322_parses (submitted_subjectBody _) formatted_forgedServer).mpr
    (by decide)

/-- The subject adds a recipient, although the request is accepted. -/
theorem buildRFC5322_injects :
    Submitted forgedServer (subjectBody (ascii "Hi\r\nBcc: eve@x.org")) [ascii "b@y.org"] ∧
      (readHeader (buildRFC5322Attached forgedServer datedSituation (ascii "9a4e") (ascii "ann@e.org")
        [ascii "b@y.org"] (trimSpace (subjectBody (ascii "Hi\r\nBcc: eve@x.org")).subject)
        (ascii "hi") [])).map (·.lookup (ascii "Bcc")) = some (some (ascii "eve@x.org")) ∧
      ¬ParsesBack forgedServer datedSituation (ascii "9a4e") (ascii "ann@e.org") [ascii "b@y.org"]
        (trimSpace (subjectBody (ascii "Hi\r\nBcc: eve@x.org")).subject) (ascii "hi") [] := by
  have evaluated : (readHeader (buildRFC5322Attached forgedServer datedSituation (ascii "9a4e")
        (ascii "ann@e.org") [ascii "b@y.org"]
        (trimSpace (subjectBody (ascii "Hi\r\nBcc: eve@x.org")).subject) (ascii "hi") [])).map
          (·.lookup (ascii "Bcc")) = some (some (ascii "eve@x.org")) ∧
      (some ((meantFields forgedServer datedSituation (ascii "9a4e") (ascii "ann@e.org")
        [ascii "b@y.org"] (trimSpace (subjectBody (ascii "Hi\r\nBcc: eve@x.org")).subject) []).map
          readField)).map (·.lookup (ascii "Bcc")) ≠ some (some (ascii "eve@x.org")) := by
    decide
  refine ⟨submitted_subjectBody _, evaluated.1, ?_⟩
  rintro ⟨read, -⟩
  rw [read] at evaluated
  exact evaluated.2 evaluated.1

end ElvishMail.Httpserver
