import Mathlib.Logic.Function.Basic
import ElvishMail.Mailpipe.Pipe

/-!
# Ingest rules and message bodies

What `evalIngestPrivacyFilters` decides is a function of the header section of a message
and of its length: every step from the raw bytes to the decision factors through these
two. The documentation of `internal/mailpipe/ingest_filters.go` promises as much. That
`mail.ReadMessage` reads a header from the header section alone is `ReadsHeader`.
-/

namespace ElvishMail.Mailpipe

open Go Smtp Mailmeta Function

/-- A message up to and including its first empty line, given whether a line begins
here. -/
def headerScan : Bool → GoString → GoString
  | _, [] => []
  | true, 0x0A :: _ => [0x0A]
  | true, 0x0D :: 0x0A :: _ => [0x0D, 0x0A]
  | _, byte :: rest => byte :: headerScan (byte == 0x0A) rest

/-- The header section of a message, with its empty line; the whole message if it has
none. -/
def headerSection (raw : GoString) : GoString := headerScan true raw

/-- What the rules may look at in a raw message: its length, and the header section
within the part that is read. -/
def visible (raw : GoString) : Nat × GoString :=
  (raw.length, headerSection (raw.take headerBytes))

/-- `mail.ReadMessage` reads the header from the header section. -/
def ReadsHeader (lib : Library) : Prop := FactorsThrough lib.readMessage headerSection

variable (lib : Library) (grammars : Grammars)

theorem extractHeaders_factors (reads : ReadsHeader lib) :
    FactorsThrough (extractHeaders lib grammars) visible := by
  intro left right same
  have header : lib.readMessage (left.take headerBytes) = lib.readMessage (right.take headerBytes) :=
    reads (congrArg Prod.snd same)
  rw [extractHeaders, extractHeaders, header]

theorem buildIngestFilterCtx_factors (reads : ReadsHeader lib) (envelopeFrom recipient fromAddr : GoString)
    (rcpt : List GoString) :
    FactorsThrough (fun raw => buildIngestFilterCtx lib envelopeFrom recipient raw
      (completeHeaderSummary lib (extractHeaders lib grammars raw) fromAddr rcpt)) visible := by
  intro left right same
  have length : left.length = right.length := congrArg Prod.fst same
  have headers := extractHeaders_factors lib grammars reads same
  simp only [buildIngestFilterCtx, headers, length]

/-- Two messages of one length with one header section are treated alike by all rules of a
user, whatever their bodies are. -/
theorem evalIngestPrivacyFilters_blind (json : RuleJSON) (reads : ReadsHeader lib)
    (listMailFilters : Except GoError (List MailFilterRow))
    (userHasFolder : GoString → Except GoError Bool) (envelopeFrom recipient fromAddr : GoString)
    (rcpt : List GoString) (left right : GoString) (length : left.length = right.length)
    (header : headerSection (left.take headerBytes) = headerSection (right.take headerBytes)) :
    evalIngestPrivacyFilters lib json listMailFilters userHasFolder envelopeFrom recipient left
        (completeHeaderSummary lib (extractHeaders lib grammars left) fromAddr rcpt) =
      evalIngestPrivacyFilters lib json listMailFilters userHasFolder envelopeFrom recipient right
        (completeHeaderSummary lib (extractHeaders lib grammars right) fromAddr rcpt) := by
  have same : visible left = visible right := Prod.ext length header
  have ctx := buildIngestFilterCtx_factors lib grammars reads envelopeFrom recipient fromAddr rcpt same
  dsimp only at ctx
  unfold evalIngestPrivacyFilters
  cases listMailFilters with
  | error err => rfl
  | ok rows =>
    dsimp only
    rw [ctx]

/-- A `mail.ReadMessage` that finds the fields of a header section line by line. -/
def lineLibrary : Library :=
  { Library.plain with
    readMessage := fun raw => some fun key =>
      let lines := ascii "\r\n" ++ headerSection raw
      let name := ascii "\r\n" ++ key ++ ascii ": "
      match index lines name with
      | none => []
      | some start => (lines.drop (start + name.length)).takeWhile (· != 0x0D) }

/-- A rule that drops messages whose subject has `deals`. -/
def dropDeals : RuleJSON where
  conditions _ := some [⟨ascii "subject", ascii "contains", .text (ascii "deals")⟩]
  actions _ := some [⟨ascii "delete", .null⟩]

theorem lineLibrary_reads : ReadsHeader lineLibrary := by
  intro left right same
  simp only [lineLibrary, same]

/-- A message about deals is dropped with either body. -/
theorem evalIngestPrivacyFilters_deals :
    let grammars : Grammars := ⟨fun _ => none, fun _ => none, fun _ => none, fun _ => []⟩
    let verdict (raw : GoString) := evalIngestPrivacyFilters lineLibrary dropDeals
      (.ok [⟨true, ascii "[]", ascii "[]"⟩]) (fun _ => .ok false)
      (ascii "a@a.com") (ascii "b@b.com") raw
      (completeHeaderSummary lineLibrary (extractHeaders lineLibrary grammars raw) (ascii "a@a.com")
        [ascii "b@b.com"])
    verdict (ascii "Subject: weekly deals\r\n\r\nsecret one") = .ok { drop := true } ∧
      verdict (ascii "Subject: weekly deals\r\n\r\nsecret one") =
        verdict (ascii "Subject: weekly deals\r\n\r\nsecret two") :=
  ⟨by decide, evalIngestPrivacyFilters_blind _ _ _ lineLibrary_reads _ _ _ _ _ _ _ _
    (by decide) (by decide)⟩

end ElvishMail.Mailpipe
