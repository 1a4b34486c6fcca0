import ElvishMail.Mailmeta.Folders
import ElvishMail.Mailpipe.Headers

/-!
# Ingest-time filter rules

`internal/mailpipe/ingest_filters.go`: a user's rules are applied to envelope and
header before anything is stored. The first rule whose conditions match decides
whether the message is dropped and in which folder it is filed.
-/

namespace ElvishMail.Mailpipe

open Go Smtp Mailmeta

/-- A JSON value in a condition or an action. A number is given by its integer
part, and any other value by `json.Marshal` of it. -/
inductive FilterValue where
  | text (value : GoString)
  | number (value : Int)
  | null
  | other (marshalled : Option GoString)
deriving DecidableEq

/-- `filterCondJSON`. -/
structure FilterCond where
  type : GoString
  operator : GoString
  value : FilterValue
deriving DecidableEq

/-- `filterActJSON`. -/
structure FilterAct where
  type : GoString
  value : FilterValue
deriving DecidableEq

/-- `json.Unmarshal` into the two lists of a rule. -/
structure RuleJSON where
  conditions : GoString → Option (List FilterCond)
  actions : GoString → Option (List FilterAct)

/-- The outcome of the rules. An empty target folder means the inbox. -/
structure IngestFilterDecision where
  drop : Bool := false
  targetFolder : GoString := []
deriving DecidableEq

structure IngestFilterCtx where
  envelopeFrom : GoString
  headerFrom : GoString
  subject : GoString
  recipient : GoString
  toAddrs : List GoString
  sizeBytes : Int
  hasAttach : Bool
deriving DecidableEq

def ingestFilterRulesCap : Nat := 50

/-- `strconv.ParseInt(text, 10, 64)`. -/
def parseInt64 (text : GoString) : Option Int :=
  (atoi text).filter fun value => -(2 ^ 63) ≤ value ∧ value < 2 ^ 63

def filterCondString : FilterValue → GoString
  | .text value => value
  | .number value => itoa value
  | .null => []
  | .other none => []
  | .other (some marshalled) =>
    ((marshalled.dropWhile (· == 0x22)).reverse.dropWhile (· == 0x22)).reverse

variable (lib : Library)

/-- `strings.ToLower(strings.TrimSpace(text))`. -/
def normalized (text : GoString) : GoString := toLower lib (trimSpace text)

def matchStringFold (hay needle operator : GoString) : Bool :=
  let hay := normalized lib hay
  let needle := normalized lib needle
  if needle = [] ∧ operator ≠ ascii "equals" then false
  else if operator = ascii "equals" then hay == needle
  else if operator = ascii "starts_with" then hasPrefix hay needle
  else if operator = ascii "ends_with" then hasSuffix hay needle
  else if operator = ascii "matches" ∨ operator = ascii "contains" then
    needle ≠ [] && (index hay needle).isSome
  else false

def ingestSizeMatches (op val : GoString) (sizeBytes : Int) : Bool :=
  match parseInt64 (trimSpace val) with
  | none => false
  | some bound =>
    if op = ascii "greater_than" then sizeBytes > bound
    else if op = ascii "less_than" then sizeBytes < bound
    else if op = ascii "equals" then sizeBytes = bound
    else false

def ingestAttachmentMatches (val : GoString) (has : Bool) : Bool :=
  if normalized lib val ∈ [ascii "0", ascii "false", ascii "no"] then !has else has

/-- One `add` of `senderHaystacks`: the keys seen and the texts collected so far. -/
def addHaystack (state : List GoString × List GoString) (text : GoString) :
    List GoString × List GoString :=
  let (seen, out) := state
  let text := trimSpace text
  if text = [] ∨ toLower lib text ∈ seen then (seen, out)
  else
    let seen := seen ++ [toLower lib text]
    let out := out ++ [text]
    match lib.parseAddress text with
    | none => (seen, out)
    | some parsed =>
      let email := normalized lib parsed
      if email = [] ∨ email ∈ seen then (seen, out) else (seen ++ [email], out ++ [email])

def senderHaystacks (envelopeFrom headerFrom : GoString) : List GoString :=
  (addHaystack lib (addHaystack lib ([], []) envelopeFrom) headerFrom).2

/-- `ingestConditionMatches`. A condition on the body or on other headers never
matches here. -/
def ingestConditionMatches (cond : FilterCond) (ctx : IngestFilterCtx) : Bool :=
  let type := normalized lib cond.type
  let given := normalized lib cond.operator
  let op := if given = [] then ascii "contains" else given
  let val := trimSpace (filterCondString cond.value)
  if type = ascii "sender" then
    (senderHaystacks lib ctx.envelopeFrom ctx.headerFrom).any fun hay => matchStringFold lib hay val op
  else if type = ascii "recipient" then
    (ctx.recipient ≠ [] && matchStringFold lib ctx.recipient val op) ||
      ctx.toAddrs.any fun addr => matchStringFold lib addr val op
  else if type = ascii "subject" then matchStringFold lib ctx.subject val op
  else if type = ascii "size" then ingestSizeMatches op val ctx.sizeBytes
  else if type = ascii "attachment" then ingestAttachmentMatches lib val ctx.hasAttach
  else false

/-- `ingestRuleConditionsMatch`: all of at least one condition. -/
def ingestRuleConditionsMatch (conds : List FilterCond) (ctx : IngestFilterCtx) : Bool :=
  if conds.length = 0 then false else conds.all fun cond => ingestConditionMatches lib cond ctx

def buildIngestFilterCtx (envelopeFrom recipient rawBody : GoString) (headers : HeaderSummary) :
    IngestFilterCtx where
  envelopeFrom := trimSpace envelopeFrom
  headerFrom := trimSpace headers.fromAddr
  subject := headers.subject
  recipient := normalized lib recipient
  toAddrs := headers.toAddrs ++ headers.cc
  sizeBytes := rawBody.length
  hasAttach := headers.attachments.length > 0

/-- `resolveIngestMoveFolder`, given the query of `UserHasFolder`. -/
def resolveIngestMoveFolder (userHasFolder : GoString → Except GoError Bool) (want : GoString) :
    Except GoError GoString :=
  let want := trimSpace (toLower lib want)
  if want = [] then .ok folderInbox
  else if want ∈ standardFolders then .ok want
  else match userHasFolder want with
    | .error err => .error err
    | .ok has => .ok (if has then want else folderInbox)

/-- `ingestDecisionFromActions`: any delete drops the message, and otherwise the
first move decides. -/
def ingestDecisionFromActions (userHasFolder : GoString → Except GoError Bool)
    (acts : List FilterAct) : Except GoError IngestFilterDecision :=
  if acts.any fun act => normalized lib act.type == ascii "delete" then .ok { drop := true }
  else match acts.find? fun act => normalized lib act.type == ascii "move" with
    | none => .ok {}
    | some act =>
      match resolveIngestMoveFolder lib userHasFolder (filterCondString act.value) with
      | .error err => .error err
      | .ok folder =>
        .ok (if folder ≠ [] ∧ folder ≠ folderInbox then { targetFolder := folder } else {})

/-- The rules `evalIngestPrivacyFilters` considers: enabled, readable, and at most
the cap. -/
def ingestRules (json : RuleJSON) (rows : List MailFilterRow) :
    List (List FilterCond × List FilterAct) :=
  (rows.filterMap fun row =>
    if !row.enabled then none
    else do
      let conds ← json.conditions row.conditions
      let acts ← json.actions row.actions
      some (conds, acts)).take ingestFilterRulesCap

/-- `evalIngestPrivacyFilters`, given the answers of `ListMailFilters` and
`UserHasFolder` for the user. -/
def evalIngestPrivacyFilters (json : RuleJSON) (listMailFilters : Except GoError (List MailFilterRow))
    (userHasFolder : GoString → Except GoError Bool) (envelopeFrom recipient rawBody : GoString)
    (headers : HeaderSummary) : Except GoError IngestFilterDecision :=
  match listMailFilters with
  | .error err => .error err
  | .ok rows =>
    let ctx := buildIngestFilterCtx lib envelopeFrom recipient rawBody headers
    match (ingestRules json rows).find? fun rule => ingestRuleConditionsMatch lib rule.1 ctx with
    | none => .ok {}
    | some rule => ingestDecisionFromActions lib userHasFolder rule.2

end ElvishMail.Mailpipe
