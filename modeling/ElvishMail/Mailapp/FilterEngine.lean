import ElvishMail.Js.Integers
import ElvishMail.Mailapp.Address

/-!
# Filter rules in the browser

The matching half of `static/mail/mail-filter-engine.js`: which rules of a user
apply, in what order, and to which messages. The values of conditions and actions
are given as `String` makes them a text. What the engine does with a rule that
matches is in `Mailapp.FilterPass`.
-/

namespace ElvishMail.Mailapp

open Js

/-- The number nearest to a natural number, ties to even; none where numbers end. -/
def numberOfNat (value : Nat) : Option Nat :=
  let unit := 2 ^ (value.log2 - 52)
  let quotient := value / unit
  let remainder := value % unit
  let down := 2 * remainder < unit ∨ (2 * remainder = unit ∧ quotient % 2 = 0)
  let rounded := (if down then quotient else quotient + 1) * unit
  if rounded.log2 < 1024 then some rounded else none

def numberOf : Int → Option Int
  | .ofNat value => (numberOfNat value).map Int.ofNat
  | .negSucc value => (numberOfNat (value + 1)).map fun number : Nat => -(number : Int)

def leadingDigits (text : JsString) : Option Nat :=
  let digits := text.takeWhile isDigit
  if digits = [] then none
  else some (digits.foldl (fun value unit => value * 10 + (unit.toNat - 48)) 0)

def leadingInteger (text : JsString) : Option Int :=
  match trimStart text with
  | 0x2D :: rest => (leadingDigits rest).map fun value : Nat => -(value : Int)
  | 0x2B :: rest => (leadingDigits rest).map Int.ofNat
  | text => (leadingDigits text).map Int.ofNat

/-- `parseInt(text, 10)`, where it is finite. -/
def parseInt (text : JsString) : Option Int := (leadingInteger text).bind numberOf

/-- `String(number)` of an integer that is written out. -/
def integerText (value : Int) : JsString := (Go.itoa value).map fun byte => byte.toUInt16

/-- `\u` and four hexadecimal digits. -/
def escapeUnit (unit : UInt16) : JsString :=
  let code := unit.toNat
  lit "\\u" ++ [hexDigit (code / 4096), hexDigit (code / 256 % 16), hexDigit (code / 16 % 16),
    hexDigit (code % 16)]

def quoteUnit (unit : UInt16) : JsString :=
  if unit = 8 then lit "\\b"
  else if unit = 9 then lit "\\t"
  else if unit = 10 then lit "\\n"
  else if unit = 12 then lit "\\f"
  else if unit = 13 then lit "\\r"
  else if unit = 34 then lit "\\\""
  else if unit = 92 then lit "\\\\"
  else if unit < 32 then escapeUnit unit
  else [unit]

def quoteUnits : JsString → JsString
  | [] => []
  | unit :: rest =>
    if isHigh unit then
      match rest with
      | low :: others =>
        if isLow low then unit :: low :: quoteUnits others
        else escapeUnit unit ++ quoteUnits (low :: others)
      | [] => escapeUnit unit
    else if isLow unit then escapeUnit unit ++ quoteUnits rest
    else quoteUnit unit ++ quoteUnits rest

/-- `JSON.stringify` of a string. -/
def jsonString (text : JsString) : JsString := lit "\"" ++ quoteUnits text ++ lit "\""

/-- A condition. An operator that is missing is empty, as is a type; a value that is
`null` or missing is none. -/
structure FilterCondition where
  type : JsString
  operator : JsString
  value : Option JsString
deriving DecidableEq

structure FilterAction where
  type : JsString
  value : Option JsString
deriving DecidableEq

/-- A rule as the API lists it. A condition that is no object is none; the texts are
what `JSON.stringify` makes of the two lists. -/
structure FilterRule where
  id : JsString
  enabled : Option Bool
  priority : Int
  createdAt : JsString
  conditions : List (Option FilterCondition)
  actions : List FilterAction
  conditionsJson : JsString
  actionsJson : JsString
deriving DecidableEq

structure InboxMessage where
  id : JsString
  subject : JsString
  fromAddr : JsString
  toAddrs : List JsString
  hasAttachments : Bool
  attachmentCount : Nat
deriving DecidableEq

structure FilterContext where
  subject : JsString
  fromAddr : JsString
  toAddrs : List JsString
  bodyText : Option JsString
  hasAttachments : Bool
  sizeBytes : Option Int
deriving DecidableEq

def buildContext (message : InboxMessage) (bodyText : Option JsString) (sizeBytes : Option Int) :
    FilterContext where
  subject := message.subject
  fromAddr := message.fromAddr
  toAddrs := message.toAddrs
  bodyText := bodyText
  hasAttachments := message.hasAttachments || message.attachmentCount > 0
  sizeBytes := sizeBytes

def rulesCap : Nat := 50

/-- The types that `SUPPORTED_CONDITION_TYPES` has as true. -/
def supportedConditionTypes : List JsString :=
  [lit "sender", lit "subject", lit "recipient", lit "body", lit "attachment", lit "size"]

/-- The types that `SUPPORTED_ACTION_TYPES` has as true, and the members of `Object.prototype`
with a name in lower case: an object literal has these too, and they are truthy. -/
def supportedActionTypes : List JsString :=
  [lit "move", lit "mark_read", lit "delete", lit "constructor", lit "__proto__"]

variable (lib : Library) (localeCompare : JsString → JsString → Int)

def norm (text : JsString) : JsString := lib.toLowerCase (trim text)

/-- `normalizeRules`: rules that are not disabled and have an id, the highest priority
first and the oldest first among equals, up to the cap. -/
def normalizeRules (rules : List FilterRule) : List FilterRule :=
  let kept := rules.filter fun rule => rule.enabled ≠ some false && trim rule.id ≠ []
  let ordered := kept.mergeSort fun left right =>
    if right.priority ≠ left.priority then right.priority - left.priority ≤ 0
    else localeCompare left.createdAt right.createdAt ≤ 0
  ordered.take rulesCap

def matchString (hay needle operator : JsString) : Bool :=
  let hay := norm lib hay
  let needle := norm lib needle
  if needle = [] ∧ operator ≠ lit "equals" then false
  else if operator = lit "equals" then hay == needle
  else if operator = lit "starts_with" then startsWith hay needle
  else if operator = lit "ends_with" then endsWith hay needle
  else if operator = lit "matches" ∨ operator = lit "contains" then
    needle ≠ [] && (indexOf hay needle).isSome
  else false

def sizeCompares (op : JsString) (sizeBytes bound : Int) : Bool :=
  if op = lit "greater_than" then sizeBytes > bound
  else if op = lit "less_than" then sizeBytes < bound
  else if op = lit "equals" then sizeBytes = bound
  else false

/-- `conditionMatches`, for a condition that is an object. -/
def conditionMatches (cond : FilterCondition) (ctx : FilterContext) : Bool :=
  let type := norm lib cond.type
  let op := norm lib (if cond.operator = [] then lit "contains" else cond.operator)
  let val := cond.value.getD []
  if type ∉ supportedConditionTypes then false
  else if type = lit "sender" then matchString lib ctx.fromAddr val op
  else if type = lit "subject" then matchString lib ctx.subject val op
  else if type = lit "recipient" then ctx.toAddrs.any fun addr => matchString lib addr val op
  else if type = lit "body" then
    match ctx.bodyText with
    | none => false
    | some body => if body = [] then false else matchString lib body val op
  else if type = lit "attachment" then
    if norm lib val ∈ [lit "0", lit "false", lit "no"] then !ctx.hasAttachments
    else ctx.hasAttachments
  else
    match ctx.sizeBytes, parseInt val with
    | some sizeBytes, some num => sizeCompares op sizeBytes num
    | _, _ => false

/-- `ruleMatches`. What is no object matches as a condition. -/
def ruleMatches (rule : FilterRule) (ctx : FilterContext) : Bool :=
  if rule.conditions.length = 0 then false
  else rule.conditions.all fun cond => cond.all fun cond => conditionMatches lib cond ctx

def pickFirstMatchingRule (rules : List FilterRule) (ctx : FilterContext) : Option FilterRule :=
  rules.find? fun rule => ruleMatches lib rule ctx

def filterSupportedActions (actions : List FilterAction) : List FilterAction :=
  actions.filter fun action => norm lib action.type ∈ supportedActionTypes

/-- `actionFingerprint`: the types and values of the actions as JSON. -/
def actionFingerprint (actions : List FilterAction) : JsString :=
  let slim := actions.map fun action =>
    lit "\x7b\"type\":" ++ jsonString action.type ++ lit ",\"value\":" ++
      jsonString (action.value.getD []) ++ lit "\x7d"
  lit "[" ++ (lit ",").intercalate slim ++ lit "]"

/-- What `stableRulesHash` hashes of one rule. -/
def slimRule (rule : FilterRule) : JsString :=
  lit "\x7b\"id\":" ++ jsonString rule.id ++ lit ",\"enabled\":" ++
    (if rule.enabled = some true then lit "true" else lit "false") ++ lit ",\"priority\":" ++
    integerText rule.priority ++ lit ",\"conditions\":" ++ rule.conditionsJson ++
    lit ",\"actions\":" ++ rule.actionsJson ++ lit "\x7d"

/-- `stableRulesHash`. Its arithmetic is that of 32 bits: a product is made 32 bits wide
before the next unit is added. -/
def stableRulesHash (rules : List FilterRule) : JsString :=
  let json := lit "[" ++ (lit ",").intercalate (rules.map slimRule) ++ lit "]"
  let hash := json.foldl (fun hash unit => (hash * 33) ^^^ unit.toUInt32) (5381 : UInt32)
  lit "r" ++ hexText hash.toNat

theorem id_of_mem_normalizeRules {rules : List FilterRule} {rule : FilterRule}
    (member : rule ∈ normalizeRules localeCompare rules) : rule.id ≠ [] := by
  have kept := List.mem_mergeSort.mp (List.mem_of_mem_take member)
  rw [List.mem_filter] at kept
  rintro empty
  simp [empty, trim, trimStart, trimEnd] at kept

theorem stableRulesHash_ne_nil (rules : List FilterRule) : stableRulesHash rules ≠ [] := by
  intro empty
  have start := (List.append_eq_nil_iff.mp empty).1
  exact absurd start (by decide)

theorem numberOfNat_eq {value : Nat} (exact : value < 2 ^ 53) : numberOfNat value = some value := by
  have log : value.log2 < 53 := by
    by_cases zero : value = 0
    · rw [zero]
      decide
    · exact (Nat.log2_lt zero).mpr exact
  have whole : (if 2 * (value % 2 ^ 0) < 2 ^ 0 ∨ (2 * (value % 2 ^ 0) = 2 ^ 0 ∧ value / 2 ^ 0 % 2 = 0)
      then value / 2 ^ 0 else value / 2 ^ 0 + 1) * 2 ^ 0 = value := by
    simp [Nat.mod_one]
  have unit : value.log2 - 52 = 0 := by omega
  rw [numberOfNat, unit]
  simp only [whole]
  exact if_pos (by omega)

end ElvishMail.Mailapp
