import Mathlib.Data.Rat.Floor
import ElvishMail.Js.Unicode
import ElvishMail.Mailapp.FilterEngine
import ElvishMail.Mailpipe.Filters

/-!
# Filter conditions in the browser and on the server

`conditionMatches` of `static/mail/mail-filter-engine.js` and `ingestConditionMatches` of
`internal/mailpipe/ingest_filters.go` evaluate one condition on what each side knows
of one message. Where both read the texts alike they differ in four ways: a blank
operator, an empty sender under `equals`, a value of a size condition that is not
wholly an integer, and a number that one side writes differently.
-/

namespace ElvishMail.Mailapp

open Js Mailpipe Semantics

inductive ConditionKind where
  | sender
  | subject
  | recipient
  | size
  | attachment
deriving DecidableEq

def ConditionKind.name : ConditionKind → String
  | .sender => "sender"
  | .subject => "subject"
  | .recipient => "recipient"
  | .size => "size"
  | .attachment => "attachment"

def ConditionKind.Textual (kind : ConditionKind) : Prop :=
  kind = .sender ∨ kind = .subject ∨ kind = .recipient

inductive ConditionValue where
  | text (value : List Char)
  | number (value : ℚ)
deriving DecidableEq

/-- A condition as it is stored, in JSON that has no surrogates that stand alone. -/
structure RuleCondition where
  type : List Char
  operator : Option (List Char)
  value : ConditionValue
deriving DecidableEq

/-- `int64(value)`: the integer part; on amd64, the least integer where that is out of
range. -/
def int64OfNumber (value : ℚ) : Int :=
  let whole := if value < 0 then ⌈value⌉ else ⌊value⌋
  if -(2 ^ 63) ≤ whole ∧ whole < 2 ^ 63 then whole else -(2 ^ 63)

/-- What `String` makes of a value, given what it makes of numbers. -/
def ConditionValue.browser (numberText : ℚ → JsString) : ConditionValue → JsString
  | .text value => utf16 value
  | .number value => numberText value

def ConditionValue.server : ConditionValue → FilterValue
  | .text value => .text (utf8 value)
  | .number value => .number (int64OfNumber value)

def RuleCondition.browser (numberText : ℚ → JsString) (cond : RuleCondition) : FilterCondition where
  type := utf16 cond.type
  operator := utf16 (cond.operator.getD [])
  value := some (cond.value.browser numberText)

def RuleCondition.server (cond : RuleCondition) : FilterCond where
  type := utf8 cond.type
  operator := utf8 (cond.operator.getD [])
  value := cond.value.server

structure MailData where
  subject : List Char
  fromAddr : List Char
  recipients : List (List Char)
  size : Nat
  hasAttachments : Bool
deriving DecidableEq

variable (browserLib : Js.Library) (serverLib : Go.Library) (numberText : ℚ → JsString)

/-- Both contexts describe one message: envelope and header have the same bare address,
and the recipient of the envelope, if it is known, is one of the recipients. -/
structure SameData (data : MailData) (client : FilterContext) (server : IngestFilterCtx) : Prop where
  clientSubject : client.subject = utf16 data.subject
  clientFrom : client.fromAddr = utf16 data.fromAddr
  clientTo : client.toAddrs = data.recipients.map utf16
  clientSize : client.sizeBytes = some (data.size : Int)
  clientAttachments : client.hasAttachments = data.hasAttachments
  serverSubject : server.subject = utf8 data.subject
  serverEnvelope : Go.trimSpace server.envelopeFrom = Go.trimSpace (utf8 data.fromAddr)
  serverHeader : Go.trimSpace server.headerFrom = Go.trimSpace (utf8 data.fromAddr)
  bare : ∀ parsed, serverLib.parseAddress (Go.trimSpace (utf8 data.fromAddr)) = some parsed →
    normalized serverLib parsed = normalized serverLib (utf8 data.fromAddr)
  serverTo : server.toAddrs = data.recipients.map utf8
  serverRecipient : server.recipient = [] ∨ ∃ addr ∈ data.recipients,
    normalized serverLib server.recipient = normalized serverLib (utf8 addr)
  serverSize : server.sizeBytes = data.size
  serverAttachments : server.hasAttach = data.hasAttachments

/-- Trimming and lower case make one text of what both sides have. -/
def Alike (left : JsString) (right : Go.GoString) (text : List Char) : Prop :=
  norm browserLib left = utf16 text ∧ normalized serverLib right = utf8 text

def ConditionKind.texts (data : MailData) : ConditionKind → List (List Char)
  | .sender => [data.fromAddr]
  | .subject => [data.subject]
  | .recipient => data.recipients
  | .size => []
  | .attachment => []

/-- The condition is of one type for both sides, and both read its texts and those of the
message alike. For a size, they read the same integer if the server reads one, and the
size is one that numbers are exact for. -/
structure CommonReading (kind : ConditionKind) (cond : RuleCondition) (data : MailData) : Prop where
  browserType : norm browserLib (utf16 cond.type) = lit kind.name
  serverType : normalized serverLib (utf8 cond.type) = Go.ascii kind.name
  operator : ∀ operator ∈ cond.operator, operator ≠ [] →
    ∃ text, Alike browserLib serverLib (utf16 operator) (utf8 operator) text
  texts : ∀ text ∈ kind.texts data,
    ∃ common, Alike browserLib serverLib (utf16 text) (utf8 text) common
  value : kind.Textual → ∃ text, Alike browserLib serverLib (cond.value.browser numberText)
    (filterCondString cond.value.server) text
  number : kind = .size → data.size < 2 ^ 53 ∧
    ∀ bound, parseInt64 (Go.trimSpace (filterCondString cond.value.server)) = some bound →
      leadingInteger (cond.value.browser numberText) = some bound

def browserOperator (cond : RuleCondition) : JsString :=
  norm browserLib (if utf16 (cond.operator.getD []) = [] then lit "contains"
    else utf16 (cond.operator.getD []))

def serverOperator (cond : RuleCondition) : Go.GoString :=
  let given := normalized serverLib (utf8 (cond.operator.getD []))
  if given = [] then Go.ascii "contains" else given

def BlankOperator (cond : RuleCondition) : Prop :=
  ∃ operator ∈ cond.operator, operator ≠ [] ∧ normalized serverLib (utf8 operator) = []

def noAttachments : List String := ["0", "false", "no"]

/-- Where both read alike, exactly these conditions get the same answer. -/
def Aligned (cond : RuleCondition) (data : MailData) : ConditionKind → Prop
  | .sender =>
    (BlankOperator serverLib cond → matchStringFold serverLib (utf8 data.fromAddr)
      (filterCondString cond.value.server) (Go.ascii "contains") = false) ∧
    ¬(normalized serverLib (utf8 (cond.operator.getD [])) = Go.ascii "equals" ∧
      normalized serverLib (filterCondString cond.value.server) = [] ∧
      normalized serverLib (utf8 data.fromAddr) = [])
  | .subject => BlankOperator serverLib cond → matchStringFold serverLib (utf8 data.subject)
      (filterCondString cond.value.server) (Go.ascii "contains") = false
  | .recipient => BlankOperator serverLib cond → ∀ addr ∈ data.recipients,
      matchStringFold serverLib (utf8 addr) (filterCondString cond.value.server)
        (Go.ascii "contains") = false
  | .size =>
    (parseInt64 (Go.trimSpace (filterCondString cond.value.server))).isSome = true ∨
    ∀ bound ∈ parseInt (cond.value.browser numberText),
      sizeCompares (browserOperator browserLib cond) data.size bound = false
  | .attachment =>
    norm browserLib (cond.value.browser numberText) ∈ noAttachments.map lit ↔
      normalized serverLib (filterCondString cond.value.server) ∈ noAttachments.map Go.ascii

section Matching

variable {browserLib serverLib} {numberText} {hayLeft needleLeft : JsString}
  {hayRight needleRight : Go.GoString} {hay needle operator : List Char}

theorem lit_equals : lit "equals" = utf16 "equals".toList := by decide
theorem lit_startsWith : lit "starts_with" = utf16 "starts_with".toList := by decide
theorem lit_endsWith : lit "ends_with" = utf16 "ends_with".toList := by decide
theorem lit_matches : lit "matches" = utf16 "matches".toList := by decide
theorem lit_contains : lit "contains" = utf16 "contains".toList := by decide
theorem ascii_equals : Go.ascii "equals" = utf8 "equals".toList := by decide
theorem ascii_startsWith : Go.ascii "starts_with" = utf8 "starts_with".toList := by decide
theorem ascii_endsWith : Go.ascii "ends_with" = utf8 "ends_with".toList := by decide
theorem ascii_matches : Go.ascii "matches" = utf8 "matches".toList := by decide
theorem ascii_contains : Go.ascii "contains" = utf8 "contains".toList := by decide

theorem matchString_eq (hayReads : Alike browserLib serverLib hayLeft hayRight hay)
    (needleReads : Alike browserLib serverLib needleLeft needleRight needle) :
    matchString browserLib hayLeft needleLeft (utf16 operator) =
      matchStringFold serverLib hayRight needleRight (utf8 operator) := by
  have equal : (utf16 hay == utf16 needle) = (utf8 hay == utf8 needle) := by
    rw [Bool.eq_iff_iff, beq_iff_eq, beq_iff_eq, utf16_inj, utf8_inj]
  have start : startsWith (utf16 hay) (utf16 needle) = Go.hasPrefix (utf8 hay) (utf8 needle) := by
    rw [Bool.eq_iff_iff, startsWith_utf16, hasPrefix_utf8]
  have stop : endsWith (utf16 hay) (utf16 needle) = Go.hasSuffix (utf8 hay) (utf8 needle) := by
    rw [Bool.eq_iff_iff, endsWith_utf16, hasSuffix_utf8]
  have inside : (indexOf (utf16 hay) (utf16 needle)).isSome =
      (Go.index (utf8 hay) (utf8 needle)).isSome := by
    rw [Bool.eq_iff_iff, indexOf_utf16, index_utf8]
  simp only [matchString, matchStringFold, hayReads.1, hayReads.2, needleReads.1, needleReads.2,
    lit_equals, lit_startsWith, lit_endsWith, lit_matches, lit_contains, ascii_equals,
    ascii_startsWith, ascii_endsWith, ascii_matches, ascii_contains, utf16_inj, utf8_inj, equal, start,
    stop, inside, ne_eq, Coding.encode_eq_nil]

theorem matchString_blank : matchString browserLib hayLeft needleLeft [] = false := by
  have apart (text : JsString) (some : text ≠ []) : ¬([] : JsString) = text := fun same => some same.symm
  simp only [matchString]
  rw [if_neg (apart (lit "equals") (by decide)), if_neg (apart (lit "starts_with") (by decide)),
    if_neg (apart (lit "ends_with") (by decide)),
    if_neg (not_or.mpr ⟨apart (lit "matches") (by decide), apart (lit "contains") (by decide)⟩),
    ite_self]

@[simp] theorem normalized_trimSpace (text : Go.GoString) :
    normalized serverLib (Go.trimSpace text) = normalized serverLib text := by
  rw [normalized, Go.trimSpace_trimSpace, normalized]

theorem matchStringFold_congr {hayOther needleOther op : Go.GoString}
    (hay : normalized serverLib hayRight = normalized serverLib hayOther)
    (needle : normalized serverLib needleRight = normalized serverLib needleOther) :
    matchStringFold serverLib hayRight needleRight op =
      matchStringFold serverLib hayOther needleOther op := by
  rw [matchStringFold, matchStringFold, hay, needle]

theorem matchStringFold_empty {op : Go.GoString} (empty : normalized serverLib hayRight = []) :
    matchStringFold serverLib hayRight needleRight op = true ↔
      op = Go.ascii "equals" ∧ normalized serverLib needleRight = [] := by
  have none : Go.index [] (normalized serverLib needleRight) = none ∨
      normalized serverLib needleRight = [] := by
    cases normalized serverLib needleRight with
    | nil => exact .inr rfl
    | cons first rest => exact .inl rfl
  simp only [matchStringFold, empty]
  by_cases blank : normalized serverLib needleRight = []
  · by_cases equals : op = Go.ascii "equals"
    · simp [blank, equals]
    · simp [blank, equals]
  · rw [or_iff_left blank] at none
    by_cases equals : op = Go.ascii "equals"
    · simp [blank, equals]
    · simp [blank, equals, none, Go.hasPrefix, Go.hasSuffix]

variable {cond : RuleCondition} {data : MailData} {kind : ConditionKind}

structure OneOperator (browserLib : Js.Library) (serverLib : Go.Library) (cond : RuleCondition)
    (operator : List Char) : Prop where
  seen : ¬BlankOperator serverLib cond
  browser : browserOperator browserLib cond = utf16 operator
  server : serverOperator serverLib cond = utf8 operator
  equals : serverOperator serverLib cond = Go.ascii "equals" ↔
    normalized serverLib (utf8 (cond.operator.getD [])) = Go.ascii "equals"

structure NoOperator (browserLib : Js.Library) (serverLib : Go.Library) (cond : RuleCondition) :
    Prop where
  blank : BlankOperator serverLib cond
  browser : browserOperator browserLib cond = []
  server : serverOperator serverLib cond = Go.ascii "contains"
  given : normalized serverLib (utf8 (cond.operator.getD [])) = []

theorem contains_ne_equals : Go.ascii "contains" ≠ Go.ascii "equals" := by decide

theorem OneOperator.of_empty (keeps : browserLib.toLowerCase (lit "contains") = lit "contains")
    (empty : cond.operator.getD [] = []) :
    OneOperator browserLib serverLib cond "contains".toList := by
  have looks : serverOperator serverLib cond = Go.ascii "contains" := by
    rw [serverOperator, empty]
    rfl
  refine ⟨?_, ?_, looks.trans ascii_contains, ?_⟩
  · rintro ⟨operator, given, some, -⟩
    rw [Option.mem_def.mp given, Option.getD_some] at empty
    exact some empty
  · rw [browserOperator, empty, ← lit_contains]
    exact keeps
  · rw [looks, empty]
    have differs : ([] : Go.GoString) ≠ Go.ascii "equals" := by decide
    exact iff_of_false contains_ne_equals differs

theorem operator_cases (keeps : browserLib.toLowerCase (lit "contains") = lit "contains")
    (reads : ∀ operator ∈ cond.operator, operator ≠ [] →
      ∃ text, Alike browserLib serverLib (utf16 operator) (utf8 operator) text) :
    (∃ operator, OneOperator browserLib serverLib cond operator) ∨
      NoOperator browserLib serverLib cond := by
  by_cases empty : cond.operator.getD [] = []
  · exact .inl ⟨_, .of_empty keeps empty⟩
  · obtain ⟨operator, given⟩ : ∃ operator, cond.operator = some operator := by
      cases given : cond.operator with
      | none =>
        rw [given] at empty
        exact absurd rfl empty
      | some operator => exact ⟨operator, rfl⟩
    have same : cond.operator.getD [] = operator := by rw [given, Option.getD_some]
    rw [same] at empty
    obtain ⟨text, browser, server⟩ := reads operator given empty
    have written : utf16 operator ≠ [] := by simpa using empty
    have left : browserOperator browserLib cond = utf16 text := by
      rw [browserOperator, same, if_neg written, browser]
    by_cases blank : text = []
    · subst blank
      refine .inr ⟨⟨operator, given, empty, server⟩, left, ?_, ?_⟩
      · rw [serverOperator, same, server]
        rfl
      · rw [same, server]
        rfl
    · have some : utf8 text ≠ [] := by simpa using blank
      have right : serverOperator serverLib cond = utf8 text := by
        rw [serverOperator, same, server]
        exact if_neg some
      refine .inl ⟨text, ?_, left, right, ?_⟩
      · rintro ⟨other, isGiven, -, white⟩
        rw [given] at isGiven
        cases isGiven
        rw [server] at white
        exact some white
      · rw [right, same, server]

variable {values : List (List Char)} {value : Go.GoString} {text : JsString} {common : List Char}

theorem any_eq_iff (keeps : browserLib.toLowerCase (lit "contains") = lit "contains")
    (operator : ∀ operator ∈ cond.operator, operator ≠ [] →
      ∃ text, Alike browserLib serverLib (utf16 operator) (utf8 operator) text)
    (texts : ∀ text ∈ values, ∃ common, Alike browserLib serverLib (utf16 text) (utf8 text) common)
    (needle : ∃ common, Alike browserLib serverLib text value common) :
    (values.any fun hay =>
        matchString browserLib (utf16 hay) text (browserOperator browserLib cond)) =
      (values.any fun hay =>
        matchStringFold serverLib (utf8 hay) value (serverOperator serverLib cond)) ↔
      (BlankOperator serverLib cond → ∀ hay ∈ values,
        matchStringFold serverLib (utf8 hay) value (Go.ascii "contains") = false) := by
  obtain ⟨common, reads⟩ := needle
  rcases operator_cases keeps operator with ⟨op, one⟩ | none
  · refine iff_of_true ?_ fun blank => absurd blank one.seen
    rw [one.browser, one.server]
    rw [Bool.eq_iff_iff, List.any_eq_true, List.any_eq_true]
    refine exists_congr fun hay => and_congr_right fun member => ?_
    obtain ⟨shared, hayReads⟩ := texts hay member
    rw [matchString_eq hayReads reads]
  · rw [none.browser, none.server]
    have nothing : (values.any fun hay => matchString browserLib (utf16 hay) text []) = false := by
      simp [matchString_blank]
    rw [nothing, eq_comm, List.any_eq_false]
    simp [none.blank]

/-! ### The sender -/

theorem encodeRune_ne_nil (rune : Nat) : Go.encodeRune rune ≠ [] := by
  unfold Go.encodeRune
  dsimp only
  generalize (if rune > 0x10FFFF ∨ (0xD800 ≤ rune ∧ rune ≤ 0xDFFF) then Go.runeError else rune) = valid
  split
  · simp
  split
  · simp
  split <;> simp

theorem toLower_eq_nil {text : Go.GoString} : Go.toLower serverLib text = [] ↔ text = [] := by
  constructor
  · intro empty
    rw [Go.toLower, List.flatMap_eq_nil_iff] at empty
    have none : Go.runes text = [] :=
      List.eq_nil_iff_forall_not_mem.mpr fun rune member => encodeRune_ne_nil _ (empty rune member)
    rw [← Go.joinRunes_runes text, none]
    rfl
  · rintro rfl
    rfl

theorem senderHaystacks_same {envelope header address : Go.GoString}
    (first : Go.trimSpace envelope = Go.trimSpace address)
    (second : Go.trimSpace header = Go.trimSpace address)
    (bare : ∀ parsed, serverLib.parseAddress (Go.trimSpace address) = some parsed →
      normalized serverLib parsed = normalized serverLib address) :
    senderHaystacks serverLib envelope header =
      if normalized serverLib address = [] then [] else [Go.trimSpace address] := by
  have key : Go.toLower serverLib (Go.trimSpace address) = normalized serverLib address := rfl
  by_cases empty : Go.trimSpace address = []
  · have none : normalized serverLib address = [] := by rw [← key, empty, Go.toLower_nil]
    rw [if_pos none]
    simp [senderHaystacks, addHaystack, first, second, empty]
  · have some : normalized serverLib address ≠ [] := by rwa [← key, Ne, toLower_eq_nil]
    have once : addHaystack serverLib ([], []) envelope =
        ([normalized serverLib address], [Go.trimSpace address]) := by
      simp only [addHaystack, first, key, empty, List.not_mem_nil, or_self, if_false, List.nil_append]
      cases parse : serverLib.parseAddress (Go.trimSpace address) with
      | none => rfl
      | some parsed =>
        dsimp only
        rw [bare parsed parse, if_pos (.inr (List.mem_singleton_self _))]
    have twice : addHaystack serverLib ([normalized serverLib address], [Go.trimSpace address]) header =
        ([normalized serverLib address], [Go.trimSpace address]) := by
      simp only [addHaystack, second, key]
      exact if_pos (.inr (List.mem_singleton_self _))
    rw [senderHaystacks, once, twice, if_neg some]

/-! ### The size -/

theorem numberOfNat_large {value : Nat} (low : 2 ^ 53 ≤ value) (high : value < 2 ^ 64) :
    ∃ number, numberOfNat value = some number ∧ 2 ^ 53 ≤ number := by
  have positive : value ≠ 0 := by
    rintro rfl
    exact absurd low (by decide)
  have least : 53 ≤ value.log2 := (Nat.le_log2 positive).mpr low
  have most : value.log2 < 64 := (Nat.log2_lt positive).mpr high
  have below : 2 ^ value.log2 ≤ value := Nat.log2_self_le positive
  have above : value < 2 ^ (value.log2 + 1) := Nat.lt_log2_self
  obtain ⟨extra, split⟩ := Nat.exists_eq_add_of_le (Nat.le_of_succ_le least)
  have unit : value.log2 - 52 = extra := by omega
  have quotientLow : 2 ^ 52 ≤ value / 2 ^ extra := by
    rw [Nat.le_div_iff_mul_le (by positivity), ← pow_add, ← split]
    exact below
  have quotientHigh : value / 2 ^ extra < 2 ^ 53 := by
    rw [Nat.div_lt_iff_lt_mul (by positivity), ← pow_add, show 53 + extra = value.log2 + 1 by omega]
    exact above
  have rounded (down : Prop) [Decidable down] :
      2 ^ 53 ≤ (if down then value / 2 ^ extra else value / 2 ^ extra + 1) * 2 ^ extra ∧
        (if down then value / 2 ^ extra else value / 2 ^ extra + 1) * 2 ^ extra < 2 ^ 66 := by
    have some : 1 ≤ extra := by omega
    have two : 2 ^ 1 ≤ 2 ^ extra := Nat.pow_le_pow_right (by decide) some
    have few : 2 ^ extra ≤ 2 ^ 12 := Nat.pow_le_pow_right (by decide) (by omega)
    generalize value / 2 ^ extra = quotient at quotientLow quotientHigh ⊢
    generalize 2 ^ extra = power at two few ⊢
    split
    · constructor
      · calc 2 ^ 53 = 2 ^ 52 * 2 ^ 1 := by norm_num
          _ ≤ quotient * power := Nat.mul_le_mul quotientLow two
      · calc quotient * power ≤ 2 ^ 53 * 2 ^ 12 := Nat.mul_le_mul quotientHigh.le few
          _ < 2 ^ 66 := by norm_num
    · constructor
      · calc 2 ^ 53 = 2 ^ 52 * 2 ^ 1 := by norm_num
          _ ≤ (quotient + 1) * power := Nat.mul_le_mul (Nat.le_succ_of_le quotientLow) two
      · calc (quotient + 1) * power ≤ 2 ^ 53 * 2 ^ 12 := Nat.mul_le_mul quotientHigh few
          _ < 2 ^ 66 := by norm_num
  rw [numberOfNat, unit]
  obtain ⟨bound, limit⟩ := rounded
    (2 * (value % 2 ^ extra) < 2 ^ extra ∨ 2 * (value % 2 ^ extra) = 2 ^ extra ∧ value / 2 ^ extra % 2 = 0)
  have finite := (Nat.log2_lt (by omega)).mpr limit
  exact ⟨_, if_pos (by omega), bound⟩

theorem sizeCompares_numberOf {op : JsString} {size : Nat} {bound : Int} (small : size < 2 ^ 53)
    (low : -(2 ^ 63) ≤ bound) (high : bound < 2 ^ 63) :
    ∃ number, numberOf bound = some number ∧
      sizeCompares op size number = sizeCompares op size bound := by
  by_cases exact_ : bound.natAbs < 2 ^ 53
  · refine ⟨bound, ?_, rfl⟩
    cases bound with
    | ofNat value =>
      have whole : numberOfNat value = some value := numberOfNat_eq exact_
      rw [numberOf, whole, Option.map_some]
    | negSucc value =>
      have whole : numberOfNat (value + 1) = some (value + 1) := numberOfNat_eq exact_
      rw [numberOf, whole, Option.map_some]
      rfl
  · have far {number : Int} (less : (size : Int) < number ↔ (size : Int) < bound)
        (same : (size : Int) ≠ number) (other : (size : Int) ≠ bound) :
        sizeCompares op size number = sizeCompares op size bound := by
      have more : (size : Int) > number ↔ (size : Int) > bound := by omega
      simp only [sizeCompares, less, more, same, other]
    cases bound with
    | ofNat value =>
      have beyond : ¬value < 2 ^ 53 := exact_
      have within : (value : Int) < 2 ^ 63 := high
      obtain ⟨number, rounds, large⟩ := @numberOfNat_large value (by omega) (by omega)
      refine ⟨number, by rw [numberOf, rounds]; rfl, far ?_ ?_ ?_⟩
      all_goals
        rw [Int.ofNat_eq_natCast] at *
        omega
    | negSucc value =>
      obtain ⟨number, rounds, large⟩ := @numberOfNat_large (value + 1) (by simpa using exact_)
        (by omega)
      refine ⟨-number, by rw [numberOf, rounds]; rfl, far ?_ ?_ ?_⟩
      all_goals omega

variable {client : FilterContext} {server : IngestFilterCtx}

theorem sender_iff (keeps : browserLib.toLowerCase (lit "contains") = lit "contains")
    (reads : CommonReading browserLib serverLib numberText .sender cond data)
    (same : SameData serverLib data client server) :
    conditionMatches browserLib (cond.browser numberText) client =
      ingestConditionMatches serverLib cond.server server ↔
      Aligned browserLib serverLib numberText cond data .sender := by
  obtain ⟨common, value⟩ := reads.value (.inl rfl)
  have left : conditionMatches browserLib (cond.browser numberText) client =
      matchString browserLib (utf16 data.fromAddr) (cond.value.browser numberText)
        (browserOperator browserLib cond) := by
    simp only [conditionMatches, RuleCondition.browser, reads.browserType, same.clientFrom]
    rw [if_neg (by decide), if_pos (by decide)]
    rfl
  have right : ingestConditionMatches serverLib cond.server server =
      if normalized serverLib (utf8 data.fromAddr) = [] then false
      else matchStringFold serverLib (utf8 data.fromAddr) (filterCondString cond.value.server)
        (serverOperator serverLib cond) := by
    simp only [ingestConditionMatches, RuleCondition.server, reads.serverType]
    rw [if_pos (by decide), senderHaystacks_same same.serverEnvelope same.serverHeader same.bare]
    split
    next => rfl
    next =>
      rw [List.any_cons, List.any_nil, Bool.or_false]
      exact matchStringFold_congr (normalized_trimSpace _) (normalized_trimSpace _)
  obtain ⟨shared, hayReads⟩ := reads.texts data.fromAddr (List.mem_singleton_self _)
  rw [left, right, Aligned]
  by_cases empty : normalized serverLib (utf8 data.fromAddr) = []
  · rw [if_pos empty]
    have never : matchStringFold serverLib (utf8 data.fromAddr) (filterCondString cond.value.server)
        (Go.ascii "contains") = false := by
      rw [Bool.eq_false_iff, Ne, matchStringFold_empty empty]
      exact fun both => contains_ne_equals both.1
    rcases operator_cases keeps reads.operator with ⟨op, one⟩ | none
    · rw [one.browser, matchString_eq hayReads value, ← one.server, Bool.eq_false_iff, Ne,
        matchStringFold_empty empty, one.equals]
      simp [never, empty]
    · rw [none.browser, matchString_blank, none.given]
      have differs : ([] : Go.GoString) ≠ Go.ascii "equals" := by decide
      exact iff_of_true rfl ⟨fun _ => never, fun both => differs both.1⟩
  · rw [if_neg empty]
    have single := @any_eq_iff browserLib serverLib cond [data.fromAddr] _ _ keeps reads.operator
      (fun text member => reads.texts text member) ⟨common, value⟩
    simp only [List.any_cons, List.any_nil, Bool.or_false, List.mem_singleton, forall_eq] at single
    rw [single]
    simp [empty]

theorem subject_iff (keeps : browserLib.toLowerCase (lit "contains") = lit "contains")
    (reads : CommonReading browserLib serverLib numberText .subject cond data)
    (same : SameData serverLib data client server) :
    conditionMatches browserLib (cond.browser numberText) client =
      ingestConditionMatches serverLib cond.server server ↔
      Aligned browserLib serverLib numberText cond data .subject := by
  have left : conditionMatches browserLib (cond.browser numberText) client =
      matchString browserLib (utf16 data.subject) (cond.value.browser numberText)
        (browserOperator browserLib cond) := by
    simp only [conditionMatches, RuleCondition.browser, reads.browserType, same.clientSubject]
    rw [if_neg (by decide), if_neg (by decide), if_pos (by decide)]
    rfl
  have right : ingestConditionMatches serverLib cond.server server =
      matchStringFold serverLib (utf8 data.subject) (filterCondString cond.value.server)
        (serverOperator serverLib cond) := by
    simp only [ingestConditionMatches, RuleCondition.server, reads.serverType, same.serverSubject]
    rw [if_neg (by decide), if_neg (by decide), if_pos (by decide)]
    exact matchStringFold_congr rfl (normalized_trimSpace _)
  have single := @any_eq_iff browserLib serverLib cond [data.subject] _ _ keeps reads.operator
    (fun text member => reads.texts text member) (reads.value (.inr (.inl rfl)))
  simp only [List.any_cons, List.any_nil, Bool.or_false, List.mem_singleton, forall_eq] at single
  rw [left, right, Aligned, single]

theorem recipient_iff (keeps : browserLib.toLowerCase (lit "contains") = lit "contains")
    (reads : CommonReading browserLib serverLib numberText .recipient cond data)
    (same : SameData serverLib data client server) :
    conditionMatches browserLib (cond.browser numberText) client =
      ingestConditionMatches serverLib cond.server server ↔
      Aligned browserLib serverLib numberText cond data .recipient := by
  have left : conditionMatches browserLib (cond.browser numberText) client =
      data.recipients.any fun addr => matchString browserLib (utf16 addr)
        (cond.value.browser numberText) (browserOperator browserLib cond) := by
    simp only [conditionMatches, RuleCondition.browser, reads.browserType, same.clientTo]
    rw [if_neg (by decide), if_neg (by decide), if_neg (by decide), if_pos (by decide), List.any_map]
    rfl
  have right : ingestConditionMatches serverLib cond.server server =
      data.recipients.any fun addr => matchStringFold serverLib (utf8 addr)
        (filterCondString cond.value.server) (serverOperator serverLib cond) := by
    have each (hay : Go.GoString) : matchStringFold serverLib hay
        (Go.trimSpace (filterCondString cond.value.server)) (serverOperator serverLib cond) =
        matchStringFold serverLib hay (filterCondString cond.value.server)
          (serverOperator serverLib cond) :=
      matchStringFold_congr rfl (normalized_trimSpace _)
    have shape : ingestConditionMatches serverLib cond.server server =
        ((server.recipient ≠ [] && matchStringFold serverLib server.recipient
          (Go.trimSpace (filterCondString cond.value.server)) (serverOperator serverLib cond)) ||
        (data.recipients.map utf8).any fun addr => matchStringFold serverLib addr
          (Go.trimSpace (filterCondString cond.value.server)) (serverOperator serverLib cond)) := by
      simp only [ingestConditionMatches, RuleCondition.server, reads.serverType, same.serverTo]
      rw [if_neg (by decide), if_pos (by decide)]
      rfl
    rw [shape, each, List.any_map]
    simp only [Function.comp_def, each]
    rcases same.serverRecipient with unknown | ⟨addr, member, alike⟩
    · simp [unknown]
    · -- The recipient of the envelope matches where the recipient it is one of does.
      rw [matchStringFold_congr alike rfl, Bool.or_eq_right_iff_imp]
      intro both
      exact List.any_eq_true.mpr ⟨addr, member, (Bool.and_eq_true_iff.mp both).2⟩
  rw [left, right, Aligned]
  exact any_eq_iff keeps reads.operator (fun text member => reads.texts text member)
    (reads.value (.inr (.inr rfl)))

theorem lit_greater : lit "greater_than" = utf16 "greater_than".toList := by decide
theorem lit_less : lit "less_than" = utf16 "less_than".toList := by decide
theorem ascii_greater : Go.ascii "greater_than" = utf8 "greater_than".toList := by decide
theorem ascii_less : Go.ascii "less_than" = utf8 "less_than".toList := by decide

theorem size_operators {size bound : Int}
    (keeps : browserLib.toLowerCase (lit "contains") = lit "contains")
    (reads : ∀ operator ∈ cond.operator, operator ≠ [] →
      ∃ text, Alike browserLib serverLib (utf16 operator) (utf8 operator) text) :
    sizeCompares (browserOperator browserLib cond) size bound =
      if serverOperator serverLib cond = Go.ascii "greater_than" then decide (size > bound)
      else if serverOperator serverLib cond = Go.ascii "less_than" then decide (size < bound)
      else if serverOperator serverLib cond = Go.ascii "equals" then decide (size = bound)
      else false := by
  rcases operator_cases keeps reads with ⟨op, one⟩ | none
  · simp only [sizeCompares, one.browser, one.server, lit_greater, lit_less, lit_equals, ascii_greater,
      ascii_less, ascii_equals, utf16_inj, utf8_inj]
  · rw [none.browser, none.server, if_neg (by decide), if_neg (by decide), if_neg (by decide)]
    rfl

theorem size_iff (reads : CommonReading browserLib serverLib numberText .size cond data)
    (same : SameData serverLib data client server)
    (keeps : browserLib.toLowerCase (lit "contains") = lit "contains") :
    conditionMatches browserLib (cond.browser numberText) client =
      ingestConditionMatches serverLib cond.server server ↔
      Aligned browserLib serverLib numberText cond data .size := by
  obtain ⟨small, number⟩ := reads.number rfl
  have left : conditionMatches browserLib (cond.browser numberText) client =
      match parseInt (cond.value.browser numberText) with
      | some bound => sizeCompares (browserOperator browserLib cond) data.size bound
      | none => false := by
    simp only [conditionMatches, RuleCondition.browser, reads.browserType, same.clientSize]
    rw [if_neg (by decide), if_neg (by decide), if_neg (by decide), if_neg (by decide),
      if_neg (by decide), if_neg (by decide), Option.getD_some]
    cases parseInt (cond.value.browser numberText) <;> rfl
  have right : ingestConditionMatches serverLib cond.server server =
      ingestSizeMatches (serverOperator serverLib cond)
        (Go.trimSpace (filterCondString cond.value.server)) data.size := by
    simp only [ingestConditionMatches, RuleCondition.server, reads.serverType, same.serverSize]
    rw [if_neg (by decide), if_neg (by decide), if_neg (by decide), if_pos (by decide)]
    rfl
  rw [left, right, Aligned, ingestSizeMatches, Go.trimSpace_trimSpace]
  cases server : parseInt64 (Go.trimSpace (filterCondString cond.value.server)) with
  | none =>
    cases parseInt (cond.value.browser numberText) with
    | none => simp
    | some bound => simp
  | some bound =>
    have range : -(2 ^ 63) ≤ bound ∧ bound < 2 ^ 63 := by
      have kept := (Option.filter_eq_some_iff.mp server).2
      simpa using kept
    obtain ⟨rounded, rounds, compares⟩ := @sizeCompares_numberOf (browserOperator browserLib cond)
      data.size bound small range.1 range.2
    have browser : parseInt (cond.value.browser numberText) = some rounded := by
      rw [parseInt, number bound server, Option.bind_some, rounds]
    rw [browser]
    refine iff_of_true ?_ (.inl rfl)
    show sizeCompares _ _ _ = _
    rw [compares]
    exact size_operators keeps reads.operator

theorem attachment_iff (reads : CommonReading browserLib serverLib numberText .attachment cond data)
    (same : SameData serverLib data client server) :
    conditionMatches browserLib (cond.browser numberText) client =
      ingestConditionMatches serverLib cond.server server ↔
      Aligned browserLib serverLib numberText cond data .attachment := by
  have left : conditionMatches browserLib (cond.browser numberText) client =
      if norm browserLib (cond.value.browser numberText) ∈ noAttachments.map lit then
        !data.hasAttachments else data.hasAttachments := by
    simp only [conditionMatches, RuleCondition.browser, reads.browserType, same.clientAttachments]
    rw [if_neg (by decide), if_neg (by decide), if_neg (by decide), if_neg (by decide),
      if_neg (by decide), if_pos (by decide)]
    rfl
  have right : ingestConditionMatches serverLib cond.server server =
      if normalized serverLib (filterCondString cond.value.server) ∈ noAttachments.map Go.ascii then
        !data.hasAttachments else data.hasAttachments := by
    simp only [ingestConditionMatches, RuleCondition.server, reads.serverType, same.serverAttachments,
      ingestAttachmentMatches, normalized_trimSpace]
    rw [if_neg (by decide), if_neg (by decide), if_neg (by decide), if_neg (by decide),
      if_pos (by decide)]
    rfl
  rw [left, right, Aligned]
  have opposite : (!data.hasAttachments) ≠ data.hasAttachments := by
    cases data.hasAttachments <;> decide
  by_cases browser : norm browserLib (cond.value.browser numberText) ∈ noAttachments.map lit
  · rw [if_pos browser]
    by_cases server : normalized serverLib (filterCondString cond.value.server) ∈
        noAttachments.map Go.ascii
    · rw [if_pos server]
      exact iff_of_true rfl (iff_of_true browser server)
    · rw [if_neg server]
      exact iff_of_false opposite fun both => server (both.mp browser)
  · rw [if_neg browser]
    by_cases server : normalized serverLib (filterCondString cond.value.server) ∈
        noAttachments.map Go.ascii
    · rw [if_pos server]
      exact iff_of_false opposite.symm fun both => browser (both.mpr server)
    · rw [if_neg server]
      exact iff_of_true rfl (iff_of_false browser server)

end Matching

theorem alike_of_lower {text : List Char} {lower : Char → Char}
    (plain : ∀ letter ∈ text, letter.toNat ≠ 0xFEFF ∧ letter.toNat ≠ 0x85)
    (browser : browserLib.toLowerCase (utf16 (trimmed isSpaceChar text)) =
      utf16 ((trimmed isSpaceChar text).map lower))
    (server : ∀ letter ∈ trimmed isSpaceChar text,
      serverLib.toLowerRune letter.toNat = (lower letter).toNat) :
    Alike browserLib serverLib (utf16 text) (utf8 text) ((trimmed isSpaceChar text).map lower) := by
  constructor
  · rw [norm, trim_utf16, trimmed_alike plain, browser]
  · rw [normalized, trimSpace_utf8, toLower_utf8 server]

def isDigitChar (letter : Char) : Bool := 48 ≤ letter.toNat && letter.toNat ≤ 57

def digitsValue (start : Nat) (text : List Char) : Nat :=
  text.foldl (fun value letter => value * 10 + (letter.toNat - 48)) start

section Integers

variable {text rest : List Char} {letter : Char} {start : Nat}

theorem utf8_small (small : letter.toNat < 0x80) :
    utf8 (letter :: text) = letter.toNat.toUInt8 :: utf8 text := by
  have bytes := encodeRune_toNat letter
  rw [scalarBytes, if_pos small] at bytes
  obtain ⟨first, others, word, is, none⟩ := List.map_eq_cons_iff.mp bytes
  rw [List.map_eq_nil_iff] at none
  have byte : first = letter.toNat.toUInt8 := by
    rw [← UInt8.toNat_inj, is]
    simp
    omega
  show Go.encodeRune letter.toNat ++ utf8 text = _
  rw [word, none, byte]
  rfl

theorem utf8_large (large : ¬letter.toNat < 0x80) :
    ∃ first others, utf8 (letter :: text) = first :: others ∧ 0x80 ≤ first.toNat := by
  have valid := scalar letter
  have bytes := encodeRune_toNat letter
  have high : ∀ first ∈ (scalarBytes letter.toNat).head?, 0x80 ≤ first := by
    unfold scalarBytes
    split_ifs <;> simp only [List.head?_cons, Option.mem_def, Option.some.injEq, forall_eq'] <;> omega
  obtain ⟨first, others, word⟩ := utf8Code.word_first letter
  change Go.encodeRune letter.toNat = first :: others at word
  refine ⟨first, others ++ utf8 text, ?_, ?_⟩
  · show Go.encodeRune letter.toNat ++ utf8 text = _
    rw [word]
    rfl
  · rw [word] at bytes
    exact high _ (by rw [← bytes]; rfl)

theorem utf16_small (small : letter.toNat < 0x10000) :
    utf16 (letter :: text) = letter.toNat.toUInt16 :: utf16 text := by
  show (scalarUnits letter.toNat).map Nat.toUInt16 ++ utf16 text = _
  rw [scalarUnits, if_pos small]
  rfl

theorem digits_utf8 {value : Nat} (read : Go.digits (utf8 text) start = some value) :
    text.all isDigitChar = true ∧ digitsValue start text = value := by
  induction text generalizing start with
  | nil =>
    cases read
    exact ⟨rfl, rfl⟩
  | cons letter rest ih =>
    by_cases small : letter.toNat < 0x80
    · rw [utf8_small small, Go.digits] at read
      have same : letter.toNat.toUInt8.toNat = letter.toNat := by simp; omega
      rw [same] at read
      split at read
      next digit =>
        obtain ⟨others, value⟩ := ih read
        refine ⟨?_, value⟩
        rw [List.all_cons, others, Bool.and_true, isDigitChar]
        simpa using digit
      next => cases read
    · obtain ⟨first, others, split, high⟩ := @utf8_large rest _ small
      rw [split, Go.digits, if_neg (by omega)] at read
      cases read

theorem leadingDigits_utf16 (some : text ≠ []) (digits : text.all isDigitChar = true)
    (stops : ∀ unit ∈ (utf16 rest).head?, isDigit unit = false) :
    leadingDigits (utf16 (text ++ rest)) = .some (digitsValue 0 text) := by
  have small {letter : Char} (digit : isDigitChar letter = true) : letter.toNat < 0x10000 ∧
      isDigit letter.toNat.toUInt16 = true ∧ letter.toNat.toUInt16.toNat = letter.toNat := by
    simp only [isDigitChar, Bool.and_eq_true, decide_eq_true_eq] at digit
    have same : letter.toNat.toUInt16.toNat = letter.toNat := by simp; omega
    refine ⟨by omega, ?_, same⟩
    simp only [isDigit, UInt16.le_iff_toNat_le, same]
    simpa using digit
  have all : ∀ unit ∈ utf16 text, isDigit unit = true := by
    clear some stops
    induction text with
    | nil => exact fun _ member => by cases member
    | cons letter others ih =>
      rw [List.all_cons, Bool.and_eq_true] at digits
      rw [utf16_small (small digits.1).1]
      intro unit member
      rcases List.mem_cons.mp member with rfl | later
      · exact (small digits.1).2.1
      · exact ih digits.2 unit later
  have value (start : Nat) : (utf16 text).foldl (fun value unit => value * 10 + (unit.toNat - 48)) start =
      digitsValue start text := by
    clear some stops all
    induction text generalizing start with
    | nil => rfl
    | cons letter others ih =>
      rw [List.all_cons, Bool.and_eq_true] at digits
      rw [utf16_small (small digits.1).1, List.foldl_cons, (small digits.1).2.2,
        ih digits.2]
      rfl
  have none : (utf16 rest).takeWhile isDigit = [] := by
    cases units : utf16 rest with
    | nil => rfl
    | cons unit others =>
      rw [units] at stops
      exact List.takeWhile_cons_of_neg (by simp [stops unit rfl])
  have taken : (utf16 (text ++ rest)).takeWhile isDigit = utf16 text := by
    rw [utf16, Coding.encode_append, List.takeWhile_append_of_pos all]
    exact (congrArg _ none).trans (List.append_nil _)
  have digitsThere : utf16 text ≠ [] := by simpa using some
  rw [leadingDigits, taken]
  exact (if_neg digitsThere).trans (congrArg Option.some (value 0))

/-- An integer as both sides read it: a sign, and decimal digits. -/
inductive Written (bound : Int) : List Char → Prop where
  | plus {digits} (some : digits ≠ []) (all : digits.all isDigitChar = true)
      (value : bound = digitsValue 0 digits) : Written bound ('+' :: digits)
  | minus {digits} (some : digits ≠ []) (all : digits.all isDigitChar = true)
      (value : bound = -(digitsValue 0 digits : Int)) : Written bound ('-' :: digits)
  | plain {digits} (some : digits ≠ []) (all : digits.all isDigitChar = true)
      (value : bound = digitsValue 0 digits) : Written bound digits

theorem written_of_atoi {bound : Int} (read : Go.atoi (utf8 text) = some bound) :
    Written bound text := by
  have signed {rest : List Char} {byte : UInt8} (start : utf8 text = byte :: utf8 rest) (some : rest ≠ []) :
      ∃ first others, utf8 text = byte :: first :: others ∧ utf8 rest = first :: others := by
    obtain ⟨first, others, split⟩ := List.exists_cons_of_ne_nil
      (fun empty => some (Coding.encode_eq_nil.mp empty) : utf8 rest ≠ [])
    exact ⟨first, others, start.trans (by rw [split]), split⟩
  have bare {rest : List Char} {byte : UInt8} (start : utf8 text = byte :: utf8 rest) (empty : rest = [])
      (sign : Go.atoi [byte] = none) : False := by
    rw [start, empty] at read
    exact absurd (sign.symm.trans read) nofun
  cases text with
  | nil => cases read
  | cons letter rest =>
    by_cases isPlus : letter = '+'
    · subst isPlus
      have start : utf8 ('+' :: rest) = 0x2B :: utf8 rest := utf8_small (by decide)
      by_cases empty : rest = []
      · exact (bare start empty (by decide)).elim
      · obtain ⟨first, others, split, same⟩ := signed start empty
        rw [split] at read
        obtain ⟨value, digits, rfl⟩ := Option.map_eq_some_iff.mp read
        rw [← same] at digits
        obtain ⟨all, rfl⟩ := digits_utf8 digits
        exact .plus empty all rfl
    · by_cases isMinus : letter = '-'
      · subst isMinus
        have start : utf8 ('-' :: rest) = 0x2D :: utf8 rest := utf8_small (by decide)
        by_cases empty : rest = []
        · exact (bare start empty (by decide)).elim
        · obtain ⟨first, others, split, same⟩ := signed start empty
          rw [split] at read
          obtain ⟨value, found, rfl⟩ := Option.map_eq_some_iff.mp read
          obtain ⟨number, digits, isValue⟩ := Option.bind_eq_some_iff.mp found
          cases isValue
          rw [← same] at digits
          obtain ⟨all, rfl⟩ := digits_utf8 digits
          exact .minus empty all rfl
      · have unsigned : Go.atoi (utf8 (letter :: rest)) =
            (Go.digits (utf8 (letter :: rest)) 0).map Int.ofNat := by
          by_cases small : letter.toNat < 0x80
          · have apart {value : Nat} {sign : Char} (is : sign.toNat = value) (below : value < 0x80)
                (differs : letter ≠ sign) : letter.toNat.toUInt8 ≠ value.toUInt8 := by
              intro same
              have numbers := congrArg UInt8.toNat same
              simp only [Nat.toUInt8_eq, UInt8.toNat_ofNat'] at numbers
              exact differs (Char.toNat_inj.mp (by omega))
            have noPlus : letter.toNat.toUInt8 ≠ 0x2B := @apart 43 '+' rfl (by decide) isPlus
            have noMinus : letter.toNat.toUInt8 ≠ 0x2D := @apart 45 '-' rfl (by decide) isMinus
            rw [utf8_small small]
            generalize letter.toNat.toUInt8 = byte at noPlus noMinus
            unfold Go.atoi
            split
            next same => exact absurd (List.cons.inj same).1 noPlus
            next same => exact absurd (List.cons.inj same).1 noMinus
            next same => rw [same]
            next same => cases same
          · obtain ⟨first, others, split, high⟩ := @utf8_large rest _ small
            rw [split]
            have noPlus : first ≠ 0x2B := by
              rintro rfl
              exact absurd high (by decide)
            have noMinus : first ≠ 0x2D := by
              rintro rfl
              exact absurd high (by decide)
            unfold Go.atoi
            split
            next same => exact absurd (List.cons.inj same).1 noPlus
            next same => exact absurd (List.cons.inj same).1 noMinus
            next same => rw [same]
            next same => cases same
        rw [unsigned] at read
        obtain ⟨value, digits, rfl⟩ := Option.map_eq_some_iff.mp read
        obtain ⟨all, rfl⟩ := digits_utf8 digits
        exact .plain (List.cons_ne_nil _ _) all rfl

theorem Written.leadingInteger {bound : Int} {whole : JsString} (written : Written bound text)
    (front : trimStart whole = utf16 (text ++ rest))
    (stops : ∀ unit ∈ (utf16 rest).head?, isDigit unit = false) :
    leadingInteger whole = some bound := by
  unfold Mailapp.leadingInteger
  rw [front]
  cases written with
  | plus some all value =>
    rename_i digits
    have start : utf16 ('+' :: digits ++ rest) = 0x2B :: utf16 (digits ++ rest) :=
      utf16_small (by decide)
    rw [start, value]
    show Option.map _ _ = _
    rw [leadingDigits_utf16 some all stops]
    rfl
  | minus some all value =>
    rename_i digits
    have start : utf16 ('-' :: digits ++ rest) = 0x2D :: utf16 (digits ++ rest) :=
      utf16_small (by decide)
    rw [start, value]
    show Option.map _ _ = _
    rw [leadingDigits_utf16 some all stops]
    rfl
  | plain some all value =>
    rw [value]
    have read := leadingDigits_utf16 some all stops
    split
    next other same =>
      rw [same] at read
      cases read
    next other same =>
      rw [same] at read
      cases read
    next =>
      rw [read]
      rfl

theorem isDigit_of_white {unit : UInt16} (white : isWhite unit = true) : isDigit unit = false := by
  by_contra digit
  rw [Bool.not_eq_false] at digit
  simp only [isDigit, UInt16.le_iff_toNat_le, Bool.and_eq_true, decide_eq_true_eq] at digit
  have range : 48 ≤ unit.toNat ∧ unit.toNat ≤ 57 := digit
  have visible : isWhite unit = false := by
    simp [isWhite]
    omega
  rw [visible] at white
  cases white

theorem leadingInteger_of_parseInt64 {bound : Int}
    (plain : ∀ letter ∈ text, letter.toNat ≠ 0xFEFF ∧ letter.toNat ≠ 0x85)
    (read : parseInt64 (Go.trimSpace (utf8 text)) = some bound) :
    leadingInteger (utf16 text) = some bound := by
  rw [trimSpace_utf8, ← trimmed_alike plain, trimmed] at read
  have front : trimStart (utf16 text) = utf16 (text.dropWhile isWhiteChar) :=
    Coding.dropWhile_encode isWhite_word
  rw [← @List.rdropWhile_append_rtakeWhile _ isWhiteChar (text.dropWhile isWhiteChar)] at front
  refine (written_of_atoi (Option.filter_eq_some_iff.mp read).1).leadingInteger front ?_
  intro unit head
  obtain ⟨letter, member, inside⟩ := List.mem_flatMap.mp (List.mem_of_mem_head? head)
  exact isDigit_of_white ((isWhite_word letter unit inside).trans (List.mem_rtakeWhile_imp member))

end Integers

structure Simple (lower : Char → Char) (text : List Char) : Prop where
  plain : ∀ letter ∈ text, letter.toNat ≠ 0xFEFF ∧ letter.toNat ≠ 0x85
  browser : browserLib.toLowerCase (utf16 (trimmed isSpaceChar text)) =
    utf16 ((trimmed isSpaceChar text).map lower)
  server : ∀ letter ∈ trimmed isSpaceChar text,
    serverLib.toLowerRune letter.toNat = (lower letter).toNat

theorem CommonReading.of_simple {lower : Char → Char} {kind : ConditionKind} {cond : RuleCondition}
    {data : MailData} {value : List Char}
    (browserType : norm browserLib (utf16 cond.type) = lit kind.name)
    (serverType : normalized serverLib (utf8 cond.type) = Go.ascii kind.name)
    (operator : ∀ operator ∈ cond.operator, Simple browserLib serverLib lower operator)
    (texts : ∀ text ∈ kind.texts data, Simple browserLib serverLib lower text)
    (isText : cond.value = .text value) (simple : Simple browserLib serverLib lower value)
    (small : data.size < 2 ^ 53) : CommonReading browserLib serverLib numberText kind cond data where
  browserType := browserType
  serverType := serverType
  operator text given _ := by
    have reads := operator text given
    exact ⟨_, alike_of_lower browserLib serverLib reads.plain reads.browser reads.server⟩
  texts text member := by
    have reads := texts text member
    exact ⟨_, alike_of_lower browserLib serverLib reads.plain reads.browser reads.server⟩
  value _ := by
    rw [isText]
    exact ⟨_, alike_of_lower browserLib serverLib simple.plain simple.browser simple.server⟩
  number _ := by
    refine ⟨small, fun bound read => ?_⟩
    rw [isText] at read ⊢
    exact leadingInteger_of_parseInt64 simple.plain read

def MailData.client (data : MailData) : FilterContext where
  subject := utf16 data.subject
  fromAddr := utf16 data.fromAddr
  toAddrs := data.recipients.map utf16
  bodyText := none
  hasAttachments := data.hasAttachments
  sizeBytes := some data.size

def MailData.server (data : MailData) : IngestFilterCtx where
  envelopeFrom := utf8 data.fromAddr
  headerFrom := utf8 data.fromAddr
  subject := utf8 data.subject
  recipient := []
  toAddrs := data.recipients.map utf8
  sizeBytes := data.size
  hasAttach := data.hasAttachments

theorem MailData.same (data : MailData)
    (bare : ∀ parsed, serverLib.parseAddress (Go.trimSpace (utf8 data.fromAddr)) = some parsed →
      normalized serverLib parsed = normalized serverLib (utf8 data.fromAddr)) :
    SameData serverLib data data.client data.server :=
  ⟨rfl, rfl, rfl, rfl, rfl, rfl, rfl, rfl, bare, rfl, .inl rfl, rfl, rfl⟩

/-- Where both read the texts alike, a condition gets the same answer in the browser and on
the server exactly if it is aligned. -/
theorem conditionMatches_eq_iff (kind : ConditionKind) (cond : RuleCondition) (data : MailData)
    (client : FilterContext) (server : IngestFilterCtx)
    (keeps : browserLib.toLowerCase (lit "contains") = lit "contains")
    (reads : CommonReading browserLib serverLib numberText kind cond data)
    (same : SameData serverLib data client server) :
    conditionMatches browserLib (cond.browser numberText) client =
      ingestConditionMatches serverLib cond.server server ↔
      Aligned browserLib serverLib numberText cond data kind := by
  cases kind with
  | sender => exact sender_iff keeps reads same
  | subject => exact subject_iff keeps reads same
  | recipient => exact recipient_iff keeps reads same
  | size => exact size_iff reads same keeps
  | attachment => exact attachment_iff reads same

def smallMail : MailData := ⟨"hello".toList, "a@b".toList, ["c@d".toList], 50, false⟩

theorem smallMail_same : SameData .plain smallMail smallMail.client smallMail.server := by
  refine smallMail.same .plain fun parsed parse => ?_
  have same : Go.Library.plain.parseAddress (Go.trimSpace (utf8 smallMail.fromAddr)) =
      some (utf8 smallMail.fromAddr) := by decide
  rw [same] at parse
  cases parse
  rfl

/-- `subject contains ell`. -/
def subjectContains : RuleCondition := ⟨"subject".toList, some "contains".toList, .text "ell".toList⟩

theorem simple_letters {text : List Char}
    (checked : (text.all fun letter => 97 ≤ letter.toNat && letter.toNat ≤ 122) = true)
    (browser : Js.Library.plain.toLowerCase (utf16 (trimmed isSpaceChar text)) =
      utf16 ((trimmed isSpaceChar text).map id)) :
    Simple .plain .plain id text := by
  have range : ∀ letter ∈ text, 97 ≤ letter.toNat ∧ letter.toNat ≤ 122 := by
    intro letter member
    simpa using List.all_eq_true.mp checked letter member
  refine ⟨fun letter member => ?_, browser, fun letter member => ?_⟩
  · have bounds := range letter member
    omega
  · have bounds := range letter (trimmed_sublist.subset member)
    rw [Go.Library.toLowerRune, if_pos (by omega), if_neg (by omega)]
    rfl

theorem conditionMatches_eq_subjectContains :
    conditionMatches .plain (subjectContains.browser fun value => integerText ⌊value⌋) smallMail.client =
      ingestConditionMatches .plain subjectContains.server smallMail.server ↔
      Aligned .plain .plain (fun value => integerText ⌊value⌋) subjectContains smallMail .subject := by
  refine conditionMatches_eq_iff .plain .plain _ .subject subjectContains smallMail _ _ (by decide)
    (.of_simple .plain .plain _ (by decide) (by decide) ?_ ?_ rfl
      (simple_letters (by decide) (by decide)) (by decide)) smallMail_same
  · rintro operator ⟨⟩
    exact simple_letters (by decide) (by decide)
  · intro text member
    rw [List.mem_singleton.mp member]
    exact simple_letters (by decide) (by decide)

/-- `size greater_than 10kb`. -/
def sizeGreater : RuleCondition := ⟨"size".toList, some "greater_than".toList, .text "10kb".toList⟩

/-- The browser reads `10kb` as ten bytes, and the server does not read it. -/
theorem size_with_unit_differs :
    SameData .plain smallMail smallMail.client smallMail.server ∧
      conditionMatches .plain (sizeGreater.browser fun value => integerText ⌊value⌋) smallMail.client =
        true ∧
      ingestConditionMatches .plain sizeGreater.server smallMail.server = false :=
  ⟨smallMail_same, by decide, by decide⟩

end ElvishMail.Mailapp
