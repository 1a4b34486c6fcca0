import Mathlib.Data.List.Infix
import Mathlib.Data.List.Nodup
import Mathlib.Data.List.TakeWhile
import ElvishMail.Js.Text
import ElvishMail.Mailapp.Address

/-!
# Replies to all

`buildReplyComposeDraft` of `static/mail/mail-app.jsx`. Only the Cc field is filled with each
address once. The To field is what the message gives for it: the addresses of an own message that
are not the user's, or else where replies go. So what is said of both fields depends on these
alone.
-/

namespace ElvishMail.Mailapp

open Js

/-- A part that something is left of. -/
def headerPart (cur : JsString) : List JsString :=
  let t := trim (collapseWhite cur)
  if t = [] then [] else [t]

/-- The loop over the units. -/
def headerParts : JsString → Nat → JsString → List JsString
  | [], _, cur => headerPart cur
  | c :: rest, depth, cur =>
    if c = 0x22 then headerParts rest depth (cur ++ [c])
    else
      let depth := if c = 0x3C then depth + 1 else if c = 0x3E then depth - 1 else depth
      if c = 0x2C ∧ depth = 0 then headerPart cur ++ headerParts rest depth []
      else headerParts rest depth (cur ++ [c])

def splitMailAddressListHeader (value : JsString) : List JsString :=
  let raw := trim ((unixLines value).map fun unit => if unit = 10 then 0x20 else unit)
  if raw = [] then [] else headerParts raw 0 []

/-- `split(/\s+/).filter(Boolean)`. -/
def words (text : JsString) : List JsString := (text.splitOnP isWhite).filter (· ≠ [])

def replySubjectLine (subj : JsString) : JsString :=
  let s := trim subj
  if s = [] then lit "Re: " else if startsWithInsensitive s (lit "re:") then s else lit "Re: " ++ s

structure ReplyMessage where
  fromAddr : JsString
  replyTo : JsString := []
  toAddrs : List JsString := []
  ccAddrs : List JsString := []
  subject : JsString := []
  references : JsString := []
  rfcMessageId : JsString := []
  threadId : JsString := []

def referencesChainForReply (message : ReplyMessage) : JsString :=
  let tokens := words (trim message.references)
  let mid := trim message.rfcMessageId
  let out := (lit " ").intercalate (if mid ≠ [] ∧ mid ∉ tokens then tokens ++ [mid] else tokens)
  if 4000 < out.length then trim (out.drop (out.length - 4000)) else out

def inReplyToForReply (message : ReplyMessage) : JsString :=
  let angled (id : JsString) : JsString := if startsWith id (lit "<") then id else lit "<" ++ id ++ lit ">"
  if trim message.rfcMessageId ≠ [] then angled (trim message.rfcMessageId)
  else if trim message.threadId ≠ [] then angled (trim message.threadId)
  else []

structure ComposeDraft where
  toField : JsString
  ccField : JsString
  bccField : JsString
  subject : JsString
  bodyHtml : JsString
  inReplyTo : JsString
  references : JsString
  showCc : Bool

/-- `map(trim).filter(Boolean).join(", ")`. -/
def joinAddresses (addresses : List JsString) : JsString :=
  (lit ", ").intercalate ((addresses.map trim).filter (· ≠ []))

section Drafts

variable (lib : Library)

def ownAddresses (identities : List JsString) (accountEmail : JsString) : List JsString :=
  ((accountEmail :: identities).map (canonicalizeSenderId lib)).filter (· ≠ [])

/-- The addresses that are neither own nor there already. -/
def ccParts (self : List JsString) : List JsString → List JsString → List JsString
  | _, [] => []
  | onTo, d :: rest =>
    let c := canonicalizeSenderId lib d
    if c = [] ∨ c ∈ self ∨ c ∈ onTo then ccParts self onTo rest else d :: ccParts self (c :: onTo) rest

def buildReplyComposeDraft (message : ReplyMessage) (identities : List JsString)
    (accountEmail : JsString) (replyAll : Bool) : ComposeDraft :=
  let self := ownAddresses lib identities accountEmail
  let fromDisp := trim message.fromAddr
  let fromCanon := canonicalizeSenderId lib fromDisp
  let replyToRaw := trim message.replyTo
  let outgoing := fromCanon ≠ [] ∧ fromCanon ∈ self
  let others := joinAddresses (message.toAddrs.filter (canonicalizeSenderId lib · ∉ self))
  let toDisp :=
    if outgoing then if others = [] then fromDisp else others
    else if replyToRaw = [] then fromDisp
    else replyToRaw
  let onTo := ((splitMailAddressListHeader toDisp).map (canonicalizeSenderId lib)).filter (· ≠ [])
  let more := (if outgoing then [] else message.toAddrs) ++ message.ccAddrs
  { toField := toDisp
    ccField := joinAddresses (if replyAll then ccParts lib self onTo more else [])
    bccField := []
    subject := replySubjectLine message.subject
    bodyHtml := lit "<p><br></p>"
    inReplyTo := inReplyToForReply message
    references := referencesChainForReply message
    showCc := replyAll }

/-- The addresses of both fields. -/
def ComposeDraft.recipients (draft : ComposeDraft) : List JsString :=
  (splitMailAddressListHeader draft.toField ++ splitMailAddressListHeader draft.ccField).map
    (canonicalizeSenderId lib)

end Drafts

/-- A local part, and a domain that ends in a dot and at least two letters. -/
def PlainAddress (text : JsString) : Prop :=
  ∃ name front letters, text = name ++ lit "@" ++ (front ++ lit "." ++ letters) ∧
    name ≠ [] ∧ (∀ unit ∈ name, isLocal unit = true) ∧
      front ≠ [] ∧ (∀ unit ∈ front, isDomain unit = true) ∧
        2 ≤ letters.length ∧ ∀ unit ∈ letters, isLetter unit = true

section Plain

variable {lib : Library} {text : JsString} {unit : UInt16} {parts : List JsString}

/-- Nothing that a list of addresses is split at or that is dropped from it. -/
structure Ordinary (unit : UInt16) : Prop where
  shown : isWhite unit = false
  apart : unit ≠ 0x22 ∧ unit ≠ 0x2C ∧ unit ≠ 0x3C ∧ unit ≠ 0x3E

theorem ordinary_iff : Ordinary unit ↔
    isWhite unit = false ∧ unit ≠ 0x22 ∧ unit ≠ 0x2C ∧ unit ≠ 0x3C ∧ unit ≠ 0x3E :=
  ⟨fun ordinary => ⟨ordinary.shown, ordinary.apart⟩, fun both => ⟨both.1, both.2⟩⟩

theorem ordinary_of_code (code : (48 ≤ unit.toNat ∧ unit.toNat ≤ 57) ∨ (65 ≤ unit.toNat ∧ unit.toNat ≤ 122)) :
    Ordinary unit := by
  refine ⟨?_, ?_, ?_, ?_, ?_⟩
  · unfold isWhite
    simp only [Bool.or_eq_false_iff, Bool.and_eq_false_iff, decide_eq_false_iff_not, beq_eq_false_iff_ne]
    omega
  all_goals
    rintro rfl
    revert code
    decide

theorem ordinary_of_letter (letter : isLetter unit = true) : Ordinary unit := by
  refine ordinary_of_code (.inr ?_)
  unfold isLetter lowerUnit at letter
  simp only [Bool.and_eq_true, decide_eq_true_eq, UInt16.le_iff_toNat_le] at letter
  split at letter
  next upper => exact ⟨upper.1, Nat.le_trans upper.2 (by decide)⟩
  next => exact ⟨Nat.le_trans (by decide) letter.1, letter.2⟩

theorem ordinary_of_digit (digit : isDigit unit = true) : Ordinary unit := by
  refine ordinary_of_code (.inl ?_)
  unfold isDigit at digit
  simp only [Bool.and_eq_true, decide_eq_true_eq, UInt16.le_iff_toNat_le] at digit
  exact digit

theorem ordinary_of_local (localUnit : isLocal unit = true) : Ordinary unit := by
  have marks : (lit ".!#$%&'*+/=?^_`\x7b|\x7d~-").all (fun mark => !isWhite mark &&
      !(lit "\",<>").contains mark) = true := by decide
  unfold isLocal at localUnit
  rcases (Bool.or_eq_true _ _).mp localUnit with either | mark
  · rcases (Bool.or_eq_true _ _).mp either with letter | digit
    · exact ordinary_of_letter letter
    · exact ordinary_of_digit digit
  · have fine := List.all_eq_true.mp marks unit (List.contains_iff_mem.mp mark)
    simpa [lit, ordinary_iff] using fine

theorem ordinary_of_domain (domain : isDomain unit = true) : Ordinary unit := by
  unfold isDomain at domain
  rcases (Bool.or_eq_true _ _).mp domain with either | mark
  · rcases (Bool.or_eq_true _ _).mp either with letter | digit
    · exact ordinary_of_letter letter
    · exact ordinary_of_digit digit
  · rcases List.mem_cons.mp (List.contains_iff_mem.mp mark) with rfl | dash
    · exact ⟨rfl, by decide⟩
    · rw [List.mem_singleton.mp dash]
      exact ⟨rfl, by decide⟩

theorem PlainAddress.ordinary (plain : PlainAddress text) : ∀ unit ∈ text, Ordinary unit := by
  obtain ⟨name, front, letters, rfl, -, locals, -, domains, -, letter⟩ := plain
  intro unit member
  simp only [List.mem_append] at member
  rcases member with (inName | at_) | (inFront | dot) | inLetters
  · exact ordinary_of_local (locals unit inName)
  · rw [List.mem_singleton.mp at_]
    exact ⟨rfl, by decide⟩
  · exact ordinary_of_domain (domains unit inFront)
  · rw [List.mem_singleton.mp dot]
    exact ⟨rfl, by decide⟩
  · exact ordinary_of_letter (letter unit inLetters)

theorem PlainAddress.ne_nil (plain : PlainAddress text) : text ≠ [] := by
  obtain ⟨name, front, letters, rfl, named, -⟩ := plain
  exact fun empty => named (List.append_eq_nil_iff.mp (List.append_eq_nil_iff.mp empty).1).1

theorem PlainAddress.startsTight (plain : PlainAddress text) : StartsTight text :=
  fun unit first => (plain.ordinary unit (List.mem_of_mem_head? first)).shown

theorem PlainAddress.endsTight (plain : PlainAddress text) : EndsTight text :=
  fun unit last => (plain.ordinary unit (List.mem_of_mem_getLast? last)).shown

theorem PlainAddress.trim (plain : PlainAddress text) : trim text = text := by
  rw [Js.trim, plain.startsTight.trimStart, plain.endsTight.trimEnd]

theorem lit_at : lit "@" = [0x40] := rfl

/-- The longest domain ends with the letters behind the last dot. -/
theorem matchDomain_last {front letters : JsString} (given : front ≠ []) (enough : 2 ≤ letters.length)
    (letter : ∀ unit ∈ letters, isLetter unit = true) {length : Nat} (long : front.length ≤ length) :
    matchDomain (front ++ lit "." ++ letters) length = some (front ++ lit "." ++ letters) := by
  have behind (more : Nat) (far : front.length < more) :
      (front ++ lit "." ++ letters).drop more = letters.drop (more - (front.length + 1)) := by
    rw [List.drop_append, List.drop_eq_nil_of_le (by rw [List.length_append]; exact far), List.nil_append,
      List.length_append]
    rfl
  induction length with
  | zero => exact absurd (List.length_eq_zero_iff.mp (Nat.le_zero.mp long)) given
  | succ length ih =>
    rw [matchDomain]
    rcases Nat.lt_or_ge length front.length with last | earlier
    · have same : length + 1 = front.length := by omega
      have dot : (front ++ lit "." ++ letters).drop (length + 1) = lit "." ++ letters := by
        rw [same, List.append_assoc, List.drop_left]
      have rest : (front ++ lit "." ++ letters).drop (length + 2) = letters := by
        rw [behind _ (by omega), same.symm, Nat.sub_self, List.drop_zero]
      have whole : (front ++ lit "." ++ letters).take (length + 2) = front ++ lit "." := by
        have size : length + 2 = (front ++ lit ".").length := by
          rw [List.length_append, ← same]
          rfl
        rw [size, List.take_left]
      have kept : letters.takeWhile isLetter = letters := List.takeWhile_eq_self_iff.mpr letter
      rw [rest, kept, dot, whole, if_pos ⟨rfl, enough⟩]
    · rw [if_neg, ih (by omega)]
      rintro ⟨dot, -⟩
      rw [behind _ (by omega), startsWith, List.isPrefixOf_iff_prefix] at dot
      have member : (0x2E : UInt16) ∈ letters := List.mem_of_mem_drop (dot.subset List.mem_cons_self)
      exact absurd (letter _ member) (by decide)

theorem matchEmail_plain (plain : PlainAddress text) : matchEmail isLocal text = some text := by
  obtain ⟨name, front, letters, rfl, named, locals, given, domains, enough, letter⟩ := plain
  have run : (front ++ lit "." ++ letters).takeWhile isDomain = front ++ lit "." ++ letters := by
    rw [List.takeWhile_eq_self_iff]
    intro unit member
    simp only [List.mem_append] at member
    rcases member with (inFront | dot) | inLetters
    · exact domains unit inFront
    · rw [List.mem_singleton.mp dot]
      rfl
    · rw [isDomain, letter unit inLetters, Bool.true_or, Bool.true_or]
  have stop : isLocal 0x40 = false := by decide
  have before : (name ++ lit "@" ++ (front ++ lit "." ++ letters)).takeWhile isLocal = name := by
    rw [List.append_assoc, List.takeWhile_append_of_pos locals, lit_at, List.cons_append,
      List.takeWhile_cons_of_neg (by rw [stop]; decide), List.append_nil]
  have after : (name ++ lit "@" ++ (front ++ lit "." ++ letters)).dropWhile isLocal =
      0x40 :: (front ++ lit "." ++ letters) := by
    rw [List.append_assoc, List.dropWhile_append_of_pos locals, lit_at, List.cons_append,
      List.dropWhile_cons_of_neg (by rw [stop]; decide), List.nil_append]
  unfold matchEmail
  dsimp only
  rw [before, after, List.drop_one, List.tail_cons, run, if_pos ⟨named, rfl⟩,
    matchDomain_last given enough letter (by simp), Option.map_some]

theorem canonicalizeSenderId_plain (plain : PlainAddress text) :
    canonicalizeSenderId lib text = lib.toLowerCase text := by
  have unbracketed : text.tails.findSome? matchBracket = none := by
    rw [List.findSome?_eq_none_iff]
    intro tail member
    rw [matchBracket, if_neg]
    intro opened
    obtain ⟨rest, split⟩ := List.isPrefixOf_iff_prefix.mp opened
    have bracket : (0x3C : UInt16) ∈ tail := split ▸ List.mem_cons_self
    have within : tail <:+ text := (List.mem_tails _ _).mp member
    exact (plain.ordinary _ (within.subset bracket)).apart.2.2.1 rfl
  have found : text.tails.findSome? (matchEmail isLocal) = some text := by
    cases text with
    | nil => exact absurd rfl plain.ne_nil
    | cons unit rest => rw [List.tails_cons, List.findSome?_cons, matchEmail_plain plain]
  unfold canonicalizeSenderId
  dsimp only
  rw [plain.trim, unbracketed, found]
  dsimp only
  rw [plain.trim]

/-- Ordinary units go into the current part. -/
theorem headerParts_ordinary {front rest cur : JsString} (ordinary : ∀ unit ∈ front, Ordinary unit) :
    headerParts (front ++ rest) 0 cur = headerParts rest 0 (cur ++ front) := by
  induction front generalizing cur with
  | nil => rw [List.nil_append, List.append_nil]
  | cons unit front ih =>
    obtain ⟨own, others⟩ := List.forall_mem_cons.mp ordinary
    obtain ⟨quote, comma, opening, closing⟩ := own.apart
    rw [List.cons_append, headerParts, if_neg quote]
    dsimp only
    rw [if_neg opening, if_neg closing, if_neg fun both => comma both.1, ih others, List.append_assoc]
    rfl

theorem collapseWhite_ordinary (ordinary : ∀ unit ∈ text, Ordinary unit) : collapseWhite text = text := by
  induction text with
  | nil => rfl
  | cons unit rest ih =>
    obtain ⟨own, others⟩ := List.forall_mem_cons.mp ordinary
    rw [collapseWhite, if_neg (by rw [own.shown]; decide), ih others]

/-- A space in front is dropped. -/
theorem headerPart_plain (plain : PlainAddress text) :
    headerPart text = [text] ∧ headerPart (0x20 :: text) = [text] := by
  have collapsed := collapseWhite_ordinary plain.ordinary
  have blank : Blank [0x20] := by
    intro unit member
    rw [List.mem_singleton.mp member]
    rfl
  constructor
  · rw [headerPart, collapsed, plain.trim]
    exact if_neg plain.ne_nil
  · have spaced : collapseWhite (0x20 :: text) = [0x20] ++ text := by
      rw [collapseWhite, if_pos (by decide), collapsed]
      cases shown : text with
      | nil => rfl
      | cons unit rest =>
        have white := (plain.ordinary unit (shown ▸ List.mem_cons_self)).shown
        have apart : unit ≠ 0x20 := by
          rintro rfl
          revert white
          decide
        exact if_neg apart
    rw [headerPart, spaced, blank.trim_append, plain.trim]
    exact if_neg plain.ne_nil

theorem joined_cons (text next : JsString) (parts : List JsString) :
    (lit ", ").intercalate (text :: next :: parts) =
      text ++ 0x2C :: 0x20 :: (lit ", ").intercalate (next :: parts) := by
  simp [List.intercalate, lit]

theorem joined_single (text : JsString) : (lit ", ").intercalate [text] = text := by
  simp [List.intercalate]

theorem headerParts_joined (plain : PlainAddress text) (plains : ∀ part ∈ parts, PlainAddress part) :
    headerParts ((lit ", ").intercalate (text :: parts)) 0 [] = text :: parts ∧
      headerParts (0x20 :: (lit ", ").intercalate (text :: parts)) 0 [] = text :: parts := by
  induction parts generalizing text with
  | nil =>
    have own := @headerParts_ordinary text [] [] plain.ordinary
    have spaced := @headerParts_ordinary text [] [0x20] plain.ordinary
    rw [List.append_nil] at own spaced
    rw [joined_single]
    refine ⟨own.trans (headerPart_plain plain).1, ?_⟩
    exact spaced.trans (headerPart_plain plain).2
  | cons next parts ih =>
    obtain ⟨own, others⟩ := List.forall_mem_cons.mp plains
    have later := (ih own others).2
    have comma (cur : JsString) : headerParts (0x2C :: 0x20 :: (lit ", ").intercalate (next :: parts)) 0 cur =
        headerPart cur ++ next :: parts := by
      rw [headerParts, if_neg (by decide)]
      exact congrArg (headerPart cur ++ ·) later
    rw [joined_cons]
    constructor
    · rw [headerParts_ordinary plain.ordinary, comma, List.nil_append, (headerPart_plain plain).1]
      rfl
    · have spaced : headerParts (0x20 :: (text ++ 0x2C :: 0x20 :: (lit ", ").intercalate (next :: parts)))
          0 [] = headerParts (text ++ 0x2C :: 0x20 :: (lit ", ").intercalate (next :: parts)) 0 [0x20] := rfl
      rw [spaced, headerParts_ordinary plain.ordinary, comma, List.singleton_append,
        (headerPart_plain plain).2]
      rfl

/-- Joined addresses are one line that begins and ends with an address. -/
theorem joined_line (plain : PlainAddress text) (plains : ∀ part ∈ parts, PlainAddress part) :
    (lit ", ").intercalate (text :: parts) ≠ [] ∧ StartsTight ((lit ", ").intercalate (text :: parts)) ∧
      EndsTight ((lit ", ").intercalate (text :: parts)) ∧
        ∀ unit ∈ (lit ", ").intercalate (text :: parts), unit ≠ 13 ∧ unit ≠ 10 := by
  have unbroken {text : JsString} (plain : PlainAddress text) : ∀ unit ∈ text, unit ≠ 13 ∧ unit ≠ 10 := by
    intro unit member
    have shown := (plain.ordinary unit member).shown
    refine ⟨?_, ?_⟩ <;>
    · rintro rfl
      revert shown
      decide
  induction parts generalizing text with
  | nil =>
    rw [joined_single]
    exact ⟨plain.ne_nil, plain.startsTight, plain.endsTight, unbroken plain⟩
  | cons next parts ih =>
    obtain ⟨own, others⟩ := List.forall_mem_cons.mp plains
    obtain ⟨given, -, ends, line⟩ := ih own others
    rw [joined_cons]
    refine ⟨List.append_ne_nil_of_left_ne_nil plain.ne_nil _, fun unit first => ?_, ?_, ?_⟩
    · rw [List.head?_append_of_ne_nil _ plain.ne_nil] at first
      exact plain.startsTight unit first
    · have split : text ++ 0x2C :: 0x20 :: (lit ", ").intercalate (next :: parts) =
          (text ++ [0x2C, 0x20]) ++ (lit ", ").intercalate (next :: parts) := by
        rw [List.append_assoc]
        rfl
      rw [split]
      exact ends.append given
    · intro unit member
      rcases List.mem_append.mp member with before | behind
      · exact unbroken plain unit before
      · rcases List.mem_cons.mp behind with rfl | behind
        · decide
        · rcases List.mem_cons.mp behind with rfl | behind
          · decide
          · exact line unit behind

theorem unixLines_line (line : ∀ unit ∈ text, unit ≠ 13 ∧ unit ≠ 10) :
    (unixLines text).map (fun unit => if unit = 10 then 0x20 else unit) = text := by
  induction text with
  | nil => rfl
  | cons unit rest ih =>
    obtain ⟨own, others⟩ := List.forall_mem_cons.mp line
    rw [unixLines_cons fun same => absurd same own.1, List.map_cons, ih others, if_neg own.2]

/-- Joined addresses are split into these. -/
theorem split_joined (plains : ∀ part ∈ parts, PlainAddress part) :
    splitMailAddressListHeader ((lit ", ").intercalate parts) = parts := by
  cases parts with
  | nil => rfl
  | cons text parts =>
    obtain ⟨plain, others⟩ := List.forall_mem_cons.mp plains
    obtain ⟨given, starts, ends, line⟩ := joined_line plain others
    have trimmed : Js.trim ((lit ", ").intercalate (text :: parts)) =
        (lit ", ").intercalate (text :: parts) := by
      rw [Js.trim, starts.trimStart, ends.trimEnd]
    unfold splitMailAddressListHeader
    dsimp only
    rw [unixLines_line line, trimmed, if_neg given]
    exact (headerParts_joined plain others).1

theorem joinAddresses_plain (plains : ∀ part ∈ parts, PlainAddress part) :
    joinAddresses parts = (lit ", ").intercalate parts := by
  have same : parts.map Js.trim = parts :=
    (List.map_congr_left fun part member => (plains part member).trim).trans (List.map_id _)
  have kept : parts.filter (· ≠ []) = parts :=
    List.filter_eq_self.mpr fun part member => decide_eq_true (plains part member).ne_nil
  rw [joinAddresses, same, kept]

/-- The addresses that are added are other people's, each once, and none that is there is missing. -/
theorem ccParts_spec (self : List JsString) (nonempty : ∀ text, PlainAddress text → lib.toLowerCase text ≠ [])
    (plains : ∀ part ∈ parts, PlainAddress part) (onTo : List JsString) :
    (∀ part ∈ ccParts lib self onTo parts, part ∈ parts) ∧
      ((ccParts lib self onTo parts).map lib.toLowerCase).Nodup ∧
        (∀ c ∈ (ccParts lib self onTo parts).map lib.toLowerCase, c ∉ self ∧ c ∉ onTo) ∧
          ∀ part ∈ parts, lib.toLowerCase part ∉ self → lib.toLowerCase part ∉ onTo →
            lib.toLowerCase part ∈ (ccParts lib self onTo parts).map lib.toLowerCase := by
  induction parts generalizing onTo with
  | nil => exact ⟨nofun, List.nodup_nil, nofun, nofun⟩
  | cons d rest ih =>
    obtain ⟨own, others⟩ := List.forall_mem_cons.mp plains
    unfold ccParts
    dsimp only
    rw [canonicalizeSenderId_plain own]
    split
    next skipped =>
      obtain ⟨within, once, apart, all⟩ := ih others onTo
      refine ⟨fun part member => List.mem_cons_of_mem _ (within part member), once, apart, ?_⟩
      refine List.forall_mem_cons.mpr ⟨fun foreign absent => ?_, all⟩
      rcases skipped with empty | isOwn | present
      · exact absurd empty (nonempty d own)
      · exact absurd isOwn foreign
      · exact absurd present absent
    next taken =>
      rw [not_or, not_or] at taken
      obtain ⟨within, once, apart, all⟩ := ih others (lib.toLowerCase d :: onTo)
      rw [List.map_cons]
      refine ⟨?_, ?_, ?_, ?_⟩
      · intro part member
        rcases List.mem_cons.mp member with rfl | later
        · exact List.mem_cons_self
        · exact List.mem_cons_of_mem _ (within part later)
      · exact List.nodup_cons.mpr ⟨fun again => (apart _ again).2 List.mem_cons_self, once⟩
      · refine List.forall_mem_cons.mpr ⟨taken.2, fun c member => ⟨(apart c member).1, fun there => ?_⟩⟩
        exact (apart c member).2 (List.mem_cons_of_mem _ there)
      · refine List.forall_mem_cons.mpr ⟨fun _ _ => List.mem_cons_self, fun part member foreign absent => ?_⟩
        by_cases same : lib.toLowerCase part = lib.toLowerCase d
        · rw [same]
          exact List.mem_cons_self
        · exact List.mem_cons_of_mem _
            (all part member foreign fun there => (List.mem_cons.mp there).elim same absent)

end Plain

structure PlainMessage (message : ReplyMessage) (replies : List JsString) : Prop where
  sender : PlainAddress message.fromAddr
  listed : message.replyTo = (lit ", ").intercalate replies
  replies : ∀ address ∈ replies, PlainAddress address
  toAddrs : ∀ address ∈ message.toAddrs, PlainAddress address
  ccAddrs : ∀ address ∈ message.ccAddrs, PlainAddress address

section Replies

variable (lib : Library) (self : List JsString) (message : ReplyMessage) (replies : List JsString)

/-- The addresses that the To field is filled with. -/
def replyHeads : List JsString :=
  if lib.toLowerCase message.fromAddr ∈ self then
    let others := message.toAddrs.filter (lib.toLowerCase · ∉ self)
    if others = [] then [message.fromAddr] else others
  else if replies = [] then [message.fromAddr]
  else replies

/-- The other participants: where replies go to another's message, and who has got it. -/
def otherParticipants : List JsString :=
  let target :=
    if lib.toLowerCase message.fromAddr ∈ self then []
    else if replies = [] then [message.fromAddr]
    else replies
  ((target ++ message.toAddrs ++ message.ccAddrs).map lib.toLowerCase).filter (· ∉ self)

/-- Each of the others is there once, and no own address unless there are no others. -/
structure AddressesAll (mine recipients others : List JsString) : Prop where
  each : ∀ address ∈ others, recipients.count address = 1
  own : ∀ address ∈ recipients, address ∈ mine → others = []

variable {lib self message replies} {heads more others : List JsString}

/-- What is added behind the first field makes no difference. -/
theorem addressesAll_append (shown : ∀ address ∈ heads, address ∉ self → address ∈ others)
    (foreign : ∀ address ∈ others, address ∉ self) (once : more.Nodup)
    (apart : ∀ address ∈ more, address ∉ self ∧ address ∉ heads)
    (covered : ∀ address ∈ others, address ∉ heads → address ∈ more) :
    AddressesAll self (heads ++ more) others ↔
      (heads.filter (· ∉ self)).Nodup ∧ ∀ address ∈ heads, address ∈ self → others = [] := by
  constructor
  · intro all
    refine ⟨List.nodup_iff_count_le_one.mpr fun address => ?_, fun address member =>
      all.own address (List.mem_append_left _ member)⟩
    by_cases member : address ∈ heads.filter (· ∉ self)
    · obtain ⟨there, isForeign⟩ := List.mem_filter.mp member
      have one := all.each address (shown address there (of_decide_eq_true isForeign))
      have counted : (heads.filter (· ∉ self)).count address = heads.count address :=
        List.count_filter isForeign
      rw [List.count_append] at one
      omega
    · rw [List.count_eq_zero_of_not_mem member]
      exact Nat.zero_le 1
  · rintro ⟨distinct, own⟩
    refine ⟨fun address other => ?_, fun address member isOwn => ?_⟩
    · have isForeign : decide (address ∉ self) = true := decide_eq_true (foreign address other)
      rw [List.count_append]
      by_cases there : address ∈ heads
      · have front := List.count_eq_one_of_mem distinct (List.mem_filter.mpr ⟨there, isForeign⟩)
        have counted : (heads.filter (· ∉ self)).count address = heads.count address :=
          List.count_filter isForeign
        rw [← counted, front, List.count_eq_zero_of_not_mem fun behind => (apart address behind).2 there]
      · rw [List.count_eq_zero_of_not_mem there, List.count_eq_one_of_mem once (covered address other there)]
    · rcases List.mem_append.mp member with front | behind
      · exact own address front isOwn
      · exact absurd isOwn (apart address behind).1

theorem canonical_map (plains : ∀ address ∈ heads, PlainAddress address) :
    heads.map (canonicalizeSenderId lib) = heads.map lib.toLowerCase :=
  List.map_congr_left fun address member => canonicalizeSenderId_plain (plains address member)

theorem replyHeads_plain (lib : Library) (self : List JsString) (plain : PlainMessage message replies) :
    ∀ address ∈ replyHeads lib self message replies, PlainAddress address := by
  have sender : ∀ address ∈ [message.fromAddr], PlainAddress address :=
    List.forall_mem_singleton.mpr plain.sender
  unfold replyHeads
  dsimp only
  split_ifs
  · exact sender
  · exact fun address member => plain.toAddrs address (List.mem_filter.mp member).1
  · exact sender
  · exact plain.replies

theorem replyMore_plain (lib : Library) (self : List JsString) (plain : PlainMessage message replies) :
    ∀ address ∈ (if lib.toLowerCase message.fromAddr ∈ self then [] else message.toAddrs) ++
      message.ccAddrs, PlainAddress address := by
  intro address member
  rcases List.mem_append.mp member with main | copy
  · split at main
    · cases main
    · exact plain.toAddrs address main
  · exact plain.ccAddrs address copy

theorem joined_eq_nil (plains : ∀ address ∈ heads, PlainAddress address) :
    (lit ", ").intercalate heads = [] ↔ heads = [] := by
  cases heads with
  | nil => exact iff_of_true rfl rfl
  | cons address rest =>
    obtain ⟨own, others⟩ := List.forall_mem_cons.mp plains
    exact iff_of_false (joined_line own others).1 (List.cons_ne_nil _ _)

theorem trim_joined (plains : ∀ address ∈ heads, PlainAddress address) :
    trim ((lit ", ").intercalate heads) = (lit ", ").intercalate heads := by
  cases heads with
  | nil => rfl
  | cons address rest =>
    obtain ⟨own, others⟩ := List.forall_mem_cons.mp plains
    obtain ⟨-, starts, ends, -⟩ := joined_line own others
    rw [Js.trim, starts.trimStart, ends.trimEnd]

/-- The addresses of a reply to all. -/
theorem recipients_replyAll (nonempty : ∀ text, PlainAddress text → lib.toLowerCase text ≠ [])
    (plain : PlainMessage message replies) (identities : List JsString) (accountEmail : JsString) :
    (buildReplyComposeDraft lib message identities accountEmail true).recipients lib =
      (replyHeads lib (ownAddresses lib identities accountEmail) message replies).map lib.toLowerCase ++
        (ccParts lib (ownAddresses lib identities accountEmail)
          ((replyHeads lib (ownAddresses lib identities accountEmail) message replies).map lib.toLowerCase)
          ((if lib.toLowerCase message.fromAddr ∈ ownAddresses lib identities accountEmail then []
            else message.toAddrs) ++ message.ccAddrs)).map lib.toLowerCase := by
  generalize known : ownAddresses lib identities accountEmail = self
  have heads := replyHeads_plain lib self plain
  have filtered : message.toAddrs.filter (canonicalizeSenderId lib · ∉ self) =
      message.toAddrs.filter (lib.toLowerCase · ∉ self) :=
    List.filter_congr fun address member => by rw [canonicalizeSenderId_plain (plain.toAddrs address member)]
  have others : ∀ address ∈ message.toAddrs.filter (lib.toLowerCase · ∉ self), PlainAddress address :=
    fun address member => plain.toAddrs address (List.mem_filter.mp member).1
  have toField : (buildReplyComposeDraft lib message identities accountEmail true).toField =
      (lit ", ").intercalate (replyHeads lib self message replies) := by
    unfold buildReplyComposeDraft replyHeads
    dsimp only
    rw [known, plain.sender.trim, canonicalizeSenderId_plain plain.sender, plain.listed,
      trim_joined plain.replies, filtered, joinAddresses_plain others]
    simp only [joined_eq_nil others, joined_eq_nil plain.replies, nonempty _ plain.sender, ne_eq,
      not_false_eq_true, true_and]
    split_ifs <;> simp
  have onTo : ((replyHeads lib self message replies).map lib.toLowerCase).filter (· ≠ []) =
      (replyHeads lib self message replies).map lib.toLowerCase :=
    List.filter_eq_self.mpr (List.forall_mem_map.mpr fun address member =>
      decide_eq_true (nonempty address (heads address member)))
  have added := replyMore_plain lib self plain
  have parts := ccParts_spec self nonempty added
    ((replyHeads lib self message replies).map lib.toLowerCase)
  have ccField : (buildReplyComposeDraft lib message identities accountEmail true).ccField =
      (lit ", ").intercalate (ccParts lib self ((replyHeads lib self message replies).map lib.toLowerCase)
        ((if lib.toLowerCase message.fromAddr ∈ self then [] else message.toAddrs) ++ message.ccAddrs)) := by
    rw [← joinAddresses_plain fun address member => added address (parts.1 address member), ← onTo,
      ← canonical_map heads, ← split_joined heads, ← toField]
    unfold buildReplyComposeDraft
    dsimp only
    rw [known, plain.sender.trim, canonicalizeSenderId_plain plain.sender]
    simp only [nonempty _ plain.sender, ne_eq, not_false_eq_true, true_and, if_true]
  have copies : ∀ address ∈ ccParts lib self ((replyHeads lib self message replies).map lib.toLowerCase)
      ((if lib.toLowerCase message.fromAddr ∈ self then [] else message.toAddrs) ++ message.ccAddrs),
      PlainAddress address := fun address member => added address (parts.1 address member)
  unfold ComposeDraft.recipients
  rw [toField, ccField, split_joined heads, split_joined copies, List.map_append, canonical_map heads,
    canonical_map copies]

/-- A reply to all addresses each of the others once, and no own address beside them, exactly if
this is so of the addresses that the To field is filled with. -/
theorem replyAll_iff (nonempty : ∀ text, PlainAddress text → lib.toLowerCase text ≠ [])
    (plain : PlainMessage message replies) (identities : List JsString) (accountEmail : JsString) :
    AddressesAll (ownAddresses lib identities accountEmail)
        ((buildReplyComposeDraft lib message identities accountEmail true).recipients lib)
        (otherParticipants lib (ownAddresses lib identities accountEmail) message replies) ↔
      (((replyHeads lib (ownAddresses lib identities accountEmail) message replies).map
          lib.toLowerCase).filter (· ∉ ownAddresses lib identities accountEmail)).Nodup ∧
        ∀ address ∈ (replyHeads lib (ownAddresses lib identities accountEmail) message replies).map
            lib.toLowerCase,
          address ∈ ownAddresses lib identities accountEmail →
            otherParticipants lib (ownAddresses lib identities accountEmail) message replies = [] := by
  rw [recipients_replyAll nonempty plain]
  generalize ownAddresses lib identities accountEmail = self
  have added := replyMore_plain lib self plain
  obtain ⟨-, once, apart, all⟩ := ccParts_spec self nonempty added
    ((replyHeads lib self message replies).map lib.toLowerCase)
  refine addressesAll_append ?_ ?_ once apart ?_
  · unfold replyHeads otherParticipants
    dsimp only
    split_ifs with own none' none'
    · rintro address member foreign
      rw [List.map_singleton, List.mem_singleton] at member
      exact absurd (member ▸ own) foreign
    · intro address member foreign
      obtain ⟨written, inTo, rfl⟩ := List.mem_map.mp member
      have within := (List.mem_filter.mp inTo).1
      exact List.mem_filter.mpr ⟨List.mem_map_of_mem (List.mem_append_left _
        (List.mem_append_right _ within)), decide_eq_true foreign⟩
    all_goals
      intro address member foreign
      obtain ⟨written, inTarget, rfl⟩ := List.mem_map.mp member
      exact List.mem_filter.mpr ⟨List.mem_map_of_mem (List.mem_append_left _
        (List.mem_append_left _ inTarget)), decide_eq_true foreign⟩
  · exact fun address member => of_decide_eq_true (List.mem_filter.mp member).2
  · intro address member absent
    obtain ⟨there, foreign⟩ := List.mem_filter.mp member
    obtain ⟨written, place, rfl⟩ := List.mem_map.mp there
    have isForeign := of_decide_eq_true foreign
    refine all written ?_ isForeign absent
    rcases List.mem_append.mp place with front | copy
    · refine List.mem_append_left _ ?_
      rcases List.mem_append.mp front with target | main
      · refine absurd (List.mem_map_of_mem ?_) absent
        unfold replyHeads
        split at target
        · cases target
        next foreignSender =>
          rw [if_neg foreignSender]
          exact target
      · split
        next own =>
          have kept : written ∈ message.toAddrs.filter (lib.toLowerCase · ∉ self) :=
            List.mem_filter.mpr ⟨main, decide_eq_true isForeign⟩
          refine absurd (List.mem_map_of_mem ?_) absent
          unfold replyHeads
          dsimp only
          rw [if_pos own, if_neg (List.ne_nil_of_mem kept)]
          exact kept
        next => exact main
    · exact List.mem_append_right _ copy

end Replies

/-- A message of one's own to one address in two spellings. -/
def twiceAddressed : ReplyMessage where
  fromAddr := lit "me@x.org"
  toAddrs := [lit "eve@y.org", lit "Eve@y.org"]

theorem plainAddress_of_all {name front letters : JsString}
    (given : name ≠ [] ∧ front ≠ [] ∧ 2 ≤ letters.length)
    (shape : name.all isLocal = true ∧ front.all isDomain = true ∧ letters.all isLetter = true) :
    PlainAddress (name ++ lit "@" ++ (front ++ lit "." ++ letters)) :=
  ⟨name, front, letters, rfl, given.1, List.all_eq_true.mp shape.1, given.2.1,
    List.all_eq_true.mp shape.2.1, given.2.2, List.all_eq_true.mp shape.2.2⟩

theorem eve_plain : PlainAddress (lit "eve@y.org") :=
  @plainAddress_of_all (lit "eve") (lit "y") (lit "org") (by decide) (by decide)

theorem me_plain : PlainAddress (lit "me@x.org") :=
  @plainAddress_of_all (lit "me") (lit "x") (lit "org") (by decide) (by decide)

theorem replyAll_once :
    AddressesAll (ownAddresses .plain [] (lit "me@x.org"))
      ((buildReplyComposeDraft .plain ⟨lit "eve@y.org", [], [lit "me@x.org"], [], [], [], [], []⟩ []
        (lit "me@x.org") true).recipients .plain)
      (otherParticipants .plain (ownAddresses .plain [] (lit "me@x.org"))
        ⟨lit "eve@y.org", [], [lit "me@x.org"], [], [], [], [], []⟩ []) :=
  (replyAll_iff (fun text plain empty => plain.ne_nil (List.map_eq_nil_iff.mp empty))
    ⟨eve_plain, rfl, List.forall_mem_nil _, List.forall_mem_singleton.mpr me_plain,
      List.forall_mem_nil _⟩ [] (lit "me@x.org")).mpr
    (by decide)

/-- The reply is addressed to both. -/
theorem replyAll_twice :
    (buildReplyComposeDraft .plain twiceAddressed [] (lit "me@x.org") true).toField =
        lit "eve@y.org, Eve@y.org" ∧
      ¬AddressesAll (ownAddresses .plain [] (lit "me@x.org"))
        ((buildReplyComposeDraft .plain twiceAddressed [] (lit "me@x.org") true).recipients .plain)
        (otherParticipants .plain (ownAddresses .plain [] (lit "me@x.org")) twiceAddressed []) := by
  refine ⟨by decide, fun all => ?_⟩
  have once := all.each (lit "eve@y.org") (by decide)
  revert once
  decide

end ElvishMail.Mailapp
