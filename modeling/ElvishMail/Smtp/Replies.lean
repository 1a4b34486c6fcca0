import ElvishMail.Go.Encoding
import ElvishMail.Go.Lines
import ElvishMail.Smtp.Client

/-!
# Replies on a connection

`Writer.MultiReply` and `Conn.read`, which reads each reply through a buffer of its own. What the
connection brings is cut into segments anywhere; a reply is read as it was written as long as the
server waits for the next command before it writes again, since nothing is left in the buffer then.
-/

namespace ElvishMail.Smtp

open Go

def Writer.reply (code : Int) (text : GoString) : GoString := itoa code ++ 0x20 :: (text ++ [cr, lf])

/-- `Writer.MultiReply`: every line has the code, and all but the last go on. -/
def Writer.multiReply (code : Int) : List GoString → GoString
  | [] => []
  | [line] => itoa code ++ 0x20 :: (line ++ [cr, lf])
  | line :: next :: rest =>
    itoa code ++ 0x2D :: (line ++ [cr, lf]) ++ Writer.multiReply code (next :: rest)

def cutLine (text : GoString) : Option (GoString × GoString) :=
  (indexByte text lf).map fun place => (text.take (place + 1), text.drop (place + 1))

theorem cutLine_some {text front rest : GoString} (found : cutLine text = some (front, rest)) :
    ∃ line, front = line ++ [lf] ∧ lf ∉ line ∧ text = line ++ lf :: rest := by
  obtain ⟨place, index, same⟩ := Option.map_eq_some_iff.mp found
  obtain ⟨line, tail, rfl, rfl, feedless⟩ := indexByte_eq_some index
  obtain ⟨rfl, rfl⟩ := Prod.mk.inj same
  refine ⟨line, ?_, feedless, ?_⟩
  · simp [List.take_append]
  · simp [List.drop_append]

theorem cutLine_none {text : GoString} : cutLine text = none ↔ lf ∉ text := by
  rw [cutLine, Option.map_eq_none_iff, indexByte_eq_none]

/-- `bufio.Reader.ReadString('\n')`: the line, what is left in the buffer, and what the
connection still brings. -/
def readString : GoString → List GoString → Option (GoString × GoString × List GoString)
  | buffered, [] => (cutLine buffered).map fun (line, more) => (line, more, [])
  | buffered, segment :: rest =>
    match cutLine buffered with
    | some (line, more) => some (line, more, segment :: rest)
    | none => readString (buffered ++ segment) rest

theorem readString_some {buffered front more : GoString} {segments rest : List GoString}
    (read : readString buffered segments = some (front, more, rest)) :
    ∃ line, front = line ++ [lf] ∧ lf ∉ line ∧
      buffered ++ segments.flatten = line ++ lf :: (more ++ rest.flatten) := by
  induction segments generalizing buffered with
  | nil =>
    obtain ⟨⟨_, _⟩, cut, same⟩ := Option.map_eq_some_iff.mp read
    obtain ⟨rfl, rfl, rfl⟩ := same
    obtain ⟨line, rfl, feedless, rfl⟩ := cutLine_some cut
    exact ⟨line, rfl, feedless, by simp⟩
  | cons segment others ih =>
    rw [readString] at read
    split at read
    next cut =>
      obtain ⟨rfl, rfl, rfl⟩ := read
      obtain ⟨line, rfl, feedless, rfl⟩ := cutLine_some cut
      exact ⟨line, rfl, feedless, by simp⟩
    next =>
      obtain ⟨line, rfl, feedless, whole⟩ := ih read
      exact ⟨line, rfl, feedless, by rw [List.flatten_cons, ← List.append_assoc, whole]⟩

theorem readString_none {buffered : GoString} {segments : List GoString} :
    readString buffered segments = none ↔ lf ∉ buffered ++ segments.flatten := by
  induction segments generalizing buffered with
  | nil => rw [readString, Option.map_eq_none_iff, cutLine_none, List.flatten_nil, List.append_nil]
  | cons segment others ih =>
    rw [readString]
    split
    next cut =>
      obtain ⟨line, -, -, rfl⟩ := cutLine_some cut
      simp
    next cut => rw [ih, List.flatten_cons, List.append_assoc]

/-- The loop of `Conn.read`, over what its buffer holds and what the connection brings; the
second result is what the connection still brings to the next buffer. -/
def readSegments (lib : Library) (ended : GoString) (buffered : GoString) (segments : List GoString)
    (firstCode : Int) (text : GoString) : Except GoError (Int × GoString) × List GoString :=
  match _ : readString buffered segments with
  | none => (.error (.plain ended), [])
  | some (line, more, rest) =>
    let line := trimRightCRLF line
    if line.length < 4 then (.error (.plain (ascii "short response " ++ lib.quote line)), rest)
    else match atoi (line.take 3) with
      | none =>
        (.error (.plain (ascii "strconv.Atoi: parsing " ++ lib.quote (line.take 3) ++
          ascii ": invalid syntax")), rest)
      | some code =>
        let firstCode := if firstCode = 0 then code else firstCode
        let text := text ++ line.drop 4
        if (line.drop 3).head? = some 0x20 then (.ok (firstCode, text), rest)
        else readSegments lib ended more rest firstCode (text ++ [lf])
termination_by (buffered ++ segments.flatten).length
decreasing_by
  obtain ⟨line, -, -, whole⟩ := readString_some ‹readString buffered segments = _›
  rw [whole]
  simp only [List.length_append, List.length_cons]
  omega

/-- `Conn.read`, over what the connection brings. -/
def readConn (lib : Library) (ended : GoString) (segments : List GoString) :
    Except GoError (Int × GoString) × List GoString :=
  readSegments lib ended [] segments 0 []

theorem completeLines_none {text : GoString} (feedless : lf ∉ text) {failed : Bool} :
    (Stream.mk text failed).completeLines = [] := by
  have whole : ∀ byte ∈ text, (byte == lf) = false := fun byte member =>
    beq_false_of_ne fun same => feedless (same ▸ member)
  have one : text.splitOnP (· == lf) = [text] := List.splitOnP_eq_singleton whole
  exact congrArg List.dropLast one

theorem completeLines_line {line rest : GoString} (feedless : lf ∉ line) {failed : Bool} :
    (Stream.mk (line ++ lf :: rest) failed).completeLines =
      line :: (Stream.mk rest failed).completeLines := by
  have whole : ∀ byte ∈ line, (byte == lf) = false := fun byte member =>
    beq_false_of_ne fun same => feedless (same ▸ member)
  have cut : (line ++ lf :: rest).splitOnP (· == lf) = line :: rest.splitOnP (· == lf) :=
    List.splitOnP_append_cons_of_forall_mem whole lf (beq_self_eq_true lf) rest
  exact (congrArg List.dropLast cut).trans
    (List.dropLast_cons_of_ne_nil (List.splitOnP_ne_nil _ _))

theorem trimRightCRLF_lf (line : GoString) : trimRightCRLF (line ++ [lf]) = trimRightCRLF line := by
  rw [trimRightCRLF, List.reverse_append]
  rfl

theorem readSegments_eq (lib : Library) (ended buffered : GoString) (segments : List GoString)
    (firstCode : Int) (text : GoString) :
    (readSegments lib ended buffered segments firstCode text).1 =
      readReply lib ended (Stream.mk (buffered ++ segments.flatten) false).completeLines firstCode
        text := by
  fun_induction readSegments lib ended buffered segments firstCode text with
  | case1 buffered segments firstCode text missing =>
    rw [completeLines_none (readString_none.mp missing), readReply]
  | case2 buffered segments firstCode text front more rest found line short =>
    obtain ⟨first, rfl, feedless, whole⟩ := readString_some found
    rw [whole, completeLines_line feedless, readReply, ← trimRightCRLF_lf, if_pos short]
  | case3 buffered segments firstCode text front more rest found line long unread =>
    obtain ⟨first, rfl, feedless, whole⟩ := readString_some found
    rw [whole, completeLines_line feedless, readReply, ← trimRightCRLF_lf]
    dsimp only
    rw [if_neg long, unread]
  | case4 buffered segments firstCode text front more rest found line long code understood first
      after last =>
      obtain ⟨cut, rfl, feedless, whole⟩ := readString_some found
      rw [whole, completeLines_line feedless, readReply, ← trimRightCRLF_lf]
      dsimp only
      rw [if_neg long, understood]
      dsimp only
      rw [if_pos last]
      rfl
  | case5 buffered segments firstCode text front more rest found line long code understood first
      after goesOn ih =>
      obtain ⟨cut, rfl, feedless, whole⟩ := readString_some found
      rw [ih, whole, completeLines_line feedless]
      conv_rhs => rw [readReply, ← trimRightCRLF_lf]
      dsimp only
      rw [if_neg long, understood]
      dsimp only
      rw [if_neg goesOn]
      rfl

def ThreeDigits (code : Int) : Prop := 100 ≤ code ∧ code ≤ 999

def IsReplyLine (line : GoString) : Prop := cr ∉ line ∧ lf ∉ line

theorem itoa_code {code : Int} (digits : ThreeDigits code) :
    (itoa code).length = 3 ∧ atoi (itoa code) = some code ∧ lf ∉ itoa code := by
  obtain ⟨low, high⟩ := digits
  obtain ⟨value, rfl⟩ := Int.eq_ofNat_of_zero_le (show 0 ≤ code by omega)
  have all : ∀ value ∈ List.range 1000, 100 ≤ value →
      (itoa value).length = 3 ∧ atoi (itoa value) = some (value : Int) ∧ lf ∉ itoa value := by
    decide +kernel
  exact all value (List.mem_range.mpr (by omega)) (by omega)

def replyLine (code : Int) (separator : UInt8) (line : GoString) : GoString :=
  itoa code ++ separator :: line

section Lines

variable {lib : Library} {ended : GoString} {code : Int} {separator : UInt8} {line : GoString}
  (digits : ThreeDigits code) (clean : IsReplyLine line) (solid : separator ≠ cr ∧ separator ≠ lf)

include clean solid in
theorem trimRightCRLF_replyLine :
    trimRightCRLF (replyLine code separator line ++ [cr] ++ [lf]) = replyLine code separator line := by
  let ends : UInt8 → Bool := fun byte => byte == 0x0D || byte == 0x0A
  have last : ∀ byte ∈ separator :: line, ends byte = false := by
    intro byte member
    have other : byte ≠ cr ∧ byte ≠ lf := by
      rcases List.mem_cons.mp member with rfl | inside
      · exact solid
      · exact ⟨fun same => clean.1 (same ▸ inside), fun same => clean.2 (same ▸ inside)⟩
    exact Bool.or_eq_false_iff.mpr ⟨beq_false_of_ne other.1, beq_false_of_ne other.2⟩
  calc trimRightCRLF (replyLine code separator line ++ [cr] ++ [lf])
      = (replyLine code separator line ++ [cr] ++ [lf]).rdropWhile ends := rfl
    _ = (replyLine code separator line).rdropWhile ends := by
        rw [List.rdropWhile_concat_pos _ _ _ rfl, List.rdropWhile_concat_pos _ _ _ rfl]
    _ = replyLine code separator line := by
        refine List.rdropWhile_eq_self_iff.mpr fun nonempty => Bool.eq_false_iff.mp (last _ ?_)
        have within : (replyLine code separator line).getLast nonempty =
            (separator :: line).getLast (List.cons_ne_nil _ _) :=
          List.getLast_append_of_ne_nil nonempty (List.cons_ne_nil _ _)
        rw [within]
        exact List.getLast_mem _

include digits clean solid in
theorem readSegments_line {buffered tail text : GoString} {segments : List GoString} {firstCode : Int}
    (whole : buffered ++ segments.flatten = replyLine code separator line ++ [cr, lf] ++ tail) :
    ∃ more rest, more ++ rest.flatten = tail ∧
      readSegments lib ended buffered segments firstCode text =
        if separator = 0x20 then
          (.ok (if firstCode = 0 then code else firstCode, text ++ line), rest)
        else
          readSegments lib ended more rest (if firstCode = 0 then code else firstCode)
            (text ++ line ++ [lf]) := by
  obtain ⟨width, understood, noFeed⟩ := itoa_code digits
  have split : buffered ++ segments.flatten = (replyLine code separator line ++ [cr]) ++ lf :: tail := by
    rw [whole]
    simp
  have feedless : lf ∉ replyLine code separator line ++ [cr] := by
    simp only [replyLine, List.mem_append, List.mem_cons, List.not_mem_nil, or_false, not_or]
    exact ⟨⟨noFeed, fun same => solid.2 same.symm, clean.2⟩, by decide⟩
  cases found : readString buffered segments with
  | none =>
    refine absurd (readString_none.mp found) (not_not_intro ?_)
    rw [split]
    exact List.mem_append_right _ List.mem_cons_self
  | some read =>
    obtain ⟨front, more, rest⟩ := read
    obtain ⟨cut, rfl, other, same⟩ := readString_some found
    obtain ⟨rfl, left⟩ := first_unique (split.symm.trans same) feedless other
    refine ⟨more, rest, left.symm, ?_⟩
    have short : ¬(replyLine code separator line).length < 4 := by
      rw [replyLine, List.length_append, width, List.length_cons]
      omega
    have front : (replyLine code separator line).take 3 = itoa code := by
      rw [replyLine, ← width, List.take_left]
    have mark : ((replyLine code separator line).drop 3).head? = some separator := by
      rw [replyLine, ← width, List.drop_left]
      rfl
    have words : (replyLine code separator line).drop 4 = line := by
      have four : 4 = (itoa code).length + 1 := by rw [width]
      rw [replyLine, four, ← List.drop_drop, List.drop_left]
      rfl
    rw [readSegments]
    split
    next missing => simp [found] at missing
    next read =>
      obtain ⟨rfl, rfl, rfl⟩ := found.symm.trans read
      dsimp only
      rw [trimRightCRLF_replyLine clean solid, if_neg short, front, understood]
      dsimp only
      rw [mark, words]
      by_cases last : separator = 0x20
      · rw [if_pos last, if_pos (congrArg some last)]
      · rw [if_neg last, if_neg fun same => last (Option.some.inj same)]

end Lines

theorem readSegments_multiReply {lib : Library} {ended : GoString} {code : Int}
    (digits : ThreeDigits code) {lines : List GoString} (some : lines ≠ [])
    (clean : ∀ line ∈ lines, IsReplyLine line) {buffered text : GoString} {segments : List GoString}
    {firstCode : Int} (first : firstCode = 0 ∨ firstCode = code)
    (whole : buffered ++ segments.flatten = Writer.multiReply code lines) :
    ∃ rest, rest.flatten = [] ∧
      readSegments lib ended buffered segments firstCode text =
        (.ok (code, text ++ join lines [lf]), rest) := by
  have kept : (if firstCode = 0 then code else firstCode) = code := by
    rcases first with rfl | rfl
    · rfl
    · exact ite_self _
  induction lines generalizing buffered text segments firstCode with
  | nil => exact absurd rfl some
  | cons line others ih =>
    obtain ⟨plain, later⟩ := List.forall_mem_cons.mp clean
    cases others with
    | nil =>
      obtain ⟨more, rest, left, read⟩ := @readSegments_line lib ended code 0x20 line digits plain
        (by decide) buffered [] text segments firstCode (by simp [whole, Writer.multiReply, replyLine])
      refine ⟨rest, (List.append_eq_nil_iff.mp left).2, ?_⟩
      rw [read, if_pos rfl, kept, join, List.intercalate_singleton]
    | cons next others =>
      obtain ⟨more, rest, left, read⟩ := @readSegments_line lib ended code 0x2D line digits plain
        (by decide) buffered (Writer.multiReply code (next :: others)) text segments firstCode
        (by simp [whole, Writer.multiReply, replyLine])
      obtain ⟨last, none, result⟩ := @ih (List.cons_ne_nil _ _) later more
        (text ++ line ++ [lf]) rest code (.inr rfl) left (ite_self _)
      refine ⟨last, none, ?_⟩
      rw [read, if_neg (by decide), kept, result, join, join, List.intercalate_cons_cons]
      simp only [List.append_assoc]

/-- One reply of a server, to one command, as it is cut on its way. -/
structure Turn where
  code : Int
  lines : List GoString
  segments : List GoString
  digits : ThreeDigits code
  nonempty : lines ≠ []
  clean : ∀ line ∈ lines, IsReplyLine line
  written : segments.flatten = Writer.multiReply code lines

def Turn.said (turn : Turn) : Int × GoString := (turn.code, join turn.lines [lf])

/-- A session in lock-step: the server writes one reply to each command, and the client reads
before it writes the next. What is read of each, and what the connection still brings. -/
def lockStep (lib : Library) (ended : GoString) :
    List GoString → List Turn → List (Except GoError (Int × GoString)) × List GoString
  | pending, [] => ([], pending)
  | pending, turn :: turns =>
    let (reply, left) := readConn lib ended (pending ++ turn.segments)
    let (replies, last) := lockStep lib ended left turns
    (reply :: replies, last)

theorem readConn_turn (lib : Library) (ended : GoString) (turn : Turn) {pending : List GoString}
    (nothing : pending.flatten = []) :
    ∃ left, left.flatten = [] ∧
      readConn lib ended (pending ++ turn.segments) = (.ok turn.said, left) :=
  readSegments_multiReply turn.digits turn.nonempty turn.clean (.inl rfl)
    (by rw [List.nil_append, List.flatten_append, nothing, List.nil_append, turn.written])

theorem lockStep_replies (lib : Library) (ended : GoString) (turns : List Turn)
    {pending : List GoString} (nothing : pending.flatten = []) :
    (lockStep lib ended pending turns).1 = turns.map fun turn => .ok turn.said := by
  induction turns generalizing pending with
  | nil => rfl
  | cons turn turns ih =>
    obtain ⟨left, none, read⟩ := readConn_turn lib ended turn nothing
    rw [lockStep, read, List.map_cons]
    exact congrArg _ (ih none)

def extension (lib : Library) (line : GoString) : Option (GoString × GoString) :=
  let line := trimSpace line
  if line = [] then none
  else some (match indexByte line 0x20 with
    | none => (toUpper lib line, [])
    | some index => (toUpper lib (line.take index), line.drop (index + 1)))

def keyword (lib : Library) (line : GoString) : Option GoString := (extension lib line).map Prod.fst

theorem parseExtensions_join (lib : Library) {lines : List GoString} (some : lines ≠ [])
    (clean : ∀ line ∈ lines, IsReplyLine line) :
    parseExtensions lib (join lines [lf]) = (lines.filterMap (extension lib)).reverse := by
  have cut : (join lines [lf]).splitOnP (· == 0x0A) = lines :=
    List.splitOn_intercalate lf (fun line member => (clean line member).2) some
  rw [parseExtensions, cut, List.map_reverse]
  congr 1
  rw [List.filter_map, List.map_map]
  clear cut some clean
  induction lines with
  | nil => rfl
  | cons line lines ih =>
    rw [List.filterMap_cons, List.filter_cons, extension]
    dsimp only [Function.comp_apply]
    by_cases blank : trimSpace line = []
    · rw [if_pos blank, if_neg (by simp [blank]), ih]
    · rw [if_neg blank, if_pos (by simp [blank]), List.map_cons, ih]
      rfl

def Sees (exts : List (GoString × GoString)) (name : GoString) : Prop := (exts.lookup name).isSome = true

theorem sees_parseExtensions (lib : Library) {lines : List GoString} (some : lines ≠ [])
    (clean : ∀ line ∈ lines, IsReplyLine line) (name : GoString) :
    Sees (parseExtensions lib (join lines [lf])) name ↔
      ∃ line ∈ lines, keyword lib line = .some name := by
  rw [Sees, parseExtensions_join lib some clean, List.lookup_isSome_iff]
  constructor
  · rintro ⟨entry, member, same⟩
    obtain ⟨line, listed, read⟩ := List.mem_filterMap.mp (List.mem_reverse.mp member)
    exact ⟨line, listed, by rw [keyword, read, beq_iff_eq.mp same]; rfl⟩
  · rintro ⟨line, listed, read⟩
    obtain ⟨entry, named, rfl⟩ := Option.map_eq_some_iff.mp read
    exact ⟨entry, List.mem_reverse.mpr (List.mem_filterMap.mpr ⟨line, listed, named⟩),
      beq_self_eq_true _⟩

def isKeywordByte (byte : UInt8) : Bool :=
  (0x41 ≤ byte.toNat && byte.toNat ≤ 0x5A) || (0x61 ≤ byte.toNat && byte.toNat ≤ 0x7A) ||
    (0x30 ≤ byte.toNat && byte.toNat ≤ 0x39) || byte == 0x2D

def upperByte (byte : UInt8) : UInt8 :=
  if 0x61 ≤ byte.toNat ∧ byte.toNat ≤ 0x7A then byte - 0x20 else byte

/-- A line advertises a keyword: it is the keyword, in any letter case, alone or with
parameters after a space. -/
def Advertises (line name : GoString) : Prop :=
  ∃ word tail, line = word ++ tail ∧ (tail = [] ∨ tail.head? = some 0x20) ∧ word ≠ [] ∧
    (∀ byte ∈ word, isKeywordByte byte = true) ∧ name = word.map upperByte

theorem keyword_bytes {word : GoString} (letters : ∀ byte ∈ word, isKeywordByte byte = true) :
    ∀ byte ∈ word, byte.toNat < 0x80 ∧ isSpace byte.toNat = false ∧ byte ≠ 0x20 ∧
      encodeRune (if 97 ≤ byte.toNat ∧ byte.toNat ≤ 122 then byte.toNat - 32 else byte.toNat) =
        [upperByte byte] := by
  have every : ∀ byte : UInt8, isKeywordByte byte = true →
      byte.toNat < 0x80 ∧ isSpace byte.toNat = false ∧ byte ≠ 0x20 ∧
        encodeRune (if 97 ≤ byte.toNat ∧ byte.toNat ≤ 122 then byte.toNat - 32 else byte.toNat) =
          [upperByte byte] := forall_byte (by decide +kernel)
  exact fun byte member => every byte (letters byte member)

theorem toUpper_keyword (lib : Library) {word : GoString}
    (letters : ∀ byte ∈ word, isKeywordByte byte = true) : toUpper lib word = word.map upperByte := by
  have plain := keyword_bytes letters
  clear letters
  induction word with
  | nil => rfl
  | cons byte word ih =>
    obtain ⟨⟨small, -, -, upper⟩, others⟩ := List.forall_mem_cons.mp plain
    have later := ih others
    rw [toUpper] at later ⊢
    rw [runes_ascii small, List.flatMap_cons, List.map_cons, later, Library.toUpperRune, if_pos small,
      upper]
    rfl

theorem rdropWhile_solid {Item : Type} {drops : Item → Bool} {front : List Item}
    (solid : ∀ item ∈ front, drops item = false) (rest : List Item) :
    (front ++ rest).rdropWhile drops = front ++ rest.rdropWhile drops := by
  induction front with
  | nil => rfl
  | cons first front ih =>
    obtain ⟨stays, others⟩ := List.forall_mem_cons.mp solid
    rw [List.cons_append, rdropWhile_cons, if_neg (by simp [stays]), ih others]
    rfl

theorem trimSpace_word {word tail : GoString} (nonempty : word ≠ [])
    (solid : ∀ byte ∈ word, byte.toNat < 0x80 ∧ isSpace byte.toNat = false)
    (apart : tail = [] ∨ tail.head? = some 0x20) :
    ∃ rest, trimSpace (word ++ tail) = word ++ rest ∧ (rest = [] ∨ rest.head? = some 0x20) := by
  let blank : Rune → Bool := fun rune => isSpace rune.value
  let marks := word.map fun byte => (⟨byte.toNat, [byte]⟩ : Rune)
  have split : runes (word ++ tail) = marks ++ runes tail :=
    runes_ascii_append (fun byte member => (solid byte member).1) tail
  have visible : ∀ rune ∈ marks, blank rune = false := by
    intro rune member
    obtain ⟨byte, inside, rfl⟩ := List.mem_map.mp member
    exact (solid byte inside).2
  have front : (marks ++ runes tail).dropWhile blank = marks ++ runes tail := by
    obtain ⟨first, others, rfl⟩ := List.exists_cons_of_ne_nil nonempty
    exact List.dropWhile_cons_of_neg (by simp [visible _ List.mem_cons_self])
  have whole : joinRunes marks = word := by
    have alone := runes_ascii_append (fun byte member => (solid byte member).1) []
    rw [List.append_nil] at alone
    have same : marks = runes word := by rw [alone]; exact (List.append_nil _).symm
    rw [same, joinRunes_runes]
  refine ⟨joinRunes ((runes tail).rdropWhile blank), ?_, ?_⟩
  · calc trimSpace (word ++ tail)
        = joinRunes (((runes (word ++ tail)).dropWhile blank).rdropWhile blank) := rfl
      _ = joinRunes (marks ++ (runes tail).rdropWhile blank) := by
          rw [split, front, rdropWhile_solid visible]
      _ = word ++ joinRunes ((runes tail).rdropWhile blank) := by
          rw [joinRunes, List.flatMap_append, ← joinRunes, whole]
          rfl
  · rcases apart with rfl | space
    · exact .inl rfl
    · obtain ⟨more, rfl⟩ := List.head?_eq_some_iff.mp space
      rw [runes_ascii (by decide), rdropWhile_cons]
      split
      · exact .inl rfl
      · exact .inr rfl

theorem keyword_of_advertises (lib : Library) {line name : GoString} (advertises : Advertises line name) :
    keyword lib line = some name := by
  obtain ⟨word, tail, rfl, apart, nonempty, letters, rfl⟩ := advertises
  have plain := keyword_bytes letters
  obtain ⟨rest, trimmed, after⟩ :=
    trimSpace_word nonempty (fun byte member => ⟨(plain byte member).1, (plain byte member).2.1⟩) apart
  rw [keyword, extension, trimmed, if_neg (by simp [nonempty])]
  have absent : (0x20 : UInt8) ∉ word := fun member => (plain _ member).2.2.1 rfl
  rcases after with rfl | space
  · rw [List.append_nil, indexByte_eq_none.mpr absent, ← toUpper_keyword lib letters]
    rfl
  · obtain ⟨more, rfl⟩ : ∃ more, rest = 0x20 :: more := List.head?_eq_some_iff.mp space
    have place : indexByte (word ++ 0x20 :: more) 0x20 = some word.length := by
      have before : word.findIdx? (· == 0x20) = none := indexByte_eq_none.mpr absent
      rw [indexByte, List.findIdx?_append, before]
      simp [List.findIdx?_cons]
    rw [place]
    dsimp only
    rw [List.take_left, toUpper_keyword lib letters]
    rfl

/-- Every reply is read as it was written, alone and in its turn, however it is cut; what an
EHLO reply advertises is seen, and nothing that is not the first word of one of its lines. -/
theorem replies_read (lib : Library) (ended : GoString) :
    (∀ code lines segments, ThreeDigits code → lines ≠ [] →
      (∀ line ∈ lines, IsReplyLine line) → segments.flatten = Writer.multiReply code lines →
      (readConn lib ended segments).1 = .ok (code, join lines [lf])) ∧
    (∀ code text segments, ThreeDigits code → IsReplyLine text →
      segments.flatten = Writer.reply code text → (readConn lib ended segments).1 = .ok (code, text)) ∧
    (∀ turns : List Turn,
      (lockStep lib ended [] turns).1 = turns.map fun turn => .ok (turn.code, join turn.lines [lf])) ∧
    (∀ code greeting advertised segments text, ThreeDigits code →
      (∀ line ∈ greeting :: advertised, IsReplyLine line) →
      segments.flatten = Writer.multiReply code (greeting :: advertised) →
      (readConn lib ended segments).1 = .ok (code, text) →
      (∀ line ∈ advertised, ∀ name, Advertises line name ∨ keyword lib line = some name →
        Sees (parseExtensions lib text) name) ∧
      ∀ name, Sees (parseExtensions lib text) name →
        ∃ line ∈ greeting :: advertised, keyword lib line = some name) := by
  have whole (code : Int) (lines segments : List GoString) (digits : ThreeDigits code)
      (some : lines ≠ []) (clean : ∀ line ∈ lines, IsReplyLine line)
      (written : segments.flatten = Writer.multiReply code lines) :
      (readConn lib ended segments).1 = .ok (code, join lines [lf]) := by
    obtain ⟨left, -, read⟩ := @readConn_turn lib ended
      ⟨code, lines, segments, digits, some, clean, written⟩ [] rfl
    exact congrArg Prod.fst read
  refine ⟨whole, ?_, fun turns => lockStep_replies lib ended turns rfl, ?_⟩
  · intro code text segments digits clean written
    rw [whole code [text] segments digits (List.cons_ne_nil _ _) (List.forall_mem_singleton.mpr clean)
      written, join, List.intercalate_singleton]
  · intro code greeting advertised segments text digits clean written read
    have same := (whole code _ segments digits (List.cons_ne_nil _ _) clean written).symm.trans read
    obtain rfl : join (greeting :: advertised) [lf] = text := (Prod.mk.inj (Except.ok.inj same)).2
    have seen := sees_parseExtensions lib (List.cons_ne_nil greeting advertised) clean
    constructor
    · intro line member name named
      refine (seen name).mpr ⟨line, List.mem_cons_of_mem _ member, ?_⟩
      exact named.elim (keyword_of_advertises lib) id
    · intro name sees
      exact (seen name).mp sees

theorem replies_read_cut :
    (readConn .plain (ascii "EOF")
        [ascii "250-mail.x.org\r", ascii "\n250 start", ascii "tls\r\n"]).1 =
      .ok (250, ascii "mail.x.org\nstarttls") ∧
    Sees (parseExtensions .plain (ascii "mail.x.org\nstarttls")) (ascii "STARTTLS") := by
  obtain ⟨whole, -, -, seen⟩ := replies_read .plain (ascii "EOF")
  have digits : ThreeDigits 250 := by
    unfold ThreeDigits
    decide
  have clean : ∀ line ∈ [ascii "mail.x.org", ascii "starttls"], IsReplyLine line := by
    unfold IsReplyLine
    decide
  have written : [ascii "250-mail.x.org\r", ascii "\n250 start", ascii "tls\r\n"].flatten =
      Writer.multiReply 250 [ascii "mail.x.org", ascii "starttls"] := by
    decide
  have read := whole 250 _ _ digits (List.cons_ne_nil _ _) clean written
  have advertises : Advertises (ascii "starttls") (ascii "STARTTLS") :=
    ⟨ascii "starttls", [], by decide +kernel⟩
  exact ⟨read, (seen 250 _ _ _ _ digits clean written read).1 _ (List.mem_singleton.mpr rfl) _
    (.inl advertises)⟩

/-- A reply without lines is not written, so that nothing is read; and the greeting of an EHLO
reply is taken for a keyword. -/
theorem empty_reply_unread :
    (¬∀ code lines segments, ThreeDigits code → (∀ line ∈ lines, IsReplyLine line) →
      segments.flatten = Writer.multiReply code lines →
      (readConn .plain (ascii "EOF") segments).1 = .ok (code, join lines [lf])) ∧
    Sees (parseExtensions .plain (join [ascii "mail.x.org greets", ascii "AUTH PLAIN"] [lf]))
      (ascii "MAIL.X.ORG") := by
  constructor
  · intro whole
    have read := whole 250 [] [] (by unfold ThreeDigits; decide) nofun rfl
    rw [readConn, readSegments_eq] at read
    cases read
  · unfold Sees
    decide

end ElvishMail.Smtp
