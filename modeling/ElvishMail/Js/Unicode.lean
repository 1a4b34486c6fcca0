import ElvishMail.Go.Runes
import ElvishMail.Js.Integers
import ElvishMail.Semantics.Coding

/-!
# One text in the browser and on the server

A Unicode text is a list of characters. The browser has it in UTF-16 and the server
in UTF-8. Both encodings are self-synchronizing, so searches give the same answers on
both sides. Trimming differs: `U+FEFF` is white space for JavaScript only, and
`U+0085` for Go only.
-/

namespace Js

open Semantics

def scalarBytes (value : Nat) : List Nat :=
  if value < 0x80 then [value]
  else if value < 0x800 then [0xC0 + value / 64, 0x80 + value % 64]
  else if value < 0x10000 then [0xE0 + value / 4096, 0x80 + value / 64 % 64, 0x80 + value % 64]
  else [0xF0 + value / 262144, 0x80 + value / 4096 % 64, 0x80 + value / 64 % 64, 0x80 + value % 64]

theorem scalar (letter : Char) :
    letter.toNat < 0xD800 ∨ (0xDFFF < letter.toNat ∧ letter.toNat < 0x110000) := letter.valid

theorem encodeRune_toNat (letter : Char) :
    (Go.encodeRune letter.toNat).map UInt8.toNat = scalarBytes letter.toNat := by
  have valid := scalar letter
  have inside : ¬(letter.toNat > 0x10FFFF ∨ (0xD800 ≤ letter.toNat ∧ letter.toNat ≤ 0xDFFF)) := by
    omega
  unfold Go.encodeRune scalarBytes
  rw [if_neg inside]
  dsimp only
  split
  · simp; omega
  split
  · simp; omega
  split
  · simp; omega
  · simp; omega

def startsRune (byte : UInt8) : Bool := !Go.inRange 0x80 0xBF byte

theorem scalarBytes_shape {value : Nat} (valid : value < 0x110000) :
    ∃ first others, scalarBytes value = first :: others ∧ (first < 0x80 ∨ 0xBF < first) ∧
      ∀ byte ∈ others, 0x80 ≤ byte ∧ byte ≤ 0xBF := by
  unfold scalarBytes
  split
  · exact ⟨_, _, rfl, by omega, by simp⟩
  split
  · exact ⟨_, _, rfl, by omega, by simp; omega⟩
  split
  · exact ⟨_, _, rfl, by omega, by simp; omega⟩
  · exact ⟨_, _, rfl, by omega, by simp; omega⟩

theorem scalarBytes_apart {left right : Nat} (leftValid : left < 0x110000) (rightValid : right < 0x110000)
    (begins : scalarBytes left <+: scalarBytes right) : left = right := by
  unfold scalarBytes at begins
  split_ifs at begins <;> simp only [List.cons_prefix_cons, List.nil_prefix, and_true,
    List.prefix_nil, reduceCtorEq, and_false] at begins <;> omega

theorem utf8_shape (letter : Char) :
    ∃ first others, Go.encodeRune letter.toNat = first :: others ∧ startsRune first = true ∧
      ∀ unit ∈ others, startsRune unit = false := by
  have valid : letter.toNat < 0x110000 := by
    have := scalar letter
    omega
  obtain ⟨first, others, bytes, start, inner⟩ := scalarBytes_shape valid
  rw [← encodeRune_toNat] at bytes
  obtain ⟨byte, rest, word, rfl, rfl⟩ := List.map_eq_cons_iff.mp bytes
  refine ⟨byte, rest, word, ?_, ?_⟩
  · simp [startsRune, Go.inRange]
    omega
  · intro unit member
    simpa [startsRune, Go.inRange] using inner unit.toNat (List.mem_map_of_mem member)

theorem utf8_apart (left right : Char)
    (begins : Go.encodeRune left.toNat <+: Go.encodeRune right.toNat) : left = right := by
  have leftValid := scalar left
  have rightValid := scalar right
  have bytes : scalarBytes left.toNat <+: scalarBytes right.toNat := by
    rw [← encodeRune_toNat, ← encodeRune_toNat]
    exact begins.map _
  exact Char.toNat_inj.mp (scalarBytes_apart (by omega) (by omega) bytes)

def utf8Code : Coding Char UInt8 where
  word letter := Go.encodeRune letter.toNat
  starts := startsRune
  shape := utf8_shape
  apart := utf8_apart

abbrev utf8 (text : List Char) : Go.GoString := utf8Code.encode text

def scalarUnits (value : Nat) : List Nat :=
  if value < 0x10000 then [value]
  else [0xD800 + (value - 0x10000) / 0x400, 0xDC00 + (value - 0x10000) % 0x400]

def utf16Code : Coding Char UInt16 where
  word letter := (scalarUnits letter.toNat).map Nat.toUInt16
  starts unit := !isLow unit
  shape letter := by
    have valid := scalar letter
    unfold scalarUnits
    split
    next small =>
      refine ⟨_, _, rfl, ?_, by simp⟩
      have same : letter.toNat.toUInt16.toNat = letter.toNat := by simp; omega
      simp only [isLow, UInt16.le_iff_toNat_le, same]
      simp
      omega
    next large =>
      refine ⟨(0xD800 + (letter.toNat - 0x10000) / 0x400).toUInt16,
        [(0xDC00 + (letter.toNat - 0x10000) % 0x400).toUInt16], rfl, ?_, ?_⟩
      · simp only [isLow, UInt16.le_iff_toNat_le]
        simp
        omega
      · intro unit member
        rw [List.mem_singleton.mp member]
        simp only [isLow, UInt16.le_iff_toNat_le]
        simp
        omega
  apart left right begins := by
    have leftValid := scalar left
    have rightValid := scalar right
    have units (letter : Char) :
        ((scalarUnits letter.toNat).map Nat.toUInt16).map UInt16.toNat = scalarUnits letter.toNat := by
      have valid := scalar letter
      unfold scalarUnits
      split
      · simp; omega
      · simp; omega
    have numbers := begins.map UInt16.toNat
    rw [units, units] at numbers
    refine Char.toNat_inj.mp ?_
    unfold scalarUnits at numbers
    split_ifs at numbers <;> simp only [List.cons_prefix_cons, List.nil_prefix, and_true,
      List.prefix_nil, reduceCtorEq, and_false] at numbers <;> omega

abbrev utf16 (text : List Char) : JsString := utf16Code.encode text

section Searches

variable (text pattern : List Char)

theorem startsWith_utf16 : startsWith (utf16 text) (utf16 pattern) = true ↔ pattern <+: text := by
  rw [startsWith, List.isPrefixOf_iff_prefix, Coding.encode_prefix_iff]

theorem hasPrefix_utf8 : Go.hasPrefix (utf8 text) (utf8 pattern) = true ↔ pattern <+: text := by
  rw [Go.hasPrefix, List.isPrefixOf_iff_prefix, Coding.encode_prefix_iff]

theorem endsWith_utf16 : endsWith (utf16 text) (utf16 pattern) = true ↔ pattern <:+ text := by
  rw [endsWith, List.isSuffixOf_iff_suffix, Coding.encode_suffix_iff]

theorem hasSuffix_utf8 : Go.hasSuffix (utf8 text) (utf8 pattern) = true ↔ pattern <:+ text := by
  rw [Go.hasSuffix, List.isSuffixOf_iff_suffix, Coding.encode_suffix_iff]

theorem indexOf_utf16 : (indexOf (utf16 text) (utf16 pattern)).isSome = true ↔ pattern <:+: text := by
  rw [indexOf, Go.findIdx?_tails, Coding.encode_infix_iff]

theorem index_utf8 : (Go.index (utf8 text) (utf8 pattern)).isSome = true ↔ pattern <:+: text := by
  rw [Go.index, Go.findIdx?_tails, Coding.encode_infix_iff]

theorem utf16_inj : utf16 text = utf16 pattern ↔ text = pattern :=
  Coding.encode_injective.eq_iff

theorem utf8_inj : utf8 text = utf8 pattern ↔ text = pattern :=
  Coding.encode_injective.eq_iff

end Searches

theorem leadByte_two {value : Nat} {first : UInt8} (low : 0x80 ≤ value) (high : value < 0x800)
    (is : first.toNat = 0xC0 + value / 64) :
    ∃ least most, Go.leadByte first = some (value / 64, least, most, 0) ∧
      least ≤ 0x80 + value % 64 ∧ 0x80 + value % 64 ≤ most := by
  unfold Go.leadByte
  rw [is]
  dsimp only
  rw [if_pos (by omega)]
  exact ⟨0x80, 0xBF, by simp, by omega, by omega⟩

theorem leadByte_three {value : Nat} {first : UInt8} (low : 0x800 ≤ value) (high : value < 0x10000)
    (valid : value < 0xD800 ∨ 0xDFFF < value) (is : first.toNat = 0xE0 + value / 4096) :
    ∃ least most, Go.leadByte first = some (value / 4096, least, most, 1) ∧
      least ≤ 0x80 + value / 64 % 64 ∧ 0x80 + value / 64 % 64 ≤ most := by
  unfold Go.leadByte
  rw [is]
  dsimp only
  rw [if_neg (by omega)]
  split
  next zero => exact ⟨0xA0, 0xBF, by simp; omega, by omega, by omega⟩
  next =>
    split
    next surrogates => exact ⟨0x80, 0x9F, by simp; omega, by omega, by omega⟩
    next =>
      rw [if_pos (by omega)]
      exact ⟨0x80, 0xBF, by simp, by omega, by omega⟩

theorem leadByte_four {value : Nat} {first : UInt8} (low : 0x10000 ≤ value) (high : value < 0x110000)
    (is : first.toNat = 0xF0 + value / 262144) :
    ∃ least most, Go.leadByte first = some (value / 262144, least, most, 2) ∧
      least ≤ 0x80 + value / 4096 % 64 ∧ 0x80 + value / 4096 % 64 ≤ most := by
  unfold Go.leadByte
  rw [is]
  dsimp only
  rw [if_neg (by omega), if_neg (by omega), if_neg (by omega), if_neg (by omega)]
  split
  next zero => exact ⟨0x90, 0xBF, by simp; omega, by omega, by omega⟩
  next =>
    split
    next => exact ⟨0x80, 0xBF, by simp, by omega, by omega⟩
    next =>
      rw [if_pos (by omega)]
      exact ⟨0x80, 0x8F, by simp; omega, by omega, by omega⟩

theorem decodeRune_encodeRune (letter : Char) (rest : Go.GoString) : ∃ first others,
    Go.encodeRune letter.toNat = first :: others ∧
      Go.decodeRune first (others ++ rest) = (letter.toNat, others.length + 1) := by
  have valid := scalar letter
  have bytes := encodeRune_toNat letter
  unfold scalarBytes at bytes
  split at bytes
  next small =>
    obtain ⟨first, others, word, is, none⟩ := List.map_eq_cons_iff.mp bytes
    rw [List.map_eq_nil_iff] at none
    subst none
    refine ⟨first, [], word, ?_⟩
    unfold Go.decodeRune
    rw [if_pos (by omega), is]
    rfl
  next large =>
    have lead {first : UInt8} {more : Nat} (is : first.toNat = more) (beyond : 0x80 ≤ more) :
        ¬first.toNat < 0x80 := by omega
    split at bytes
    next two =>
      obtain ⟨first, others, word, is, tail⟩ := List.map_eq_cons_iff.mp bytes
      obtain ⟨second, others, rfl, second_, none⟩ := List.map_eq_cons_iff.mp tail
      rw [List.map_eq_nil_iff] at none
      subst none
      refine ⟨first, [second], word, ?_⟩
      obtain ⟨least, most, leads, above, below⟩ := leadByte_two (by omega) two is
      have inside : Go.inRange least most second = true := by
        simp [Go.inRange]
        omega
      unfold Go.decodeRune
      rw [if_neg (lead is (by omega)), leads]
      dsimp only [List.cons_append, List.nil_append]
      rw [if_pos inside]
      exact Prod.ext (by show letter.toNat / 64 * 64 + (second.toNat - 0x80) = _; omega) rfl
    next three =>
      split at bytes
      next few =>
        obtain ⟨first, others, word, is, tail⟩ := List.map_eq_cons_iff.mp bytes
        obtain ⟨second, others, rfl, second_, tail⟩ := List.map_eq_cons_iff.mp tail
        obtain ⟨third, others, rfl, third_, none⟩ := List.map_eq_cons_iff.mp tail
        rw [List.map_eq_nil_iff] at none
        subst none
        refine ⟨first, [second, third], word, ?_⟩
        obtain ⟨least, most, leads, above, below⟩ := leadByte_three
          (by omega) few (by omega) is
        have inside : Go.inRange least most second = true := by
          simp [Go.inRange]
          omega
        have third' : Go.inRange 0x80 0xBF third = true := by
          simp [Go.inRange]
          omega
        unfold Go.decodeRune
        rw [if_neg (lead is (by omega)), leads]
        simp only [List.cons_append, List.nil_append, inside, if_true, Go.continuation, third']
        simp
        omega
      next =>
        obtain ⟨first, others, word, is, tail⟩ := List.map_eq_cons_iff.mp bytes
        obtain ⟨second, others, rfl, second_, tail⟩ := List.map_eq_cons_iff.mp tail
        obtain ⟨third, others, rfl, third_, tail⟩ := List.map_eq_cons_iff.mp tail
        obtain ⟨fourth, others, rfl, fourth_, none⟩ := List.map_eq_cons_iff.mp tail
        rw [List.map_eq_nil_iff] at none
        subst none
        refine ⟨first, [second, third, fourth], word, ?_⟩
        obtain ⟨least, most, leads, above, below⟩ := leadByte_four
          (by omega) (by omega) is
        have inside : Go.inRange least most second = true := by
          simp [Go.inRange]
          omega
        have third' : Go.inRange 0x80 0xBF third = true := by
          simp [Go.inRange]
          omega
        have fourth' : Go.inRange 0x80 0xBF fourth = true := by
          simp [Go.inRange]
          omega
        unfold Go.decodeRune
        rw [if_neg (lead is (by omega)), leads]
        simp only [List.cons_append, List.nil_append, inside, if_true, Go.continuation, third',
          fourth']
        simp
        omega

def runeOf (letter : Char) : Go.Rune := ⟨letter.toNat, Go.encodeRune letter.toNat⟩

theorem runes_utf8 (text : List Char) : Go.runes (utf8 text) = text.map runeOf := by
  induction text with
  | nil => rfl
  | cons letter rest ih =>
    obtain ⟨first, others, word, read⟩ := decodeRune_encodeRune letter (utf8 rest)
    have start : utf8 (letter :: rest) = first :: (others ++ utf8 rest) := by
      rw [utf8, Coding.encode_cons]
      exact congrArg (· ++ utf8 rest) word
    rw [start, Go.runes_cons, read, List.map_cons, ← ih, runeOf, word]
    simp

theorem joinRunes_map (text : List Char) : Go.joinRunes (text.map runeOf) = utf8 text := by
  rw [Go.joinRunes, List.flatMap_map]
  rfl

theorem toLower_utf8 {lib : Go.Library} {lower : Char → Char} {text : List Char}
    (each : ∀ letter ∈ text, lib.toLowerRune letter.toNat = (lower letter).toNat) :
    Go.toLower lib (utf8 text) = utf8 (text.map lower) := by
  have mapped : utf8 (text.map lower) = text.flatMap fun letter => utf8Code.word (lower letter) :=
    List.flatMap_map ..
  rw [Go.toLower, runes_utf8, List.flatMap_map, mapped]
  refine List.flatMap_congr fun letter member => ?_
  show Go.encodeRune (lib.toLowerRune letter.toNat) = Go.encodeRune (lower letter).toNat
  rw [each letter member]

/-- White space for `trim`. -/
def isWhiteChar (letter : Char) : Bool := letter.toNat < 0x10000 && isWhite letter.toNat.toUInt16

/-- White space for `strings.TrimSpace`. -/
def isSpaceChar (letter : Char) : Bool := Go.isSpace letter.toNat

def trimmed (blank : Char → Bool) (text : List Char) : List Char :=
  (text.dropWhile blank).rdropWhile blank

theorem trimmed_sublist {blank : Char → Bool} {text : List Char} : (trimmed blank text).Sublist text :=
  List.rdropWhile_prefix _ _ |>.sublist.trans (List.dropWhile_suffix _).sublist

theorem trimSpace_utf8 (text : List Char) :
    Go.trimSpace (utf8 text) = utf8 (trimmed isSpaceChar text) := by
  have runes := runes_utf8 text
  rw [Go.trimSpace, runes, List.dropWhile_map]
  show Go.joinRunes (List.rdropWhile _ _) = _
  rw [List.rdropWhile, ← List.map_reverse, List.dropWhile_map, ← List.map_reverse, joinRunes_map]
  rfl

theorem isWhite_word (letter : Char) :
    ∀ unit ∈ utf16Code.word letter, isWhite unit = isWhiteChar letter := by
  have valid := scalar letter
  intro unit member
  change unit ∈ (scalarUnits letter.toNat).map Nat.toUInt16 at member
  unfold scalarUnits at member
  split at member
  next small =>
    rw [List.map_singleton, List.mem_singleton] at member
    rw [member, isWhiteChar, decide_eq_true small, Bool.true_and]
  next large =>
    have visible : ∀ code : Nat, 0xD800 ≤ code → code < 0xE000 → isWhite code.toUInt16 = false := by
      intro code low high
      have same : code.toUInt16.toNat = code := by simp; omega
      unfold isWhite
      rw [same]
      simp
      omega
    rw [isWhiteChar, decide_eq_false large, Bool.false_and]
    obtain ⟨code, place, rfl⟩ := List.mem_map.mp member
    rcases List.mem_cons.mp place with rfl | low
    · exact visible _ (by omega) (by omega)
    · rw [List.mem_singleton.mp low]
      exact visible _ (by omega) (by omega)

theorem trim_utf16 (text : List Char) : trim (utf16 text) = utf16 (trimmed isWhiteChar text) := by
  rw [trim, trimStart, Coding.dropWhile_encode isWhite_word]
  exact Coding.rdropWhile_encode isWhite_word

theorem isWhiteChar_eq {letter : Char} (first : letter.toNat ≠ 0xFEFF) (second : letter.toNat ≠ 0x85) :
    isWhiteChar letter = isSpaceChar letter := by
  by_cases small : letter.toNat < 0x10000
  · have same : letter.toNat.toUInt16.toNat = letter.toNat := by simp; omega
    have noMark : (letter.toNat == 0xFEFF) = false := beq_false_of_ne first
    have noLine : (letter.toNat == 0x85) = false := beq_false_of_ne second
    simp only [isWhiteChar, isSpaceChar, isWhite, Go.isSpace, same, small, decide_true, Bool.true_and,
      noMark, noLine, Bool.or_false]
  · have visible : isSpaceChar letter = false := by
      simp [isSpaceChar, Go.isSpace]
      omega
    simp [isWhiteChar, small, visible]

theorem trimmed_alike {text : List Char}
    (plain : ∀ letter ∈ text, letter.toNat ≠ 0xFEFF ∧ letter.toNat ≠ 0x85) :
    trimmed isWhiteChar text = trimmed isSpaceChar text := by
  have same : ∀ letter ∈ text, isWhiteChar letter = isSpaceChar letter := fun letter member =>
    isWhiteChar_eq (plain letter member).1 (plain letter member).2
  have front : text.dropWhile isWhiteChar = text.dropWhile isSpaceChar := by
    clear plain
    induction text with
    | nil => rfl
    | cons letter rest ih =>
      rw [List.dropWhile_cons, List.dropWhile_cons, same letter (List.mem_cons_self ..),
        ih fun other member => same other (List.mem_cons_of_mem _ member)]
  have inside : ∀ letter ∈ text.dropWhile isSpaceChar, isWhiteChar letter = isSpaceChar letter :=
    fun letter member => same letter ((List.dropWhile_suffix _).subset member)
  rw [trimmed, trimmed, front]
  revert inside
  generalize text.dropWhile isSpaceChar = rest
  intro inside
  induction rest using List.reverseRecOn with
  | nil => rfl
  | append_singleton rest letter ih =>
    rw [List.rdropWhile_concat, List.rdropWhile_concat, inside letter (by simp),
      ih fun other member => inside other (by simp [member])]

end Js
