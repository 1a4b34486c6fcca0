import Mathlib.Data.List.DropRight
import Mathlib.Data.List.Infix

/-!
# Texts under a self-synchronizing code

A code writes each letter as a word of units. In a self-synchronizing code no word
begins another, and a word is recognized by its first unit, which stands nowhere else
in a word. What two texts have in common can then be seen in their encodings: prefixes,
suffixes and infixes are those of the texts. So two codes give the same answers to
every search.
-/

namespace Semantics

universe u v

/-- A code in which words can be told apart wherever one starts to read. -/
structure Coding (Letter : Type u) (Unit : Type v) where
  word : Letter → List Unit
  starts : Unit → Bool
  /-- The first unit of a word, and no other, starts a word. -/
  shape : ∀ letter, ∃ first others, word letter = first :: others ∧ starts first = true ∧
    ∀ unit ∈ others, starts unit = false
  /-- No word begins another. -/
  apart : ∀ left right, word left <+: word right → left = right

namespace Coding

variable {Letter : Type u} {Unit : Type v} (code : Coding Letter Unit)

def encode (text : List Letter) : List Unit := text.flatMap code.word

variable {code} {left right text : List Letter} {before behind : List Unit}

@[simp] theorem encode_nil : code.encode [] = [] := rfl

@[simp] theorem encode_cons (letter : Letter) :
    code.encode (letter :: text) = code.word letter ++ code.encode text := rfl

@[simp] theorem encode_append : code.encode (left ++ right) = code.encode left ++ code.encode right :=
  List.flatMap_append

theorem word_ne_nil (letter : Letter) : code.word letter ≠ [] := by
  obtain ⟨first, others, word, -⟩ := code.shape letter
  rw [word]
  exact List.cons_ne_nil first others

@[simp] theorem encode_eq_nil : code.encode text = [] ↔ text = [] := by
  cases text with
  | nil => simp
  | cons letter rest => simp [word_ne_nil]

theorem encode_prefix_iff : code.encode left <+: code.encode right ↔ left <+: right := by
  constructor
  · intro begins
    induction left generalizing right with
    | nil => exact List.nil_prefix
    | cons letter left ih =>
      cases right with
      | nil =>
        rw [encode_nil, List.prefix_nil, encode_eq_nil] at begins
        cases begins
      | cons other right =>
        rw [encode_cons, encode_cons] at begins
        have same : letter = other := by
          have onLeft : code.word letter <+: code.word other ++ code.encode right :=
            (List.prefix_append _ _).trans begins
          have onRight : code.word other <+: code.word other ++ code.encode right :=
            List.prefix_append _ _
          rcases List.prefix_or_prefix_of_prefix onLeft onRight with shorter | longer
          · exact code.apart _ _ shorter
          · exact (code.apart _ _ longer).symm
        subst same
        rw [List.prefix_append_right_inj] at begins
        exact List.cons_prefix_cons.mpr ⟨rfl, ih begins⟩
  · rintro ⟨rest, rfl⟩
    rw [encode_append]
    exact List.prefix_append _ _

theorem encode_injective : Function.Injective code.encode := by
  intro left right same
  have forth : left <+: right := by
    rw [← encode_prefix_iff, same]
  have back : right <+: left := by
    rw [← encode_prefix_iff, same]
  exact forth.eq_of_length (le_antisymm forth.length_le back.length_le)

theorem split_at_start (split : code.encode text = before ++ behind)
    (start : ∀ unit ∈ behind.head?, code.starts unit = true) :
    ∃ left right, text = left ++ right ∧ before = code.encode left ∧ behind = code.encode right := by
  induction text generalizing before with
  | nil =>
    obtain ⟨rfl, rfl⟩ := List.append_eq_nil_iff.mp split.symm
    exact ⟨[], [], rfl, rfl, rfl⟩
  | cons letter rest ih =>
    cases before with
    | nil => exact ⟨[], letter :: rest, rfl, rfl, split.symm⟩
    | cons unit before =>
      obtain ⟨first, others, word, -, inner⟩ := code.shape letter
      rw [encode_cons, word, List.cons_append, List.cons_append] at split
      obtain ⟨rfl, tails⟩ := List.cons_eq_cons.mp split
      rcases List.append_eq_append_iff.mp tails with ⟨gap, rfl, onward⟩ | ⟨gap, same, onward⟩
      · obtain ⟨left, right, rfl, rfl, rfl⟩ := ih onward
        exact ⟨letter :: left, right, rfl, by simp [word], rfl⟩
      · cases gap with
        | nil =>
          rw [List.append_nil] at same
          rw [List.nil_append] at onward
          exact ⟨[letter], rest, rfl, by simp [word, same], onward⟩
        | cons unit gap =>
          have inside : unit ∈ others := by simp [same]
          have wrong := start unit (by simp [onward])
          rw [inner unit inside] at wrong
          cases wrong

theorem starts_encode : ∀ unit ∈ (code.encode text).head?, code.starts unit = true := by
  cases text with
  | nil => nofun
  | cons letter rest =>
    obtain ⟨first, others, word, starts, -⟩ := code.shape letter
    intro unit head
    rw [encode_cons, word] at head
    cases head
    exact starts

theorem encode_suffix_iff : code.encode left <:+ code.encode right ↔ left <:+ right := by
  constructor
  · rintro ⟨before, split⟩
    obtain ⟨lead, rest, rfl, -, same⟩ := split_at_start split.symm starts_encode
    rw [encode_injective same]
    exact List.suffix_append _ _
  · rintro ⟨lead, rfl⟩
    rw [encode_append]
    exact List.suffix_append _ _

theorem encode_infix_iff : code.encode left <:+: code.encode right ↔ left <:+: right := by
  constructor
  · rintro ⟨before, behind, split⟩
    by_cases empty : left = []
    · rw [empty]
      exact List.nil_infix
    · have start : ∀ unit ∈ (code.encode left ++ behind).head?, code.starts unit = true := by
        intro unit first
        rw [List.head?_append_of_ne_nil _ (by simpa using empty)] at first
        exact starts_encode unit first
      rw [List.append_assoc] at split
      obtain ⟨lead, rest, rfl, -, same⟩ := split_at_start split.symm start
      have begins : left <+: rest := encode_prefix_iff.mp (same ▸ List.prefix_append _ _)
      exact begins.isInfix.trans (List.suffix_append _ _).isInfix
  · rintro ⟨lead, rest, rfl⟩
    rw [encode_append, encode_append]
    exact ⟨_, _, rfl⟩

section Trimming

variable {white : Unit → Bool} {blank : Letter → Bool}

theorem word_first (letter : Letter) : ∃ first others, code.word letter = first :: others := by
  obtain ⟨first, others, word, -⟩ := code.shape letter
  exact ⟨first, others, word⟩

theorem dropWhile_encode (alike : ∀ letter, ∀ unit ∈ code.word letter, white unit = blank letter) :
    (code.encode text).dropWhile white = code.encode (text.dropWhile blank) := by
  induction text with
  | nil => rfl
  | cons letter rest ih =>
    rw [encode_cons, List.dropWhile_cons]
    split
    next drops =>
      rw [List.dropWhile_append_of_pos fun unit member => (alike letter unit member).trans drops,
        ih]
    next stays =>
      obtain ⟨first, others, word⟩ := code.word_first letter
      have kept : ¬white first = true := by
        rwa [alike letter first (by simp [word])]
      rw [encode_cons, word, List.cons_append, List.dropWhile_cons_of_neg kept]

theorem rdropWhile_encode (alike : ∀ letter, ∀ unit ∈ code.word letter, white unit = blank letter) :
    (code.encode text).rdropWhile white = code.encode (text.rdropWhile blank) := by
  induction text using List.reverseRecOn with
  | nil => rfl
  | append_singleton rest letter ih =>
    have single : code.encode [letter] = code.word letter := List.append_nil _
    rw [encode_append, single, List.rdropWhile_concat]
    split
    next drops =>
      have gone : ∀ unit ∈ (code.word letter).reverse, white unit = true := fun unit member =>
        (alike letter unit (List.mem_reverse.mp member)).trans drops
      rw [← ih, List.rdropWhile, List.reverse_append,
        List.dropWhile_append_of_pos gone]
      rfl
    next stays =>
      have some : (code.word letter).reverse ≠ [] := by simp [word_ne_nil]
      obtain ⟨last, others, word⟩ := List.exists_cons_of_ne_nil some
      have kept : ¬white last = true := by
        rwa [alike letter last (List.mem_reverse.mp (by simp [word]))]
      rw [List.rdropWhile, List.reverse_append, word, List.cons_append,
        List.dropWhile_cons_of_neg kept, ← List.cons_append, ← word, ← List.reverse_append,
        List.reverse_reverse, encode_append, single]

end Trimming

end Coding

end Semantics
