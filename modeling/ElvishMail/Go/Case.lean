import Mathlib.Data.Char
import ElvishMail.Js.Unicode

/-!
# Letter case and white space

What `strings.ToLower` and `strings.TrimSpace` do to each other's results, for the case
tables that Unicode has: no letter has white space for its lower case, and a lower case is
its own lower case.
-/

namespace Go

open Js Semantics

def Library.SparesSpaces (lib : Library) : Prop :=
  ∀ rune, isSpace (lib.toLowerRune rune) = true → isSpace rune = true

def Library.KeepsSpaces (lib : Library) : Prop :=
  ∀ rune, isSpace (lib.toLowerRune rune) = isSpace rune

def letterOf (rune : Nat) : Char :=
  if valid : rune.isValidChar then Char.ofNatAux rune valid else Char.ofNat runeError

theorem encodeRune_letterOf (rune : Nat) : encodeRune (letterOf rune).toNat = encodeRune rune := by
  by_cases valid : rune.isValidChar
  · rw [letterOf, dif_pos valid]
    rfl
  · rw [letterOf, dif_neg valid]
    have outside : rune > 0x10FFFF ∨ (0xD800 ≤ rune ∧ rune ≤ 0xDFFF) := by
      unfold Nat.isValidChar at valid
      omega
    have replaced : encodeRune rune = encodeRune runeError := by
      unfold encodeRune
      rw [if_pos outside]
      rfl
    rw [replaced]
    rfl

theorem isSpaceChar_letterOf (rune : Nat) : isSpaceChar (letterOf rune) = isSpace rune := by
  by_cases valid : rune.isValidChar
  · rw [letterOf, dif_pos valid]
    rfl
  · have visible : isSpace rune = false := by
      unfold Nat.isValidChar at valid
      simp [isSpace]
      omega
    rw [letterOf, dif_neg valid, visible]
    rfl

theorem toLower_eq_utf8 (lib : Library) (text : GoString) :
    toLower lib text = utf8 ((runes text).map fun rune => letterOf (lib.toLowerRune rune.value)) := by
  rw [toLower, utf8, Coding.encode, List.flatMap_map]
  refine List.flatMap_congr fun rune _ => ?_
  exact (encodeRune_letterOf _).symm

def Library.Settles (lib : Library) : Prop :=
  ∀ rune, lib.toLowerRune (letterOf (lib.toLowerRune rune)).toNat =
    (letterOf (lib.toLowerRune rune)).toNat

variable {lib : Library}

theorem toLower_utf8_self {letters : List Char}
    (low : ∀ letter ∈ letters, lib.toLowerRune letter.toNat = letter.toNat) :
    toLower lib (utf8 letters) = utf8 letters := by
  rw [@toLower_utf8 lib id letters low, List.map_id]

theorem exists_toLower (settles : lib.Settles) (text : GoString) :
    ∃ letters, toLower lib text = utf8 letters ∧
      ∀ letter ∈ letters, lib.toLowerRune letter.toNat = letter.toNat := by
  refine ⟨_, toLower_eq_utf8 lib text, fun letter member => ?_⟩
  obtain ⟨rune, -, rfl⟩ := List.mem_map.mp member
  exact settles rune.value

theorem toLower_toLower (settles : lib.Settles) (text : GoString) :
    toLower lib (toLower lib text) = toLower lib text := by
  obtain ⟨letters, same, low⟩ := exists_toLower settles text
  rw [same, toLower_utf8_self low]

theorem toLower_trimSpace (settles : lib.Settles) (text : GoString) :
    toLower lib (trimSpace (toLower lib text)) = trimSpace (toLower lib text) := by
  obtain ⟨letters, same, low⟩ := exists_toLower settles text
  rw [same, trimSpace_utf8]
  exact toLower_utf8_self fun letter member => low letter (trimmed_sublist.subset member)

theorem trimSpace_toLower (spares : lib.SparesSpaces) (text : GoString) :
    trimSpace (toLower lib (trimSpace text)) = toLower lib (trimSpace text) := by
  have weaker (rune : Rune) (space : isSpaceChar (letterOf (lib.toLowerRune rune.value)) = true) :
      isSpace rune.value = true := spares _ (isSpaceChar_letterOf _ ▸ space)
  rw [toLower_eq_utf8, trimSpace_utf8]
  congr 1
  rw [trimmed]
  have start := List.dropWhile_eq_self_iff.mp (dropWhile_runes_trimSpace text)
  have stop := List.rdropWhile_eq_self_iff.mp (rdropWhile_runes_trimSpace text)
  have front : ((runes (trimSpace text)).map fun rune =>
      letterOf (lib.toLowerRune rune.value)).dropWhile isSpaceChar =
      (runes (trimSpace text)).map fun rune => letterOf (lib.toLowerRune rune.value) := by
    rw [List.dropWhile_eq_self_iff]
    intro some space
    rw [List.getElem_map] at space
    exact start (by simpa using some) (weaker _ space)
  rw [front, List.rdropWhile_eq_self_iff]
  intro some space
  rw [List.getLast_map] at space
  exact stop (by simpa using some) (weaker _ space)

/-- It makes no difference whether a text is trimmed before it is lowered or after. -/
theorem trimSpace_lowered (keeps : lib.KeepsSpaces) (text : GoString) :
    trimSpace (toLower lib text) = toLower lib (trimSpace text) := by
  have same : isSpaceChar ∘ (fun rune : Rune => letterOf (lib.toLowerRune rune.value)) =
      fun rune => isSpace rune.value :=
    funext fun rune => (isSpaceChar_letterOf _).trans (keeps rune.value)
  rw [toLower_eq_utf8, toLower_eq_utf8, trimSpace_utf8, runes_trimSpace, trimmed, List.dropWhile_map,
    List.rdropWhile, ← List.map_reverse, List.dropWhile_map, ← List.map_reverse, same]
  rfl

theorem plain_settles : Library.plain.Settles := by
  have lowered (rune : Nat) : Library.plain.toLowerRune (Library.plain.toLowerRune rune) =
      Library.plain.toLowerRune rune := by
    unfold Library.toLowerRune Library.plain
    grind
  intro rune
  have inside : Library.plain.toLowerRune runeError = runeError := rfl
  by_cases valid : (Library.plain.toLowerRune rune).isValidChar
  · rw [letterOf, dif_pos valid]
    exact lowered rune
  · rw [letterOf, dif_neg valid]
    exact inside

theorem plain_keepsSpaces : Library.plain.KeepsSpaces := by
  intro rune
  unfold Library.toLowerRune
  split
  · split
    · rw [Bool.eq_iff_iff]
      simp only [isSpace, Bool.or_eq_true, Bool.and_eq_true, decide_eq_true_eq, beq_iff_eq]
      omega
    · rfl
  · rfl

theorem plain_sparesSpaces : Library.plain.SparesSpaces := fun rune space =>
  plain_keepsSpaces rune ▸ space

end Go
