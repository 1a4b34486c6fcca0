import Mathlib.Data.List.DropRight
import Mathlib.Data.List.Infix
import ElvishMail.Go.Strings
import Mathlib.Tactic.SplitIfs

/-!
# Decoding texts

How a text falls into runes: the runes of a text make up the text, a stretch of
them is decoded as it was in the whole, and bytes of ASCII stand for themselves.
What follows for trimming, letter case and searching.
-/

namespace Go

theorem continuation_append {acc count rune : Nat} {text rest : GoString}
    (decoded : continuation acc count text = some rune) :
    continuation acc count (text ++ rest) = some rune := by
  induction count generalizing acc text with
  | zero => simpa [continuation] using decoded
  | succ count ih =>
    cases text with
    | nil => cases decoded
    | cons byte text =>
      rw [continuation] at decoded
      rw [List.cons_append, continuation]
      split at decoded
      next valid =>
        rw [if_pos valid]
        exact ih decoded
      next => cases decoded

theorem continuation_length {acc count rune : Nat} {text : GoString}
    (decoded : continuation acc count text = some rune) : count ≤ text.length := by
  induction count generalizing acc text with
  | zero => exact Nat.zero_le _
  | succ count ih =>
    cases text with
    | nil => cases decoded
    | cons byte text =>
      rw [continuation] at decoded
      split at decoded
      · exact Nat.succ_le_succ (ih decoded)
      · cases decoded

theorem continuation_of_append {acc count rune : Nat} {text rest : GoString}
    (decoded : continuation acc count (text ++ rest) = some rune) (enough : count ≤ text.length) :
    continuation acc count text = some rune := by
  induction count generalizing acc text with
  | zero => simpa [continuation] using decoded
  | succ count ih =>
    cases text with
    | nil => simp at enough
    | cons byte text =>
      rw [List.cons_append, continuation] at decoded
      rw [continuation]
      split at decoded
      next valid =>
        rw [if_pos valid]
        exact ih decoded (Nat.le_of_succ_le_succ enough)
      next => cases decoded

theorem decodeRune_cases (first : UInt8) (rest : GoString) :
    (first.toNat < 0x80 ∧ decodeRune first rest = (first.toNat, 1)) ∨
    (¬first.toNat < 0x80 ∧ ∃ payload low high more second tail rune,
      leadByte first = some (payload, low, high, more) ∧ rest = second :: tail ∧
      inRange low high second = true ∧
      continuation (payload * 64 + (second.toNat - 0x80)) more tail = some rune ∧
      decodeRune first rest = (rune, more + 2)) ∨
    (¬first.toNat < 0x80 ∧ decodeRune first rest = (runeError, 1)) := by
  unfold decodeRune
  split
  next small => exact .inl ⟨small, rfl⟩
  next large =>
    right
    split
    next payload low high more second tail lead =>
      split
      next valid =>
        split
        next rune decoded =>
          exact .inl ⟨large, payload, low, high, more, second, tail, rune, lead, rfl, valid,
            decoded, rfl⟩
        next => exact .inr ⟨large, rfl⟩
      next => exact .inr ⟨large, rfl⟩
    next => exact .inr ⟨large, rfl⟩

theorem decodeRune_width (first : UInt8) (rest : GoString) :
    0 < (decodeRune first rest).2 ∧ (decodeRune first rest).2 ≤ rest.length + 1 := by
  rcases decodeRune_cases first rest with
    ⟨-, same⟩ | ⟨-, _, _, _, more, second, tail, rune, -, split, -, decoded, same⟩ | ⟨-, same⟩
  · rw [same]
    exact ⟨Nat.one_pos, Nat.le_add_left _ _⟩
  · have enough := continuation_length decoded
    rw [same, split, List.length_cons]
    omega
  · rw [same]
    exact ⟨Nat.one_pos, Nat.le_add_left _ _⟩

theorem le_continuation {acc count rune : Nat} {text : GoString}
    (decoded : continuation acc count text = some rune) : acc * 64 ^ count ≤ rune := by
  induction count generalizing acc text with
  | zero =>
    cases decoded
    simp
  | succ count ih =>
    cases text with
    | nil => cases decoded
    | cons byte rest =>
      rw [continuation] at decoded
      split at decoded
      · refine Nat.le_trans ?_ (ih decoded)
        rw [Nat.pow_succ', ← Nat.mul_assoc]
        exact Nat.mul_le_mul_right _ (Nat.le_add_right _ _)
      · cases decoded

theorem le_leadByte {first second : UInt8} {payload low high more : Nat}
    (lead : leadByte first = some (payload, low, high, more))
    (valid : inRange low high second = true) :
    0x80 ≤ (payload * 64 + (second.toNat - 0x80)) * 64 ^ more := by
  simp only [inRange, Bool.and_eq_true, decide_eq_true_eq] at valid
  unfold leadByte at lead
  dsimp only at lead
  split_ifs at lead <;>
    · simp only [Option.some.injEq, Prod.mk.injEq] at lead
      obtain ⟨rfl, rfl, rfl, rfl⟩ := lead
      omega

theorem decodeRune_small {first : UInt8} {rest : GoString} (small : (decodeRune first rest).1 < 0x80) :
    first.toNat < 0x80 := by
  rcases decodeRune_cases first rest with
    ⟨small, -⟩ | ⟨-, payload, low, high, more, second, tail, rune, lead, -, valid, decoded, same⟩ |
      ⟨-, same⟩
  · exact small
  · rw [same] at small
    have large := (le_leadByte lead valid).trans (le_continuation decoded)
    omega
  · rw [same] at small
    cases (by decide : ¬runeError < 0x80) small
theorem decodeRune_append {first : UInt8} {rest after : GoString}
    (enough : (decodeRune first (rest ++ after)).2 ≤ rest.length + 1) :
    decodeRune first rest = decodeRune first (rest ++ after) := by
  rcases decodeRune_cases first rest with
    ⟨small, same⟩ | ⟨large, payload, low, high, more, second, tail, rune, lead, split, valid, decoded,
      same⟩ | ⟨large, same⟩
  · rw [same]
    simp [decodeRune, small]
  · subst split
    rw [same]
    simp [decodeRune, large, lead, valid, continuation_append decoded]
  · rcases decodeRune_cases first (rest ++ after) with
      ⟨small, -⟩ | ⟨-, payload, low, high, more, second, tail, rune, lead, split, valid, decoded,
        whole⟩ | ⟨-, whole⟩
    · exact absurd small large
    · rw [whole] at enough
      cases rest with
      | nil => simp at enough
      | cons other rest =>
        obtain ⟨rfl, rfl⟩ := List.cons.inj split
        have within : more ≤ rest.length := by
          rw [List.length_cons] at enough
          omega
        rw [whole]
        simp [decodeRune, large, lead, valid, continuation_of_append decoded within]
    · rw [same, whole]

theorem runesFuel_eq {fuel : Nat} {text : GoString} (enough : text.length ≤ fuel) :
    runesFuel fuel text = runes text := by
  induction fuel using Nat.strong_induction_on generalizing text with
  | _ fuel ih =>
    cases text with
    | nil => cases fuel <;> rfl
    | cons first rest =>
      obtain ⟨fuel, rfl⟩ : ∃ less, fuel = less + 1 := ⟨fuel - 1, by
        rw [List.length_cons] at enough
        omega⟩
      have width := (decodeRune_width first rest).1
      have shorter : ((first :: rest).drop (decodeRune first rest).2).length ≤ rest.length := by
        rw [List.length_drop, List.length_cons]
        omega
      rw [List.length_cons, Nat.add_le_add_iff_right] at enough
      rw [runes, List.length_cons, runesFuel, runesFuel]
      congr 1
      rw [ih fuel (Nat.lt_succ_self _) (le_trans shorter enough)]
      rcases Nat.lt_or_ge rest.length (fuel + 1) with less | more
      · exact (ih rest.length less shorter).symm
      · omega

theorem runes_cons (first : UInt8) (rest : GoString) :
    runes (first :: rest) =
      ⟨(decodeRune first rest).1, (first :: rest).take (decodeRune first rest).2⟩ ::
        runes ((first :: rest).drop (decodeRune first rest).2) := by
  have width := (decodeRune_width first rest).1
  rw [runes, List.length_cons, runesFuel]
  congr 1
  apply runesFuel_eq
  rw [List.length_drop, List.length_cons]
  omega

theorem runes_ascii {first : UInt8} (small : first.toNat < 0x80) (rest : GoString) :
    runes (first :: rest) = ⟨first.toNat, [first]⟩ :: runes rest := by
  have single : decodeRune first rest = (first.toNat, 1) := by simp [decodeRune, small]
  rw [runes_cons, single]
  rfl

theorem runes_induction {Holds : GoString → Prop} (nil : Holds [])
    (cons : ∀ first rest, Holds ((first :: rest).drop (decodeRune first rest).2) → Holds (first :: rest))
    (text : GoString) : Holds text := by
  induction length : text.length using Nat.strong_induction_on generalizing text with
  | _ count ih =>
    cases text with
    | nil => exact nil
    | cons first rest =>
      apply cons
      have width := (decodeRune_width first rest).1
      refine ih _ ?_ _ rfl
      rw [← length, List.length_drop, List.length_cons]
      omega

@[simp] theorem joinRunes_runes (text : GoString) : joinRunes (runes text) = text := by
  induction text using runes_induction with
  | nil => rfl
  | cons first rest ih =>
    rw [runes_cons, joinRunes, List.flatMap_cons]
    rw [joinRunes] at ih
    rw [ih]
    exact List.take_append_drop _ _

theorem runes_joinRunes_right {text : GoString} {start stop : List Rune}
    (split : runes text = start ++ stop) : runes (joinRunes stop) = stop := by
  induction start generalizing text with
  | nil =>
    rw [List.nil_append] at split
    rw [← split, joinRunes_runes]
  | cons rune start ih =>
    cases text with
    | nil => cases split
    | cons first rest =>
      rw [runes_cons, List.cons_append] at split
      exact ih (List.cons.inj split).2

theorem runes_joinRunes_left {text : GoString} {start stop : List Rune}
    (split : runes text = start ++ stop) : runes (joinRunes start) = start := by
  induction start generalizing text with
  | nil => rfl
  | cons rune start ih =>
    cases text with
    | nil => cases split
    | cons first rest =>
      have whole : first :: rest = joinRunes (rune :: start) ++ joinRunes stop := by
        rw [← joinRunes_runes (first :: rest), split, joinRunes, List.flatMap_append]
        rfl
      rw [runes_cons, List.cons_append] at split
      obtain ⟨sameRune, split⟩ := List.cons.inj split
      have onward := ih split
      have width := decodeRune_width first rest
      have raw : rune.raw = first :: rest.take ((decodeRune first rest).2 - 1) := by
        rw [← sameRune]
        obtain ⟨less, same⟩ : ∃ less, (decodeRune first rest).2 = less + 1 :=
          ⟨(decodeRune first rest).2 - 1, by omega⟩
        simp [same]
      have joined : joinRunes (rune :: start) =
          first :: (rest.take ((decodeRune first rest).2 - 1) ++ joinRunes start) := by
        rw [joinRunes, List.flatMap_cons, raw]
        rfl
      rw [joined] at whole ⊢
      have tail : rest =
          rest.take ((decodeRune first rest).2 - 1) ++ joinRunes start ++ joinRunes stop :=
        (List.cons.inj whole).2
      have taken : (rest.take ((decodeRune first rest).2 - 1)).length =
          (decodeRune first rest).2 - 1 := by
        rw [List.length_take]
        omega
      have alike : decodeRune first (rest.take ((decodeRune first rest).2 - 1) ++ joinRunes start) =
          decodeRune first rest := by
        conv_rhs => rw [tail]
        apply decodeRune_append
        rw [← tail, List.length_append, taken]
        omega
      rw [runes_cons, alike]
      have cut : (decodeRune first rest).2 =
          (first :: rest.take ((decodeRune first rest).2 - 1)).length := by
        rw [List.length_cons, taken]
        omega
      congr 1
      · rw [← sameRune]
        congr 1
        rw [← List.cons_append, List.take_append_of_le_length (le_of_eq cut)]
        rw [List.take_of_length_le (le_of_eq cut.symm)]
        rw [← raw, ← sameRune]
      · rw [← List.cons_append, List.drop_append_of_le_length (le_of_eq cut),
          List.drop_of_length_le (le_of_eq cut.symm), List.nil_append]
        exact onward

theorem runes_trimSpace (text : GoString) :
    runes (trimSpace text) =
      ((runes text).dropWhile fun rune => isSpace rune.value).rdropWhile
        fun rune => isSpace rune.value := by
  have front := runes_joinRunes_right
    (List.takeWhile_append_dropWhile (p := fun rune : Rune => isSpace rune.value)
      (l := runes text)).symm
  obtain ⟨stop, split⟩ := List.rdropWhile_prefix (fun rune : Rune => isSpace rune.value)
    ((runes text).dropWhile fun rune => isSpace rune.value)
  exact runes_joinRunes_left (front.trans split.symm)

theorem dropWhile_runes_trimSpace (text : GoString) :
    (runes (trimSpace text)).dropWhile (fun rune => isSpace rune.value) = runes (trimSpace text) := by
  rw [runes_trimSpace, List.dropWhile_eq_self_iff]
  intro some
  have within := List.rdropWhile_prefix (fun rune : Rune => isSpace rune.value)
    ((runes text).dropWhile fun rune => isSpace rune.value)
  rw [within.getElem some]
  have head := List.head_dropWhile_not (fun rune : Rune => isSpace rune.value)
    (List.ne_nil_of_length_pos (lt_of_lt_of_le some within.length_le))
  rw [List.head_eq_getElem] at head
  simpa using head

theorem rdropWhile_runes_trimSpace (text : GoString) :
    (runes (trimSpace text)).rdropWhile (fun rune => isSpace rune.value) = runes (trimSpace text) := by
  rw [runes_trimSpace]
  exact List.rdropWhile_idempotent _ _

@[simp] theorem trimSpace_trimSpace (text : GoString) : trimSpace (trimSpace text) = trimSpace text :=
  calc trimSpace (trimSpace text)
      = joinRunes (((runes (trimSpace text)).dropWhile fun rune => isSpace rune.value).rdropWhile
          fun rune => isSpace rune.value) := rfl
    _ = joinRunes (runes (trimSpace text)) := by
        rw [dropWhile_runes_trimSpace, rdropWhile_runes_trimSpace]
    _ = trimSpace text := joinRunes_runes _

theorem trimSpace_solid {text : GoString}
    (solid : ∀ byte ∈ text, byte.toNat < 0x80 ∧ isSpace byte.toNat = false) :
    trimSpace text = text := by
  have visible : ∀ rune ∈ runes text, isSpace rune.value = false := by
    induction text with
    | nil => simp [runes, runesFuel]
    | cons byte text ih =>
      obtain ⟨first, others⟩ := List.forall_mem_cons.mp solid
      rw [runes_ascii first.1, List.forall_mem_cons]
      exact ⟨first.2, ih others⟩
  have front : (runes text).dropWhile (fun rune => isSpace rune.value) = runes text := by
    rw [List.dropWhile_eq_self_iff]
    intro some
    simpa using visible _ (List.getElem_mem some)
  have back : (runes text).rdropWhile (fun rune => isSpace rune.value) = runes text := by
    rw [List.rdropWhile_eq_self_iff]
    intro some
    simpa using visible _ (List.getLast_mem some)
  calc trimSpace text
      = joinRunes (((runes text).dropWhile fun rune => isSpace rune.value).rdropWhile
          fun rune => isSpace rune.value) := rfl
    _ = joinRunes (runes text) := by rw [front, back]
    _ = text := joinRunes_runes text

theorem runes_ascii_append {front : GoString} (small : ∀ byte ∈ front, byte.toNat < 0x80)
    (rest : GoString) :
    runes (front ++ rest) = front.map (fun byte => ⟨byte.toNat, [byte]⟩) ++ runes rest := by
  induction front with
  | nil => rfl
  | cons byte front ih =>
    obtain ⟨first, others⟩ := List.forall_mem_cons.mp small
    rw [List.cons_append, runes_ascii first, ih others]
    rfl

theorem prefix_trimSpace {front rest : GoString} {first last : UInt8}
    (small : ∀ byte ∈ front, byte.toNat < 0x80) (opens : front.head? = some first)
    (closes : front.getLast? = some last) (visible : isSpace first.toNat = false)
    (solid : isSpace last.toNat = false) : front <+: trimSpace (front ++ rest) := by
  let marks : List Rune := front.map fun byte => ⟨byte.toNat, [byte]⟩
  have joined : joinRunes marks = front := by
    simp [marks, joinRunes, List.flatMap_map]
  have kept : (marks ++ runes rest).dropWhile (fun rune => isSpace rune.value) = marks ++ runes rest := by
    rw [List.dropWhile_eq_self_iff]
    intro some
    have head : (marks ++ runes rest)[0] = ⟨first.toNat, [first]⟩ := by
      rw [← List.head_eq_getElem (List.ne_nil_of_length_pos some)]
      refine Option.some.inj ((List.head?_eq_some_head _).symm.trans ?_)
      simp [marks, List.head?_append, opens]
    rw [head]
    simp [visible]
  have backwards : marks.reverse.dropWhile (fun rune => isSpace rune.value) = marks.reverse := by
    rw [List.dropWhile_eq_self_iff]
    intro some
    have head : marks.reverse[0] = ⟨last.toNat, [last]⟩ := by
      rw [← List.head_eq_getElem (List.ne_nil_of_length_pos some)]
      refine Option.some.inj ((List.head?_eq_some_head _).symm.trans ?_)
      simp [marks, closes]
    rw [head]
    simp [solid]
  obtain ⟨more, left⟩ : ∃ more, ((marks ++ runes rest).reverse.dropWhile
      fun rune => isSpace rune.value).reverse = marks ++ more := by
    rw [List.reverse_append, List.dropWhile_append]
    split
    · exact ⟨[], by rw [backwards, List.reverse_reverse, List.append_nil]⟩
    · exact ⟨_, by rw [List.reverse_append, List.reverse_reverse]⟩
  refine ⟨joinRunes more, ?_⟩
  calc front ++ joinRunes more
      = joinRunes marks ++ joinRunes more := by rw [joined]
    _ = joinRunes (marks ++ more) := List.flatMap_append.symm
    _ = trimSpace (front ++ rest) := by
        rw [trimSpace, runes_ascii_append small, kept, left]

def lowerByte (byte : UInt8) : UInt8 :=
  if 65 ≤ byte.toNat ∧ byte.toNat ≤ 90 then byte + 32 else byte

theorem encodeRune_lower (lib : Library) {byte : UInt8} (small : byte.toNat < 0x80) :
    encodeRune (lib.toLowerRune byte.toNat) = [lowerByte byte] := by
  have every : ∀ value : Nat, value < 0x80 →
      encodeRune (if 65 ≤ value ∧ value ≤ 90 then value + 32 else value) =
        [lowerByte value.toUInt8] := by decide
  rw [Library.toLowerRune, if_pos small, every byte.toNat small]
  simp

@[simp] theorem toLower_nil (lib : Library) : toLower lib [] = [] := rfl

theorem small_of_all {text : GoString} (all : text.all (fun byte => byte.toNat < 0x80) = true) :
    ∀ byte ∈ text, byte.toNat < 0x80 :=
  fun byte member => of_decide_eq_true (List.all_eq_true.mp all byte member)

theorem toLower_ascii (lib : Library) (text rest : GoString)
    (small : ∀ byte ∈ text, byte.toNat < 0x80) :
    toLower lib (text ++ rest) = text.map lowerByte ++ toLower lib rest := by
  induction text with
  | nil => rfl
  | cons byte text ih =>
    obtain ⟨first, others⟩ := List.forall_mem_cons.mp small
    rw [List.cons_append, toLower, runes_ascii first, List.flatMap_cons, encodeRune_lower lib first]
    exact congrArg (lowerByte byte :: ·) (ih others)

theorem findIdx?_tails {Unit : Type*} [DecidableEq Unit] {text pattern : List Unit} :
    (text.tails.findIdx? (pattern.isPrefixOf ·)).isSome = true ↔ pattern <:+: text := by
  rw [List.findIdx?_isSome, List.any_eq_true, List.infix_iff_prefix_suffix]
  simp only [List.mem_tails, List.isPrefixOf_iff_prefix]
  exact exists_congr fun tail => and_comm

theorem lastIndexByte_of_once {text : GoString} {byte : UInt8} {position : Nat}
    (found : indexByte text byte = some position) (once : byte ∉ text.drop (position + 1)) :
    lastIndexByte text byte = some position := by
  obtain ⟨inside, here, -⟩ := List.findIdx?_eq_some_iff_getElem.mp found
  have split : text.reverse =
      (text.drop (position + 1)).reverse ++ byte :: (text.take position).reverse := by
    have cut : text = text.take position ++ byte :: text.drop (position + 1) := by
      rw [← beq_iff_eq.mp here, ← List.drop_eq_getElem_cons inside, List.take_append_drop]
    calc text.reverse = (text.take position ++ byte :: text.drop (position + 1)).reverse := by rw [← cut]
      _ = _ := by simp
  have skipped : (text.drop (position + 1)).reverse.findIdx? (· == byte) = none := by
    rw [List.findIdx?_eq_none_iff]
    intro other member
    exact beq_false_of_ne fun same => once (same ▸ List.mem_reverse.mp member)
  have length : (text.drop (position + 1)).reverse.length = text.length - (position + 1) := by simp
  rw [lastIndexByte, indexByte, split, List.findIdx?_append, skipped, List.findIdx?_cons, beq_self_eq_true]
  simp only [Option.none_or, if_true, Option.map_some, length]
  congr 1
  omega

theorem index_cons (byte : UInt8) (text pattern : GoString) :
    index (byte :: text) pattern =
      if pattern.isPrefixOf (byte :: text) then some 0 else (index text pattern).map (· + 1) := by
  rw [index, List.tails, List.findIdx?_cons]
  rfl

theorem index_skip {first : UInt8} {text : GoString} (absent : first ∉ text) (rest pattern : GoString) :
    index (text ++ rest) (first :: pattern) =
      (index rest (first :: pattern)).map (· + text.length) := by
  induction text with
  | nil => simp
  | cons byte text ih =>
    rw [List.mem_cons, not_or] at absent
    have differ : (first :: pattern).isPrefixOf (byte :: (text ++ rest)) = false := by
      simp [List.isPrefixOf, absent.1]
    rw [List.cons_append, index_cons, differ, ih absent.2]
    simp [Function.comp_def, Nat.add_assoc]

end Go
