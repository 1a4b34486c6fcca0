import ElvishMail.Go.Lines

/-!
# Searching a lower-cased copy

`strings.ToLower` works rune by rune, so an ASCII byte of a text keeps its place among the
runes but not among the bytes: the lower case of what is in front of it may be longer or
shorter. A pattern of ASCII bytes is found in the copy where it is found in the text, any
letter case apart, as long as no rune outside ASCII has one of its bytes for its lower case.
-/

namespace Go

variable {lib : Library}

theorem continuation_before_ascii {acc count rune : Nat} {front rest : GoString} {byte : UInt8}
    (small : byte.toNat < 0x80) (decoded : continuation acc count (front ++ byte :: rest) = some rune) :
    continuation acc count front = some rune := by
  induction front generalizing acc count with
  | nil =>
    cases count with
    | zero => simpa [continuation] using decoded
    | succ count =>
      rw [List.nil_append, continuation, if_neg] at decoded
      · cases decoded
      · simp only [inRange, Bool.and_eq_true, decide_eq_true_eq]
        omega
  | cons first front ih =>
    cases count with
    | zero => simpa [continuation] using decoded
    | succ count =>
      rw [List.cons_append, continuation] at decoded
      rw [continuation]
      split at decoded
      next valid =>
        rw [if_pos valid]
        exact ih decoded
      next => cases decoded

theorem low_leadByte {first second : UInt8} {payload low high more : Nat}
    (lead : leadByte first = some (payload, low, high, more))
    (valid : inRange low high second = true) : 0x80 ≤ second.toNat := by
  simp only [inRange, Bool.and_eq_true, decide_eq_true_eq] at valid
  unfold leadByte at lead
  dsimp only at lead
  split_ifs at lead <;>
    · simp only [Option.some.injEq, Prod.mk.injEq] at lead
      obtain ⟨rfl, rfl, rfl, rfl⟩ := lead
      omega

theorem decodeRune_before_ascii {first byte : UInt8} (small : byte.toNat < 0x80)
    (front rest : GoString) :
    decodeRune first (front ++ byte :: rest) = decodeRune first front := by
  rcases decodeRune_cases first (front ++ byte :: rest) with
    ⟨ascii, same⟩ | ⟨large, payload, low, high, more, second, tail, rune, lead, split, valid, decoded,
      same⟩ | ⟨large, same⟩
  · rw [same]
    simp [decodeRune, ascii]
  · cases front with
    | nil =>
      obtain ⟨rfl, -⟩ := List.cons.inj split
      have := low_leadByte lead valid
      omega
    | cons next front =>
      obtain ⟨rfl, rfl⟩ := List.cons.inj split
      rw [same]
      simp [decodeRune, large, lead, valid, continuation_before_ascii small decoded]
  · rcases decodeRune_cases first front with
      ⟨ascii, -⟩ | ⟨-, payload, low, high, more, second, tail, rune, lead, split, valid, decoded,
        whole⟩ | ⟨-, whole⟩
    · exact absurd ascii large
    · rw [split]
      simp [decodeRune, large, lead, valid, decoded, continuation_append decoded]
    · rw [same, whole]

theorem runes_before_ascii {byte : UInt8} (small : byte.toNat < 0x80) (front rest : GoString) :
    runes (front ++ byte :: rest) = runes front ++ runes (byte :: rest) := by
  induction front using runes_induction with
  | nil => rfl
  | cons first front ih =>
    have width := (decodeRune_width first front).2
    have fits : (decodeRune first front).2 ≤ (first :: front).length := by
      rw [List.length_cons]
      exact width
    rw [List.cons_append, runes_cons, runes_cons, decodeRune_before_ascii small, ← List.cons_append,
      List.take_append_of_le_length fits, List.drop_append_of_le_length fits, ih]
    rfl

theorem toLower_before_ascii {byte : UInt8} (small : byte.toNat < 0x80) (front rest : GoString) :
    toLower lib (front ++ byte :: rest) = toLower lib front ++ lowerByte byte :: toLower lib rest := by
  rw [toLower, runes_before_ascii small, runes_ascii small, List.flatMap_append, List.flatMap_cons,
    encodeRune_lower lib small]
  rfl

theorem toLower_cons_ascii {byte : UInt8} (small : byte.toNat < 0x80) (rest : GoString) :
    toLower lib (byte :: rest) = lowerByte byte :: toLower lib rest :=
  toLower_before_ascii small [] rest

theorem continuation_large {acc count rune : Nat} {text : GoString}
    (decoded : continuation acc count text = some rune) :
    ∀ byte ∈ text.take count, 0x80 ≤ byte.toNat := by
  induction count generalizing acc text with
  | zero => simp
  | succ count ih =>
    cases text with
    | nil => simp
    | cons first rest =>
      rw [continuation] at decoded
      split at decoded
      next valid =>
        rw [List.take_succ_cons]
        simp only [inRange, Bool.and_eq_true, decide_eq_true_eq] at valid
        exact List.forall_mem_cons.mpr ⟨valid.1, ih decoded⟩
      next => cases decoded

theorem decodeRune_large {first : UInt8} (large : 0x80 ≤ first.toNat) (rest : GoString) :
    ∀ byte ∈ (first :: rest).take (decodeRune first rest).2, 0x80 ≤ byte.toNat := by
  rcases decodeRune_cases first rest with
    ⟨small, -⟩ | ⟨-, payload, low, high, more, second, tail, rune, lead, split, valid, decoded, same⟩ |
      ⟨-, same⟩
  · omega
  · rw [same, split, List.take_succ_cons, List.take_succ_cons]
    exact List.forall_mem_cons.mpr ⟨large, List.forall_mem_cons.mpr
      ⟨low_leadByte lead valid, continuation_large decoded⟩⟩
  · rw [same]
    simpa using large

theorem lowerByte_large {byte : UInt8} (large : 0x80 ≤ byte.toNat) : lowerByte byte = byte := by
  rw [lowerByte, if_neg]
  omega

theorem lowerByte_small {byte : UInt8} (small : (lowerByte byte).toNat < 0x80) :
    byte.toNat < 0x80 := by
  by_contra large
  rw [lowerByte_large (by omega)] at small
  exact large small

theorem encodeRune_nonempty (rune : Nat) : encodeRune rune ≠ [] := by
  unfold encodeRune
  dsimp only
  split_ifs <;> exact List.cons_ne_nil _ _

theorem encodeRune_large {rune : Nat} (large : 0x80 ≤ rune) :
    ∀ byte ∈ encodeRune rune, 0x80 ≤ byte.toNat := by
  unfold encodeRune runeError
  dsimp only
  split_ifs <;>
    simp only [List.forall_mem_cons, List.not_mem_nil, false_implies, implies_true, and_true,
      Nat.toUInt8, UInt8.toNat_ofNat'] <;>
    omega

def Library.Spares (lib : Library) (byte : UInt8) : Prop :=
  ∀ rune, 0x80 ≤ rune → lib.lowerRune rune ≠ byte.toNat

/-- Bytes that stand for themselves in a lower-cased copy. -/
def Library.Steady (lib : Library) (byte : UInt8) : Prop := byte.toNat < 0x80 ∧ lib.Spares byte

theorem notMem_encodeRune {byte : UInt8} (steady : lib.Steady byte) {rune : Nat}
    (large : 0x80 ≤ rune) : byte ∉ encodeRune (lib.toLowerRune rune) := by
  intro mem
  rw [Library.toLowerRune, if_neg (by omega)] at mem
  by_cases low : lib.lowerRune rune < 0x80
  · have single : encodeRune (lib.lowerRune rune) = [(lib.lowerRune rune).toUInt8] := by
      unfold encodeRune
      have valid : ¬(lib.lowerRune rune > 0x10FFFF ∨
          0xD800 ≤ lib.lowerRune rune ∧ lib.lowerRune rune ≤ 0xDFFF) := by omega
      simp only [if_neg valid, if_pos low]
    rw [single, List.mem_singleton] at mem
    refine steady.2 rune large ?_
    rw [mem, Nat.toUInt8, UInt8.toNat_ofNat']
    omega
  · have outside := encodeRune_large (by omega) byte mem
    have inside := steady.1
    omega

theorem toLower_cons_large {first : UInt8} (large : 0x80 ≤ first.toNat) (rest : GoString) :
    ∃ rune, 0x80 ≤ rune ∧ toLower lib (first :: rest) =
      encodeRune (lib.toLowerRune rune) ++
        toLower lib ((first :: rest).drop (decodeRune first rest).2) := by
  refine ⟨(decodeRune first rest).1, ?_, ?_⟩
  · by_contra small
    have := decodeRune_small (by omega : (decodeRune first rest).1 < 0x80)
    omega
  · rw [toLower, runes_cons]
    rfl

theorem toLower_ne_nil (first : UInt8) (rest : GoString) : toLower lib (first :: rest) ≠ [] := by
  rw [toLower, runes_cons, List.flatMap_cons]
  exact List.append_ne_nil_of_left_ne_nil (encodeRune_nonempty _) _

theorem prefix_toLower {pattern : GoString} (steady : ∀ byte ∈ pattern, lib.Steady byte)
    (text : GoString) : pattern <+: toLower lib text ↔ pattern <+: text.map lowerByte := by
  induction pattern generalizing text with
  | nil => exact iff_of_true (List.nil_prefix) (List.nil_prefix)
  | cons byte pattern ih =>
    obtain ⟨first, others⟩ := List.forall_mem_cons.mp steady
    cases text with
    | nil => rfl
    | cons next rest =>
      by_cases small : next.toNat < 0x80
      · rw [toLower_cons_ascii small, List.map_cons, List.cons_prefix_cons,
          List.cons_prefix_cons, ih others]
      · obtain ⟨rune, large, copy⟩ := @toLower_cons_large lib next (by omega) rest
        rw [copy, List.map_cons, List.cons_prefix_cons, lowerByte_large (by omega)]
        refine iff_of_false ?_ ?_
        · intro start
          have absent := notMem_encodeRune first large
          cases encoded : encodeRune (lib.toLowerRune rune) with
          | nil => exact encodeRune_nonempty _ encoded
          | cons head tail =>
            rw [encoded] at start absent
            exact absent ((List.cons_prefix_cons.mp start).1 ▸ List.mem_cons_self ..)
        · rintro ⟨rfl, -⟩
          exact small first.1

theorem toLower_resume {text front tail copy : GoString} {size : Nat} {other : UInt8}
    (copied : toLower lib text = copy ++ toLower lib (text.drop size))
    (split : text.drop size = front ++ other :: tail) (small : other.toNat < 0x80) :
    text = text.take size ++ front ++ other :: tail ∧
      toLower lib (text.take size ++ front) = copy ++ toLower lib front := by
  have whole : text = text.take size ++ front ++ other :: tail := by
    rw [List.append_assoc, ← split, List.take_append_drop]
  refine ⟨whole, ?_⟩
  rw [split, toLower_before_ascii small, ← List.append_assoc] at copied
  conv_lhs at copied => rw [whole, toLower_before_ascii small]
  exact List.append_cancel_right copied

theorem index_toLower {byte : UInt8} {pattern : GoString}
    (steady : ∀ other ∈ byte :: pattern, lib.Steady other) (text : GoString) :
    (index (toLower lib text) (byte :: pattern) = none ∧
      index (text.map lowerByte) (byte :: pattern) = none) ∨
    ∃ (front : GoString) (next : UInt8) (rest : GoString), text = front ++ next :: rest ∧ next.toNat < 0x80 ∧
      index (text.map lowerByte) (byte :: pattern) = some front.length ∧
      index (toLower lib text) (byte :: pattern) = some (toLower lib front).length := by
  have first := (List.forall_mem_cons.mp steady).1
  induction text using runes_induction with
  | nil => exact .inl ⟨rfl, rfl⟩
  | cons next rest ih =>
    by_cases small : next.toNat < 0x80
    · have single : decodeRune next rest = (next.toNat, 1) := by simp [decodeRune, small]
      have same : (byte :: pattern).isPrefixOf (toLower lib (next :: rest)) =
          (byte :: pattern).isPrefixOf ((next :: rest).map lowerByte) := by
        rw [Bool.eq_iff_iff, List.isPrefixOf_iff_prefix, List.isPrefixOf_iff_prefix]
        exact prefix_toLower steady (next :: rest)
      rw [single] at ih
      rw [toLower_cons_ascii small, List.map_cons] at same ⊢
      rw [index_cons, index_cons, same]
      split
      · exact .inr ⟨[], next, rest, rfl, small, rfl, rfl⟩
      · rcases ih with ⟨copy, text⟩ | ⟨front, other, tail, split, ascii, text, copy⟩
        · left
          rw [List.drop_succ_cons, List.drop_zero] at copy text
          rw [copy, text]
          exact ⟨rfl, rfl⟩
        · rw [List.drop_succ_cons, List.drop_zero] at split text copy
          refine .inr ⟨next :: front, other, tail, by rw [split]; rfl, ascii, ?_, ?_⟩
          · rw [text]
            rfl
          · rw [copy, toLower_cons_ascii small]
            rfl
    · obtain ⟨rune, large, copied⟩ := @toLower_cons_large lib next (by omega) rest
      have raw := decodeRune_large (by omega : 0x80 ≤ next.toNat) rest
      generalize width : (decodeRune next rest).2 = size at *
      have cut : (next :: rest).take size ++ (next :: rest).drop size = next :: rest :=
        List.take_append_drop ..
      have skipCopy := notMem_encodeRune first large
      have skipText : byte ∉ ((next :: rest).take size).map lowerByte := by
        intro mem
        obtain ⟨other, mem, same⟩ := List.mem_map.mp mem
        have outside := raw other mem
        rw [lowerByte_large outside] at same
        have inside := first.1
        rw [same] at outside
        omega
      have places : index ((next :: rest).map lowerByte) (byte :: pattern) =
          (index (((next :: rest).drop size).map lowerByte) (byte :: pattern)).map
            (· + ((next :: rest).take size).length) := by
        conv_lhs => rw [← cut, List.map_append]
        rw [index_skip skipText, List.length_map]
      rw [copied, index_skip skipCopy, places]
      rcases ih with ⟨copy, text⟩ | ⟨front, other, tail, split, ascii, text, copy⟩
      · left
        rw [copy, text]
        exact ⟨rfl, rfl⟩
      · obtain ⟨whole, joined⟩ := toLower_resume copied split ascii
        refine .inr ⟨(next :: rest).take size ++ front, other, tail, whole, ascii, ?_, ?_⟩
        · rw [text]
          simp [Nat.add_comm]
        · rw [copy, joined]
          simp [Nat.add_comm]

theorem toLower_split {byte : UInt8} (steady : lib.Steady byte) {text before after : GoString}
    (split : toLower lib text = before ++ byte :: after) :
    ∃ front next rest, text = front ++ next :: rest ∧ toLower lib front = before ∧
      lowerByte next = byte ∧ toLower lib rest = after := by
  induction text using runes_induction generalizing before with
  | nil => exact absurd split.symm (List.append_ne_nil_of_right_ne_nil _ (List.cons_ne_nil _ _))
  | cons first rest ih =>
    by_cases small : first.toNat < 0x80
    · have single : decodeRune first rest = (first.toNat, 1) := by simp [decodeRune, small]
      rw [single, List.drop_succ_cons, List.drop_zero] at ih
      rw [toLower_cons_ascii small] at split
      cases before with
      | nil =>
        obtain ⟨same, tail⟩ := List.cons.inj split
        exact ⟨[], first, rest, rfl, rfl, same, tail⟩
      | cons head before =>
        obtain ⟨same, tail⟩ := List.cons.inj split
        obtain ⟨front, next, more, whole, copy, lower, onward⟩ := ih tail
        refine ⟨first :: front, next, more, by rw [whole]; rfl, ?_, lower, onward⟩
        rw [toLower_cons_ascii small, copy, same]
    · obtain ⟨rune, large, copied⟩ := @toLower_cons_large lib first (by omega) rest
      have absent := notMem_encodeRune steady large
      rw [copied] at split
      obtain ⟨between, rfl, later⟩ : ∃ between, before = encodeRune (lib.toLowerRune rune) ++ between ∧
          toLower lib ((first :: rest).drop (decodeRune first rest).2) =
            between ++ byte :: after := by
        rcases List.append_eq_append_iff.mp split with ⟨between, same, later⟩ | ⟨between, same, later⟩
        · exact ⟨between, same, later⟩
        · cases between with
          | nil => exact ⟨[], by rw [same, List.append_nil, List.append_nil], later.symm⟩
          | cons head between =>
            obtain ⟨rfl, -⟩ := List.cons.inj later
            exact absurd (same ▸ List.mem_append_right _ (List.mem_cons_self ..)) absent
      obtain ⟨front, next, more, onward, rfl, lower, tail⟩ := ih later
      have small : next.toNat < 0x80 := lowerByte_small (lower ▸ steady.1)
      obtain ⟨whole, joined⟩ := toLower_resume copied onward small
      exact ⟨_, next, more, whole, joined, lower, tail⟩

theorem toLower_place {front other rest more : GoString} {byte next : UInt8}
    (small : byte.toNat < 0x80) (smallNext : next.toNat < 0x80)
    (same : front ++ byte :: rest = other ++ next :: more)
    (lower : toLower lib front = toLower lib other) : front = other := by
  rcases List.append_eq_append_iff.mp same with ⟨between, rfl, tail⟩ | ⟨between, rfl, tail⟩
  · cases between with
    | nil => exact (List.append_nil _).symm
    | cons first between =>
      obtain ⟨rfl, -⟩ := List.cons.inj tail
      have lengths := congrArg List.length lower
      rw [toLower_before_ascii small] at lengths
      simp only [List.length_append, List.length_cons] at lengths
      omega
  · cases between with
    | nil => exact List.append_nil _
    | cons first between =>
      obtain ⟨rfl, -⟩ := List.cons.inj tail
      have lengths := congrArg List.length lower
      rw [toLower_before_ascii smallNext] at lengths
      simp only [List.length_append, List.length_cons] at lengths
      omega

end Go
