import ElvishMail.Go.Runes

/-!
# Names in the web key directory

`WKDLocalPartHash`: a local part is named by the SHA-1 of its lower case in z-base-32. The encoder
keeps the bits in a `uint64` that overflows; its letters are those of the whole text cut into groups
of five bits.
-/

namespace ElvishMail.Openpgp

open Go

/-- `crypto/sha1`. -/
structure Digest where
  sum : GoString → GoString
  length : ∀ text, (sum text).length = 20

def zBase32Alphabet : GoString := ascii "ybndrfg8ejkmcpqxot1uwisza345h769"

def zBase32Letter (buf : Nat) : UInt8 := zBase32Alphabet.getD (buf % 32) 0

/-- The letters that the low bits of the buffer fill, and how many bits are left. -/
def zBase32Full (buf : Nat) : Nat → GoString × Nat
  | bits + 5 =>
    let (out, left) := zBase32Full buf bits
    (zBase32Letter (buf / 2 ^ bits) :: out, left)
  | bits => ([], bits)

/-- The loop of `zBase32Encode`; the buffer is a `uint64`. -/
def zBase32Loop (buf bits : Nat) : GoString → GoString
  | [] => if bits > 0 then [zBase32Letter (buf * 2 ^ (5 - bits))] else []
  | byte :: data =>
    let buf := (buf * 256 + byte.toNat) % 2 ^ 64
    let (out, left) := zBase32Full buf (bits + 8)
    out ++ zBase32Loop buf left data

def zBase32Encode (data : GoString) : GoString := zBase32Loop 0 0 data

def wkdLocalPartHash (lib : Library) (digest : Digest) (localPart : GoString) : GoString :=
  zBase32Encode (digest.sum (toLower lib (trimSpace localPart)))

section Letters

variable {buf other bits : Nat} {data more : GoString} {letter : UInt8}

theorem zBase32Letter_mem (buf : Nat) : zBase32Letter buf ∈ zBase32Alphabet := by
  have every : ∀ value < 32, zBase32Alphabet.getD value 0 ∈ zBase32Alphabet := by decide
  exact every _ (Nat.mod_lt _ (by decide))

theorem zBase32Full_byte (few : bits < 5) :
    (bits < 2 ∧ zBase32Full buf (bits + 8) = ([zBase32Letter (buf / 2 ^ (bits + 3))], bits + 3)) ∨
      (2 ≤ bits ∧ zBase32Full buf (bits + 8) =
        ([zBase32Letter (buf / 2 ^ (bits + 3)), zBase32Letter (buf / 2 ^ (bits - 2))], bits - 2)) := by
  match bits with
  | 0 | 1 => exact .inl ⟨by decide, rfl⟩
  | 2 | 3 | 4 => exact .inr ⟨by decide, rfl⟩
  | bits + 5 => omega

theorem zBase32Loop_mem (few : bits < 5) (member : letter ∈ zBase32Loop buf bits data) :
    letter ∈ zBase32Alphabet := by
  induction data generalizing buf bits with
  | nil =>
    rw [zBase32Loop] at member
    split at member
    · rw [List.mem_singleton.mp member]
      exact zBase32Letter_mem _
    · cases member
  | cons byte data ih =>
    rw [zBase32Loop] at member
    dsimp only at member
    rcases @zBase32Full_byte ((buf * 256 + byte.toNat) % 2 ^ 64) bits few with
      ⟨small, full⟩ | ⟨large, full⟩
    · rw [full, List.singleton_append, List.mem_cons] at member
      rcases member with rfl | member
      · exact zBase32Letter_mem _
      · exact ih (by omega) member
    · rw [full, List.cons_append, List.singleton_append, List.mem_cons, List.mem_cons] at member
      rcases member with rfl | rfl | member
      · exact zBase32Letter_mem _
      · exact zBase32Letter_mem _
      · exact ih (by omega) member

theorem zBase32Loop_length (few : bits < 5) :
    (zBase32Loop buf bits data).length = (bits + 8 * data.length + 4) / 5 := by
  induction data generalizing buf bits with
  | nil =>
    rw [zBase32Loop]
    split
    · rw [List.length_singleton, List.length_nil]
      omega
    · rw [List.length_nil]
      omega
  | cons byte data ih =>
    rw [zBase32Loop, List.length_cons]
    dsimp only
    rcases @zBase32Full_byte ((buf * 256 + byte.toNat) % 2 ^ 64) bits few with
      ⟨small, full⟩ | ⟨large, full⟩
    · rw [full, List.length_append, List.length_singleton, ih (by omega)]
      omega
    · rw [full, List.length_append, ih (by omega), List.length_cons,
        List.length_singleton]
      omega

theorem wkdLocalPartHash_letters (lib : Library) (digest : Digest) (localPart : GoString) :
    (wkdLocalPartHash lib digest localPart).length = 32 ∧
      ∀ byte ∈ wkdLocalPartHash lib digest localPart, byte ∈ zBase32Alphabet := by
  constructor
  · rw [wkdLocalPartHash, zBase32Encode, zBase32Loop_length (by decide), digest.length]
  · exact fun byte member => zBase32Loop_mem (by decide) member

end Letters

def lowBits : Nat → Nat → List Bool
  | 0, _ => []
  | count + 1, value => value.testBit count :: lowBits count value

def textBits (data : GoString) : List Bool := data.flatMap fun byte => lowBits 8 byte.toNat

def groupLetter (a b c d e : Bool) : UInt8 :=
  zBase32Alphabet.getD (16 * a.toNat + 8 * b.toNat + 4 * c.toNat + 2 * d.toNat + e.toNat) 0

def groupLetters : List Bool → GoString
  | a :: b :: c :: d :: e :: rest => groupLetter a b c d e :: groupLetters rest
  | _ => []

def padding (bits : List Bool) : List Bool := List.replicate ((5 - bits.length % 5) % 5) false

def referenceLetters (bits : List Bool) : GoString := groupLetters (bits ++ padding bits)

section Reference

variable {count size value buf bits : Nat} {rest : List Bool} {data more : GoString}

@[simp] theorem lowBits_length (count value : Nat) : (lowBits count value).length = count := by
  induction count with
  | zero => rfl
  | succ count ih => rw [lowBits, List.length_cons, ih]

theorem lowBits_congr {other : Nat} (same : ∀ place < count, value.testBit place = other.testBit place) :
    lowBits count value = lowBits count other := by
  induction count with
  | zero => rfl
  | succ count ih =>
    rw [lowBits, lowBits, same count (Nat.lt_succ_self _),
      ih fun place below => same place (below.trans (Nat.lt_succ_self _))]

theorem lowBits_add (count size value : Nat) :
    lowBits (count + size) value = lowBits count (value / 2 ^ size) ++ lowBits size value := by
  induction count with
  | zero => rw [Nat.zero_add, lowBits, List.nil_append]
  | succ count ih =>
    rw [Nat.add_right_comm, lowBits, lowBits, ih, Nat.testBit_div_two_pow, List.cons_append]

theorem lowBits_zero (count : Nat) : lowBits count 0 = List.replicate count false := by
  induction count with
  | zero => rfl
  | succ count ih => rw [lowBits, ih, Nat.zero_testBit, List.replicate_succ]

theorem lowBits_mod (fits : count ≤ size) : lowBits count (value % 2 ^ size) = lowBits count value :=
  lowBits_congr fun place below => by
    rw [Nat.testBit_mod_two_pow, decide_eq_true (below.trans_le fits), Bool.true_and]

theorem lowBits_shift (fits : count + size ≤ 64) (small : value < 2 ^ size) :
    lowBits (count + size) ((buf * 2 ^ size + value) % 2 ^ 64) =
      lowBits count buf ++ lowBits size value := by
  have high : (buf * 2 ^ size + value) / 2 ^ size = buf := by
    rw [Nat.add_comm, Nat.add_mul_div_right _ _ (Nat.two_pow_pos size), Nat.div_eq_of_lt small,
      Nat.zero_add]
  have low : (buf * 2 ^ size + value) % 2 ^ size = value := by
    rw [Nat.add_comm, Nat.add_mul_mod_self_right, Nat.mod_eq_of_lt small]
  rw [lowBits_mod fits, lowBits_add, high, ← @lowBits_mod size size (buf * 2 ^ size + value) le_rfl, low]

theorem lowBits_inj {other : Nat} (same : lowBits count value = lowBits count other) :
    value % 2 ^ count = other % 2 ^ count := by
  induction count with
  | zero => rw [Nat.pow_zero, Nat.mod_one, Nat.mod_one]
  | succ count ih =>
    obtain ⟨first, others⟩ := List.cons.inj same
    rw [Nat.testBit_eq_decide_div_mod_eq, Nat.testBit_eq_decide_div_mod_eq, decide_eq_decide] at first
    have digit : value / 2 ^ count % 2 = other / 2 ^ count % 2 := by omega
    rw [Nat.mod_pow_succ, Nat.mod_pow_succ, digit, ih others]

theorem referenceLetters_cons (a b c d e : Bool) (rest : List Bool) :
    referenceLetters (a :: b :: c :: d :: e :: rest) = groupLetter a b c d e :: referenceLetters rest := by
  have fill : padding (a :: b :: c :: d :: e :: rest) = padding rest := by
    unfold padding
    congr 1
    simp only [List.length_cons]
    omega
  rw [referenceLetters, fill]
  rfl

theorem referenceLetters_lowBits (buf : Nat) (rest : List Bool) :
    referenceLetters (lowBits 5 buf ++ rest) = zBase32Letter buf :: referenceLetters rest := by
  have bit (place : Nat) : (buf.testBit place).toNat = buf / 2 ^ place % 2 := by
    rw [Nat.testBit_eq_decide_div_mod_eq]
    rcases Nat.mod_two_eq_zero_or_one (buf / 2 ^ place) with even | odd
    · rw [even]
      rfl
    · rw [odd]
      rfl
  have letter : groupLetter (buf.testBit 4) (buf.testBit 3) (buf.testBit 2) (buf.testBit 1)
      (buf.testBit 0) = zBase32Letter buf := by
    rw [groupLetter, zBase32Letter, bit, bit, bit, bit, bit]
    congr 1
    omega
  rw [← letter]
  exact referenceLetters_cons ..

theorem referenceLetters_full (buf bits : Nat) (rest : List Bool) :
    referenceLetters (lowBits bits buf ++ rest) =
      (zBase32Full buf bits).1 ++ referenceLetters (lowBits (zBase32Full buf bits).2 buf ++ rest) := by
  fun_induction zBase32Full buf bits with
  | case1 bits out left full ih =>
    rw [full] at ih
    have front := lowBits_add 5 bits buf
    rw [Nat.add_comm] at front
    rw [show bits.succ.succ.succ.succ.succ = bits + 5 from rfl, front, List.append_assoc,
      referenceLetters_lowBits, ih, List.cons_append]
  | case2 bits few => rfl

theorem zBase32Full_few (buf bits : Nat) : (zBase32Full buf bits).2 < 5 := by
  fun_induction zBase32Full buf bits with
  | case1 bits out left full ih => rwa [full] at ih
  | case2 bits few => exact Nat.lt_of_not_le fun many => few (bits - 5) (by omega)

theorem referenceLetters_left (few : bits < 5) :
    referenceLetters (lowBits bits buf) =
      if bits > 0 then [zBase32Letter (buf * 2 ^ (5 - bits))] else [] := by
  split
  next some =>
    have count : (5 - (lowBits bits buf).length % 5) % 5 = 5 - bits := by
      rw [lowBits_length]
      omega
    have parts := lowBits_add bits (5 - bits) (buf * 2 ^ (5 - bits))
    rw [Nat.mul_div_cancel _ (Nat.two_pow_pos _), show bits + (5 - bits) = 5 by omega,
      ← @lowBits_mod (5 - bits) (5 - bits) _ le_rfl, Nat.mul_mod_left, lowBits_zero] at parts
    have letter := referenceLetters_lowBits (buf * 2 ^ (5 - bits)) []
    rw [referenceLetters, padding, List.append_nil, lowBits_length] at letter
    rw [referenceLetters, padding, count, ← parts]
    exact (congrArg groupLetters (List.append_nil _).symm).trans letter
  next none =>
    obtain rfl : bits = 0 := by omega
    rw [lowBits]
    decide

theorem zBase32Loop_reference (few : bits < 5) :
    zBase32Loop buf bits data = referenceLetters (lowBits bits buf ++ textBits data) := by
  induction data generalizing buf bits with
  | nil =>
    rw [zBase32Loop, ← referenceLetters_left few]
    exact congrArg referenceLetters (List.append_nil _).symm
  | cons byte data ih =>
    have shifted := @lowBits_shift bits 8 byte.toNat buf (by omega) byte.toNat_lt
    rw [textBits, List.flatMap_cons, ← List.append_assoc, ← shifted, ← textBits, referenceLetters_full,
      ← ih (zBase32Full_few ..)]
    rfl

theorem groupLetters_inj {mine yours : List Bool} (lengths : mine.length = yours.length)
    (whole : mine.length % 5 = 0) (same : groupLetters mine = groupLetters yours) : mine = yours := by
  have distinct : ∀ a b c d e a' b' c' d' e', groupLetter a b c d e = groupLetter a' b' c' d' e' →
      [a, b, c, d, e] = [a', b', c', d', e'] := by decide
  fun_induction groupLetters mine generalizing yours with
  | case1 a b c d e rest ih =>
    match yours, lengths with
    | a' :: b' :: c' :: d' :: e' :: others, lengths =>
      obtain ⟨first, behind⟩ := List.cons.inj same
      simp only [List.length_cons, Nat.add_right_cancel_iff] at lengths whole
      have group := distinct _ _ _ _ _ _ _ _ _ _ first
      have tail := ih lengths (by omega) behind
      calc a :: b :: c :: d :: e :: rest = [a, b, c, d, e] ++ rest := rfl
        _ = [a', b', c', d', e'] ++ others := by rw [group, tail]
  | case2 mine short =>
    match mine, short with
    | [], _ => exact (List.length_eq_zero_iff.mp lengths.symm).symm
    | [_], _ | [_, _], _ | [_, _, _], _ | [_, _, _, _], _ => simp at whole
    | a :: b :: c :: d :: e :: rest, short => exact absurd rfl (short a b c d e rest)

theorem textBits_length (data : GoString) : (textBits data).length = 8 * data.length := by
  induction data with
  | nil => rfl
  | cons byte data ih =>
    rw [textBits, List.flatMap_cons, ← textBits, List.length_append, lowBits_length, ih, List.length_cons]
    omega

theorem textBits_inj (same : textBits data = textBits more) : data = more := by
  induction data generalizing more with
  | nil =>
    have lengths := congrArg List.length same
    rw [textBits_length, textBits_length, List.length_nil] at lengths
    exact (List.length_eq_zero_iff.mp (by omega)).symm
  | cons byte data ih =>
    cases more with
    | nil => cases same
    | cons next more =>
      obtain ⟨first, others⟩ := List.append_inj same (by rw [lowBits_length, lowBits_length])
      have value := lowBits_inj first
      rw [Nat.mod_eq_of_lt byte.toNat_lt, Nat.mod_eq_of_lt next.toNat_lt] at value
      rw [UInt8.toNat_inj.mp value, ih others]

theorem referenceLetters_inj {mine yours : List Bool} (lengths : mine.length = yours.length)
    (same : referenceLetters mine = referenceLetters yours) : mine = yours := by
  have fill : padding mine = padding yours := by rw [padding, padding, lengths]
  have whole : (mine ++ padding mine).length % 5 = 0 := by
    rw [List.length_append, padding, List.length_replicate]
    omega
  have equal := groupLetters_inj (by rw [List.length_append, List.length_append, lengths, fill]) whole same
  exact (List.append_inj equal lengths).1

/-- The letters are those of the reference, as many as the bits fill, and tell the text. -/
theorem zBase32Encode_faithful (data : GoString) :
    zBase32Encode data = referenceLetters (textBits data) ∧
      (zBase32Encode data).length = (8 * data.length + 4) / 5 ∧
      ∀ more : GoString, more.length = data.length → zBase32Encode more = zBase32Encode data →
        more = data := by
  have encoded (data : GoString) : zBase32Encode data = referenceLetters (textBits data) :=
    zBase32Loop_reference (by decide)
  refine ⟨encoded data, ?_, fun more lengths same => ?_⟩
  · rw [zBase32Encode, zBase32Loop_length (by decide), Nat.zero_add]
  · rw [encoded, encoded] at same
    refine textBits_inj (referenceLetters_inj ?_ same)
    rw [textBits_length, textBits_length, lengths]

end Reference

end ElvishMail.Openpgp
