import ElvishMail.Go.Base64
import ElvishMail.Go.Runes

/-!
# Texts for bytes

The encodings a program writes random or opaque bytes in: what is encoded in base64
is decoded again, and the text has no white space, no quote and no separator in it.
-/

namespace Go

theorem forall_byte {Holds : UInt8 → Prop} (every : ∀ value : Nat, value < 256 → Holds value.toUInt8)
    (byte : UInt8) :
    Holds byte := by
  have holds := every byte.toNat byte.toNat_lt
  rwa [show byte.toNat.toUInt8 = byte from UInt8.ofNat_toNat] at holds

def isBase64Byte (byte : UInt8) : Bool :=
  inRange 65 90 byte || inRange 97 122 byte || inRange 48 57 byte || byte == 43 || byte == 47 ||
    byte == 0x3D

theorem base64Value_char {value : Nat} (small : value < 64) :
    base64Value (base64Char value) = some value := by
  have every : ∀ value < 64, base64Value (base64Char value) = some value := by decide
  exact every value small

theorem isBase64Byte_char {value : Nat} (small : value < 64) : isBase64Byte (base64Char value) = true := by
  have every : ∀ value < 64, isBase64Byte (base64Char value) = true := by decide
  exact every value small

theorem base64Char_ne_pad {value : Nat} (small : value < 64) : base64Char value ≠ 0x3D := by
  have every : ∀ value < 64, base64Char value ≠ 0x3D := by decide
  exact every value small

theorem base64Encode_bytes (data : GoString) : ∀ byte ∈ base64Encode data, isBase64Byte byte = true := by
  have pad : isBase64Byte 0x3D = true := by decide
  induction data using base64Encode.induct with
  | case1 => simp [base64Encode]
  | case2 a =>
    have bound := a.toNat_lt
    simp only [base64Encode, List.forall_mem_cons, List.not_mem_nil, false_implies, implies_true,
      and_true]
    exact ⟨isBase64Byte_char (by omega), isBase64Byte_char (by omega), pad, pad⟩
  | case3 a b =>
    have boundA := a.toNat_lt
    have boundB := b.toNat_lt
    simp only [base64Encode, List.forall_mem_cons, List.not_mem_nil, false_implies, implies_true,
      and_true]
    exact ⟨isBase64Byte_char (by omega), isBase64Byte_char (by omega),
      isBase64Byte_char (by omega), pad⟩
  | case4 a b c rest ih =>
    have boundA := a.toNat_lt
    have boundB := b.toNat_lt
    have boundC := c.toNat_lt
    simp only [base64Encode, List.forall_mem_cons]
    exact ⟨isBase64Byte_char (by omega), isBase64Byte_char (by omega),
      isBase64Byte_char (by omega), isBase64Byte_char (by omega), ih⟩

theorem toUInt8_of_toNat {byte : UInt8} {value : Nat} (same : value = byte.toNat) :
    value.toUInt8 = byte := by
  rw [same]
  exact UInt8.ofNat_toNat

theorem base64Quanta_encode (data : GoString) : base64Quanta (base64Encode data) = some data := by
  induction data using base64Encode.induct with
  | case1 => rfl
  | case2 a =>
    have bound := a.toNat_lt
    rw [base64Encode, base64Quanta, base64Value_char (by omega), base64Value_char (by omega)]
    exact congrArg (fun byte => some [byte]) (toUInt8_of_toNat (by omega))
  | case3 a b =>
    have boundA := a.toNat_lt
    have boundB := b.toNat_lt
    rw [base64Encode, base64Quanta, base64Value_char (by omega), base64Value_char (by omega),
      base64Value_char (by omega)]
    · simp only [Option.bind_eq_bind, Option.bind_some, and_self, if_true]
      rw [@toUInt8_of_toNat a _ (by omega), @toUInt8_of_toNat b _ (by omega)]
    · intro same
      exact absurd same (base64Char_ne_pad (by omega))
  | case4 a b c rest ih =>
    have boundA := a.toNat_lt
    have boundB := b.toNat_lt
    have boundC := c.toNat_lt
    rw [base64Encode, base64Quanta, base64Value_char (by omega), base64Value_char (by omega),
      base64Value_char (by omega)]
    · simp only [Option.bind_eq_bind, Option.bind_some]
      rw [if_neg fun padded => base64Char_ne_pad (Nat.mod_lt _ (by decide)) padded.1,
        base64Value_char (by omega), ih]
      simp only [Option.bind_some]
      rw [@toUInt8_of_toNat a _ (by omega), @toUInt8_of_toNat b _ (by omega),
        @toUInt8_of_toNat c _ (by omega)]
    · intro same
      exact absurd same (base64Char_ne_pad (by omega))

theorem base64Decode_encode (data : GoString) :
    base64Decode (trimSpace (base64Encode data)) = some data := by
  have plain (byte : UInt8) (encoded : isBase64Byte byte = true) :
      (byte.toNat < 0x80 ∧ isSpace byte.toNat = false) ∧ byte ≠ 0x0D ∧ byte ≠ 0x0A := by
    simp [isBase64Byte, inRange, isSpace, ← UInt8.toNat_inj] at encoded ⊢
    omega
  have bytes := base64Encode_bytes data
  rw [trimSpace_solid fun byte member => (plain byte (bytes byte member)).1, base64Decode,
    List.filter_eq_self.mpr, base64Quanta_encode]
  intro byte member
  obtain ⟨-, noReturn, noFeed⟩ := plain byte (bytes byte member)
  simp [noReturn, noFeed]

/-- `base64.RawURLEncoding.EncodeToString`: two other characters, and no padding. -/
def base64RawURLEncode (data : GoString) : GoString :=
  ((base64Encode data).filter (· != 0x3D)).map fun byte =>
    if byte = 43 then 45 else if byte = 47 then 95 else byte

def hexDigit (value : Nat) : UInt8 :=
  if value < 10 then (value + 48).toUInt8 else (value + 87).toUInt8

/-- `hex.EncodeToString`. -/
def hexEncode (data : GoString) : GoString :=
  data.flatMap fun byte => [hexDigit (byte.toNat / 16), hexDigit (byte.toNat % 16)]

def uuidText (data : GoString) : GoString :=
  hexEncode (data.take 4) ++ ascii "-" ++ hexEncode ((data.drop 4).take 2) ++ ascii "-" ++
    hexEncode ((data.drop 6).take 2) ++ ascii "-" ++ hexEncode ((data.drop 8).take 2) ++
    ascii "-" ++ hexEncode (data.drop 10)

/-- A character of a token: a letter, a digit, `-` or `_`. -/
def isTokenByte (byte : UInt8) : Bool :=
  inRange 65 90 byte || inRange 97 122 byte || inRange 48 57 byte || byte == 45 || byte == 95

theorem base64RawURLEncode_bytes (data : GoString) :
    ∀ byte ∈ base64RawURLEncode data, isTokenByte byte = true := by
  have every (byte : UInt8) (standard : isBase64Byte byte = true) (unpadded : byte ≠ 0x3D) :
      isTokenByte (if byte = 43 then 45 else if byte = 47 then 95 else byte) = true := by
    split_ifs <;> simp_all [isBase64Byte, isTokenByte, inRange]
  intro byte member
  obtain ⟨standard, kept, rfl⟩ := List.mem_map.mp member
  obtain ⟨encoded, unpadded⟩ := List.mem_filter.mp kept
  exact every standard (base64Encode_bytes data standard encoded) (by simpa using unpadded)

theorem hexEncode_bytes (data : GoString) : ∀ byte ∈ hexEncode data, isTokenByte byte = true := by
  have every : ∀ value < 16, isTokenByte (hexDigit value) = true := by decide
  intro byte member
  obtain ⟨source, -, digit⟩ := List.mem_flatMap.mp member
  have bound := source.toNat_lt
  simp only [List.mem_cons, List.not_mem_nil, or_false] at digit
  rcases digit with rfl | rfl
  · exact every _ (by omega)
  · exact every _ (by omega)

theorem uuidText_bytes (data : GoString) : ∀ byte ∈ uuidText data, isTokenByte byte = true := by
  have dash : ∀ byte ∈ ascii "-", isTokenByte byte = true := List.all_eq_true.mp (by decide)
  intro byte member
  simp only [uuidText, List.mem_append] at member
  rcases member with (((((((member | member) | member) | member) | member) | member) | member) |
    member) | member
  all_goals first | exact hexEncode_bytes _ byte member | exact dash byte member

theorem isTokenByte_plain (byte : UInt8) (token : isTokenByte byte = true) :
    byte.toNat < 0x80 ∧ isSpace byte.toNat = false := by
  simp [isTokenByte, inRange, isSpace, ← UInt8.toNat_inj] at token ⊢
  omega

theorem trimSpace_token {text : GoString} (token : ∀ byte ∈ text, isTokenByte byte = true) :
    trimSpace text = text :=
  trimSpace_solid fun byte member => isTokenByte_plain byte (token byte member)

theorem toLower_token (lib : Library) {text : GoString} (token : ∀ byte ∈ text, isTokenByte byte = true) :
    toLower lib text = text.map lowerByte := by
  have lowered := toLower_ascii lib text [] fun byte member =>
    (isTokenByte_plain byte (token byte member)).1
  simpa using lowered

end Go
