import Mathlib.Data.Nat.Digits.Lemmas
import ElvishMail.Go.Strings
import ElvishMail.Js.Strings

/-!
# Numbers as text, text as bytes

What browser code uses to get from big integers to bytes and back: hexadecimal
text. A string is encoded as UTF-8 with a replacement for every surrogate that
stands alone.
-/

namespace Js

def isHigh (unit : UInt16) : Bool := 0xD800 ≤ unit && unit ≤ 0xDBFF

def isLow (unit : UInt16) : Bool := 0xDC00 ≤ unit && unit ≤ 0xDFFF

/-- `TextEncoder.encode`. -/
def encodeUtf8 : JsString → List UInt8
  | [] => []
  | unit :: rest =>
    if isHigh unit then
      match rest with
      | low :: others =>
        if isLow low then
          Go.encodeRune (0x10000 + (unit.toNat - 0xD800) * 0x400 + (low.toNat - 0xDC00)) ++
            encodeUtf8 others
        else Go.encodeRune 0xFFFD ++ encodeUtf8 (low :: others)
      | [] => Go.encodeRune 0xFFFD
    else if isLow unit then Go.encodeRune 0xFFFD ++ encodeUtf8 rest
    else Go.encodeRune unit.toNat ++ encodeUtf8 rest

theorem encodeUtf8_cons {unit : UInt16} {rest : JsString} (single : ¬isHigh unit = true) :
    encodeUtf8 (unit :: rest) =
      Go.encodeRune (if isLow unit then 0xFFFD else unit.toNat) ++ encodeUtf8 rest := by
  rw [encodeUtf8.eq_def]
  dsimp only
  rw [if_neg single]
  split <;> rfl

theorem encodeUtf8_between (before behind : JsString) {unit : UInt16} (high : ¬isHigh unit = true)
    (low : ¬isLow unit = true) :
    encodeUtf8 (before ++ unit :: behind) =
      encodeUtf8 before ++ Go.encodeRune unit.toNat ++ encodeUtf8 behind := by
  have alone : encodeUtf8 (unit :: behind) = Go.encodeRune unit.toNat ++ encodeUtf8 behind := by
    rw [encodeUtf8_cons high, if_neg low]
  fun_induction encodeUtf8 before with
  | case1 => simpa using alone
  | case2 first pair second others follows ih =>
    simp [encodeUtf8, pair, follows, ih]
  | case3 first pair second others follows ih =>
    rw [List.cons_append] at ih
    simp [encodeUtf8, pair, follows, ih]
  | case4 first pair => simp [encodeUtf8, pair, low, alone]
  | case5 first rest pair single ih =>
    rw [List.cons_append, encodeUtf8_cons pair, ih, if_pos single]
    simp
  | case6 first rest pair single ih =>
    rw [List.cons_append, encodeUtf8_cons pair, ih, if_neg single]
    simp

def hexDigit (value : Nat) : UInt16 := if value < 10 then (48 + value).toUInt16 else (87 + value).toUInt16

def hexValue (unit : UInt16) : Nat :=
  let code := unit.toNat
  if code ≤ 57 then code - 48 else if code ≤ 70 then code - 55 else code - 87

/-- `toString(16)` of a number that is not negative. -/
def hexText (value : Nat) : JsString :=
  if value = 0 then lit "0" else (Nat.digits 16 value).reverse.map hexDigit

/-- `BigInt("0x" + text)` and `parseInt(text, 16)` of hexadecimal digits. -/
def parseHex (text : JsString) : Nat := Nat.ofDigits 16 (text.reverse.map hexValue)

/-- `padStart(2, "0")`. -/
def padTwo (text : JsString) : JsString := List.replicate (2 - text.length) 48 ++ text

theorem hexValue_hexDigit {value : Nat} (small : value < 16) : hexValue (hexDigit value) = value := by
  revert value
  decide

theorem parseHex_cons {unit : UInt16} {rest : JsString} :
    parseHex (unit :: rest) = hexValue unit * 16 ^ rest.length + parseHex rest := by
  simp only [parseHex, List.reverse_cons, List.map_append, List.map_cons, List.map_nil,
    Nat.ofDigits_append, Nat.ofDigits_singleton, List.length_map, List.length_reverse]
  ring

theorem parseHex_append {text rest : JsString} :
    parseHex (text ++ rest) = parseHex text * 16 ^ rest.length + parseHex rest := by
  induction text with
  | nil => simp [parseHex]
  | cons unit text ih =>
    rw [List.cons_append, parseHex_cons, ih, parseHex_cons, List.length_append,
      pow_add]
    ring

theorem hexText_digits (value : Nat) : ∀ unit ∈ hexText value, hexValue unit < 16 := by
  intro unit member
  unfold hexText at member
  split at member
  · obtain rfl : unit = 0x30 := List.mem_singleton.mp member
    decide
  · obtain ⟨digit, inside, rfl⟩ := List.mem_map.mp member
    have small : digit < 16 := Nat.digits_lt_base (by decide) (List.mem_reverse.mp inside)
    rwa [hexValue_hexDigit small]

@[simp] theorem parseHex_hexText (value : Nat) : parseHex (hexText value) = value := by
  unfold hexText
  split
  next zero =>
    subst zero
    decide
  next =>
    rw [parseHex, ← List.map_reverse, List.reverse_reverse, List.map_map]
    have digits : (Nat.digits 16 value).map (hexValue ∘ hexDigit) = Nat.digits 16 value := by
      refine (List.map_congr_left ?_).trans (List.map_id _)
      intro digit member
      exact hexValue_hexDigit (Nat.digits_lt_base (by decide) member)
    rw [digits, Nat.ofDigits_digits]

theorem hexText_head {value : Nat} (positive : value ≠ 0) :
    ∃ unit rest, hexText value = unit :: rest ∧ hexValue unit ≠ 0 := by
  have some : Nat.digits 16 value ≠ [] := Nat.digits_ne_nil_iff_ne_zero.mpr positive
  have last : (Nat.digits 16 value).getLast some ≠ 0 := Nat.getLast_digit_ne_zero 16 positive
  have small : (Nat.digits 16 value).getLast some < 16 :=
    Nat.digits_lt_base (by decide) (List.getLast_mem some)
  refine ⟨hexDigit ((Nat.digits 16 value).getLast some),
    ((Nat.digits 16 value).dropLast.reverse).map hexDigit, ?_, ?_⟩
  · rw [hexText, if_neg positive, ← List.map_cons]
    conv_lhs => rw [← List.dropLast_append_getLast some]
    simp
  · rwa [hexValue_hexDigit small]

end Js
