import Mathlib.Algebra.Group.Int.Defs
import Mathlib.Algebra.Group.Nat.Defs
import Mathlib.Data.List.Basic

/-!
# Go strings as byte sequences

A Go `string` is a byte sequence, not a sequence of characters. This module
gives the part of the `strings`, `unicode` and `utf8` packages the mail system
relies on: byte searches, trimming, field splitting, prefix tests, and the rune
decoding under which white space and letter case are defined.

Invalid UTF-8 decodes to `U+FFFD` one byte at a time, exactly as
`utf8.DecodeRuneInString` does. The Unicode letter-case tables outside ASCII
and the RFC 5322 parsers of `net/mail` are fields of `Library`: results about
the programs below hold for every choice of them.
-/

namespace Go

abbrev GoString := List UInt8

instance lawfulGoString : LawfulBEq GoString := inferInstance

instance lawfulNumbered : LawfulBEq (Nat × GoString) := inferInstance

def ascii (text : String) : GoString := text.toList.map fun c => c.toNat.toUInt8

theorem ascii_ofList (chars : List Char) :
    ascii (String.ofList chars) = chars.map fun c => c.toNat.toUInt8 := by
  rw [ascii, String.toList_ofList]

/-- Decimal digits in front of `digits`; a number has at most as many decimal as
binary digits, which bounds the fuel. -/
def decimal : Nat → Nat → GoString → GoString
  | 0, _, digits => digits
  | fuel + 1, value, digits =>
    let digits := (48 + value % 10).toUInt8 :: digits
    if value / 10 = 0 then digits else decimal fuel (value / 10) digits

/-- `strconv.Itoa` and `fmt`'s `%d`. -/
def itoa (value : Int) : GoString :=
  (if value < 0 then [0x2D] else []) ++ decimal (value.natAbs.log2 + 1) value.natAbs []

/-- `unicode.ReplacementChar`, which stands for every undecodable byte. -/
def runeError : Nat := 0xFFFD

def inRange (low high : Nat) (byte : UInt8) : Bool :=
  low ≤ byte.toNat && byte.toNat ≤ high

/-- The admissible second bytes after each lead byte, with the payload of the
lead byte and the number of further continuation bytes; `none` for a byte that
starts no multi-byte rune. -/
def leadByte (byte : UInt8) : Option (Nat × Nat × Nat × Nat) :=
  let value := byte.toNat
  if 0xC2 ≤ value ∧ value ≤ 0xDF then some (value - 0xC0, 0x80, 0xBF, 0)
  else if value = 0xE0 then some (0, 0xA0, 0xBF, 1)
  else if value = 0xED then some (0xD, 0x80, 0x9F, 1)
  else if 0xE1 ≤ value ∧ value ≤ 0xEF then some (value - 0xE0, 0x80, 0xBF, 1)
  else if value = 0xF0 then some (0, 0x90, 0xBF, 2)
  else if 0xF1 ≤ value ∧ value ≤ 0xF3 then some (value - 0xF0, 0x80, 0xBF, 2)
  else if value = 0xF4 then some (4, 0x80, 0x8F, 2)
  else none

def continuation (acc : Nat) : Nat → GoString → Option Nat
  | 0, _ => some acc
  | count + 1, byte :: rest =>
    if inRange 0x80 0xBF byte then continuation (acc * 64 + (byte.toNat - 0x80)) count rest
    else none
  | _ + 1, [] => none

/-- `utf8.DecodeRuneInString` of a non-empty string split at its first byte:
the rune and its width in bytes. -/
def decodeRune (first : UInt8) (rest : GoString) : Nat × Nat :=
  if first.toNat < 0x80 then (first.toNat, 1)
  else match leadByte first, rest with
    | some (payload, low, high, more), second :: tail =>
      if inRange low high second then
        match continuation (payload * 64 + (second.toNat - 0x80)) more tail with
        | some rune => (rune, more + 2)
        | none => (runeError, 1)
      else (runeError, 1)
    | _, _ => (runeError, 1)

/-- One decoded rune together with the bytes it was decoded from. -/
structure Rune where
  value : Nat
  raw : GoString
deriving DecidableEq

/-- `range s` for at most `fuel` runes. -/
def runesFuel : Nat → GoString → List Rune
  | 0, _ => []
  | _ + 1, [] => []
  | fuel + 1, first :: rest =>
    let decoded := decodeRune first rest
    ⟨decoded.1, (first :: rest).take decoded.2⟩ ::
      runesFuel fuel ((first :: rest).drop decoded.2)

/-- The runes of a string in order. Every rune is at least one byte wide, so
the length of the string is enough fuel. -/
def runes (text : GoString) : List Rune := runesFuel text.length text

def joinRunes (decoded : List Rune) : GoString := decoded.flatMap Rune.raw

/-- `utf8.AppendRune`: the encoding of a code point. -/
def encodeRune (rune : Nat) : GoString :=
  let valid := if rune > 0x10FFFF ∨ (0xD800 ≤ rune ∧ rune ≤ 0xDFFF) then runeError else rune
  if valid < 0x80 then [valid.toUInt8]
  else if valid < 0x800 then [(0xC0 + valid / 64).toUInt8, (0x80 + valid % 64).toUInt8]
  else if valid < 0x10000 then
    [(0xE0 + valid / 4096).toUInt8, (0x80 + valid / 64 % 64).toUInt8, (0x80 + valid % 64).toUInt8]
  else
    [(0xF0 + valid / 262144).toUInt8, (0x80 + valid / 4096 % 64).toUInt8,
      (0x80 + valid / 64 % 64).toUInt8, (0x80 + valid % 64).toUInt8]

def isSpace (rune : Nat) : Bool :=
  (9 ≤ rune && rune ≤ 13) || rune == 0x20 || rune == 0x85 || rune == 0xA0 || rune == 0x1680 ||
    (0x2000 ≤ rune && rune ≤ 0x200A) || rune == 0x2028 || rune == 0x2029 || rune == 0x202F ||
    rune == 0x205F || rune == 0x3000

/-- The parts of Go's standard library that are tables or grammars of their own:
letter case outside ASCII (`unicode.ToLower`, `unicode.ToUpper`,
`strings.EqualFold`), the quoting of unprintable runes (`strconv.Quote`), and
the RFC 5322 parsers `mail.ParseAddress`, returning the `Address` field, and
`mail.ReadMessage`, returning `Header.Get`. -/
structure Library where
  lowerRune : Nat → Nat
  upperRune : Nat → Nat
  equalFold : GoString → GoString → Bool
  quote : GoString → GoString
  parseAddress : GoString → Option GoString
  readMessage : GoString → Option (GoString → GoString)

/-- `unicode.ToLower`, whose ASCII part is fixed. -/
def Library.toLowerRune (lib : Library) (rune : Nat) : Nat :=
  if rune < 0x80 then (if 65 ≤ rune ∧ rune ≤ 90 then rune + 32 else rune) else lib.lowerRune rune

/-- `unicode.ToUpper`, whose ASCII part is fixed. -/
def Library.toUpperRune (lib : Library) (rune : Nat) : Nat :=
  if rune < 0x80 then (if 97 ≤ rune ∧ rune ≤ 122 then rune - 32 else rune) else lib.upperRune rune

/-- `strings.ToLower`. An undecodable byte becomes the encoding of `U+FFFD`. -/
def toLower (lib : Library) (text : GoString) : GoString :=
  (runes text).flatMap fun rune => encodeRune (lib.toLowerRune rune.value)

def toUpper (lib : Library) (text : GoString) : GoString :=
  (runes text).flatMap fun rune => encodeRune (lib.toUpperRune rune.value)

/-- `net/mail`, the case tables and quoting on plain lower-case ASCII input: an
addr-spec without white space, angle brackets, quotes or parentheses and with
one `@` inside is its own address, and no message has a readable header. -/
def Library.plain : Library where
  lowerRune rune := rune
  upperRune rune := rune
  equalFold text other := text == other
  quote text := [0x22] ++ text ++ [0x22]
  parseAddress text :=
    let special : UInt8 → Bool := fun byte =>
      byte.toNat ≤ 0x20 || byte.toNat ≥ 0x7F || (ascii "<>\"(),:;[]\\").contains byte
    if text.any special then none
    else match text.splitOnP (· == 0x40) with
      | [localPart, domain] => if localPart.isEmpty || domain.isEmpty then none else some text
      | _ => none
  readMessage _ := none

def hasPrefix (text start : GoString) : Bool := start.isPrefixOf text

/-- `strings.IndexByte`, with `none` for `-1`. -/
def indexByte (text : GoString) (byte : UInt8) : Option Nat := text.findIdx? (· == byte)

/-- `strings.LastIndex` of a one-byte pattern, with `none` for `-1`. -/
def lastIndexByte (text : GoString) (byte : UInt8) : Option Nat :=
  (indexByte text.reverse byte).map fun index => text.length - 1 - index

/-- `strings.TrimLeft(text, " ")`. -/
def trimLeftSpaces (text : GoString) : GoString := text.dropWhile (· == 0x20)

/-- `strings.TrimRight(text, "\r\n")`. -/
def trimRightCRLF (text : GoString) : GoString :=
  (text.reverse.dropWhile fun byte => byte == 0x0D || byte == 0x0A).reverse

def trimSpace (text : GoString) : GoString :=
  joinRunes
    (((runes text).dropWhile fun rune => isSpace rune.value).reverse.dropWhile
      fun rune => isSpace rune.value).reverse

/-- `strings.Fields`: the maximal non-empty runs of runes that are not white space. -/
def fields (text : GoString) : List GoString :=
  (((runes text).splitOnP fun rune => isSpace rune.value).map joinRunes).filter (!·.isEmpty)

/-- `strings.ReplaceAll` for one-byte patterns of the same width. -/
def replaceByte (text : GoString) (old new : UInt8) : GoString :=
  text.map fun byte => if byte == old then new else byte

def hasSuffix (text stop : GoString) : Bool := stop.isSuffixOf text

def trimSuffix (text stop : GoString) : GoString :=
  if hasSuffix text stop then text.take (text.length - stop.length) else text

/-- `strings.Index`, with `none` for `-1`. -/
def index (text pattern : GoString) : Option Nat :=
  text.tails.findIdx? (pattern.isPrefixOf ·)

/-- The scan of `strings.ReplaceAll` for a non-empty pattern: bytes of a match
still to be passed over, then the text. -/
def replaceScan (old new : GoString) : Nat → GoString → GoString
  | _, [] => []
  | skip + 1, _ :: rest => replaceScan old new skip rest
  | 0, byte :: rest =>
    if old.isPrefixOf (byte :: rest) then new ++ replaceScan old new (old.length - 1) rest
    else byte :: replaceScan old new 0 rest

/-- `strings.ReplaceAll` for a non-empty pattern. -/
def replaceAll (text old new : GoString) : GoString := replaceScan old new 0 text

def digits : GoString → Nat → Option Nat
  | [], value => some value
  | byte :: rest, value =>
    if 48 ≤ byte.toNat ∧ byte.toNat ≤ 57 then digits rest (value * 10 + (byte.toNat - 48)) else none

/-- `strconv.Atoi` of a text too short to overflow: an optional sign and at least
one digit. -/
def atoi (text : GoString) : Option Int :=
  match text with
  | 0x2B :: first :: rest => (digits (first :: rest) 0).map Int.ofNat
  | 0x2D :: first :: rest => (digits (first :: rest) 0).map fun value => -(value : Int)
  | first :: rest => (digits (first :: rest) 0).map Int.ofNat
  | [] => none

def join (parts : List GoString) (separator : GoString) : GoString :=
  separator.intercalate parts

example : toLower .plain [0x41, 0xFF] = [0x61, 0xEF, 0xBF, 0xBD] := by decide

end Go
