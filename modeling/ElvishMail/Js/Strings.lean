import Mathlib.Data.List.Basic

/-!
# JavaScript strings

A JavaScript string is a sequence of UTF-16 code units. This module gives the
part of `String.prototype` and of the regular expressions that the browser code
relies on. Letter case outside ASCII is a table of its own, and a field of
`Library`.
-/

namespace Js

abbrev JsString := List UInt16

instance lawfulJsString : LawfulBEq JsString := inferInstance

/-- The code units of an ASCII literal of the source. -/
def lit (text : String) : JsString := text.toList.map fun c => c.toNat.toUInt16

theorem lit_ofList (chars : List Char) :
    lit (String.ofList chars) = chars.map fun c => c.toNat.toUInt16 := by
  rw [lit, String.toList_ofList]

/-- White space and line terminators, as `trim` and `\s` know them. -/
def isWhite (unit : UInt16) : Bool :=
  let code := unit.toNat
  (9 ≤ code && code ≤ 13) || code == 0x20 || code == 0xA0 || code == 0x1680 ||
    (0x2000 ≤ code && code ≤ 0x200A) || code == 0x2028 || code == 0x2029 || code == 0x202F ||
    code == 0x205F || code == 0x3000 || code == 0xFEFF

def trimStart (text : JsString) : JsString := text.dropWhile isWhite

def trimEnd (text : JsString) : JsString := (text.reverse.dropWhile isWhite).reverse

def trim (text : JsString) : JsString := trimEnd (trimStart text)

/-- `replace(/\s+/g, "")`. -/
def stripWhite (text : JsString) : JsString := text.filter fun unit => !isWhite unit

/-- `slice(-count)` for a positive count. -/
def lastUnits (count : Nat) (text : JsString) : JsString := text.drop (text.length - count)

def startsWith (text start : JsString) : Bool := start.isPrefixOf text

def endsWith (text stop : JsString) : Bool := stop.isSuffixOf text

/-- `indexOf`, with `none` for `-1`. -/
def indexOf (text pattern : JsString) : Option Nat := text.tails.findIdx? (pattern.isPrefixOf ·)

structure Library where
  toUpperCase : JsString → JsString
  toLowerCase : JsString → JsString

def lowerUnit (unit : UInt16) : UInt16 := if 65 ≤ unit ∧ unit ≤ 90 then unit + 32 else unit

def upperUnit (unit : UInt16) : UInt16 := if 97 ≤ unit ∧ unit ≤ 122 then unit - 32 else unit

def Library.plain : Library := ⟨List.map upperUnit, List.map lowerUnit⟩

end Js
