import ElvishMail.Go.Strings

/-!
# `encoding/base64`

`StdEncoding.DecodeString`: line breaks inside the text are skipped, the last
quantum must be padded, nothing may follow the padding, and the bits a padded
quantum leaves unused are not checked.
-/

namespace Go

def base64Value (byte : UInt8) : Option Nat :=
  let value := byte.toNat
  if 65 ≤ value ∧ value ≤ 90 then some (value - 65)
  else if 97 ≤ value ∧ value ≤ 122 then some (value - 71)
  else if 48 ≤ value ∧ value ≤ 57 then some (value + 4)
  else if value = 43 then some 62
  else if value = 47 then some 63
  else none

/-- Decode quanta of four characters; `0x3D` is the padding character. -/
def base64Quanta : GoString → Option GoString
  | [] => some []
  | [first, second, 0x3D, 0x3D] => do
      let a ← base64Value first
      let b ← base64Value second
      some [(a * 4 + b / 16).toUInt8]
  | first :: second :: third :: fourth :: rest => do
      let a ← base64Value first
      let b ← base64Value second
      let c ← base64Value third
      if fourth = 0x3D ∧ rest = [] then
        some [(a * 4 + b / 16).toUInt8, (b % 16 * 16 + c / 4).toUInt8]
      else
        let d ← base64Value fourth
        let tail ← base64Quanta rest
        some ((a * 4 + b / 16).toUInt8 :: (b % 16 * 16 + c / 4).toUInt8 ::
          (c % 4 * 64 + d).toUInt8 :: tail)
  | _ => none

/-- `base64.StdEncoding.DecodeString`. -/
def base64Decode (text : GoString) : Option GoString :=
  base64Quanta (text.filter fun byte => byte != 0x0D && byte != 0x0A)

def base64Char (value : Nat) : UInt8 :=
  if value < 26 then (value + 65).toUInt8
  else if value < 52 then (value + 71).toUInt8
  else if value < 62 then (value - 4).toUInt8
  else if value = 62 then 43
  else 47

/-- `base64.StdEncoding.EncodeToString`. -/
def base64Encode : GoString → GoString
  | [] => []
  | [a] => [base64Char (a.toNat / 4), base64Char (a.toNat % 4 * 16), 0x3D, 0x3D]
  | [a, b] =>
    [base64Char (a.toNat / 4), base64Char (a.toNat % 4 * 16 + b.toNat / 16),
      base64Char (b.toNat % 16 * 4), 0x3D]
  | a :: b :: c :: rest =>
    base64Char (a.toNat / 4) :: base64Char (a.toNat % 4 * 16 + b.toNat / 16) ::
      base64Char (b.toNat % 16 * 4 + c.toNat / 64) :: base64Char (c.toNat % 64) ::
        base64Encode rest

end Go
