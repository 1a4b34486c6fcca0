import Mathlib.Data.Nat.Digits.Defs
import Mathlib.Data.Nat.ModEq
import ElvishMail.Go.Strings

/-!
# Big integers and their bytes

The part of `math/big` that protocol code relies on: the big-endian bytes of a
number and back, and modular powers. A byte string without a leading zero is
the one that `Bytes` gives for its value.
-/

namespace Go

/-- `SetBytes`: the number with these big-endian bytes. -/
def setBytes (bytes : GoString) : Nat := Nat.ofDigits 256 (bytes.reverse.map UInt8.toNat)

/-- `Bytes`: the big-endian bytes of a number, without a leading zero. -/
def bigBytes (value : Nat) : GoString := (Nat.digits 256 value).reverse.map Nat.toUInt8

/-- `Exp`: a power modulo a positive number. -/
def bigExp (base exponent modulus : Nat) : Nat := base ^ exponent % modulus

variable {bytes rest : GoString} {byte : UInt8}

@[simp] theorem setBytes_nil : setBytes [] = 0 := rfl

theorem setBytes_cons : setBytes (byte :: rest) = byte.toNat * 256 ^ rest.length + setBytes rest := by
  simp only [setBytes, List.reverse_cons, List.map_append, List.map_cons, List.map_nil,
    Nat.ofDigits_append, Nat.ofDigits_singleton, List.length_map, List.length_reverse]
  ring

theorem setBytes_zeroes (count : Nat) : setBytes (List.replicate count 0 ++ rest) = setBytes rest := by
  induction count with
  | zero => rfl
  | succ count ih =>
    rw [List.replicate_succ, List.cons_append, setBytes_cons, ih]
    simp

theorem setBytes_dropZeroes : setBytes (bytes.dropWhile (· == 0)) = setBytes bytes := by
  induction bytes with
  | nil => rfl
  | cons byte bytes ih =>
    rw [List.dropWhile_cons]
    split
    next zero =>
      rw [ih, setBytes_cons, eq_of_beq zero]
      simp
    next => rfl

theorem digits_toUInt8 (value : Nat) :
    ((Nat.digits 256 value).map Nat.toUInt8).map UInt8.toNat = Nat.digits 256 value := by
  rw [List.map_map]
  refine (List.map_congr_left ?_).trans (List.map_id _)
  intro digit member
  have small : digit < 256 := Nat.digits_lt_base (by decide) member
  simp [Nat.toUInt8, UInt8.toNat_ofNat', Nat.mod_eq_of_lt small]

@[simp] theorem setBytes_bigBytes (value : Nat) : setBytes (bigBytes value) = value := by
  rw [setBytes, bigBytes, ← List.map_reverse, List.reverse_reverse, digits_toUInt8,
    Nat.ofDigits_digits]

theorem bigBytes_setBytes (head : ∀ byte ∈ bytes.head?, byte ≠ 0) : bigBytes (setBytes bytes) = bytes := by
  have digits : Nat.digits 256 (setBytes bytes) = bytes.reverse.map UInt8.toNat := by
    apply Nat.digits_ofDigits 256 (by decide)
    · intro digit member
      obtain ⟨byte, -, rfl⟩ := List.mem_map.mp member
      exact byte.toNat_lt
    · intro some zero
      cases bytes with
      | nil => exact some rfl
      | cons byte rest =>
        have first : byte ≠ 0 := head byte rfl
        simp only [List.reverse_cons, List.map_append, List.map_cons, List.map_nil,
          List.getLast_append_singleton] at zero
        exact first (UInt8.toNat_inj.mp zero)
  rw [bigBytes, digits, ← List.map_reverse, List.reverse_reverse, List.map_map]
  refine (List.map_congr_left fun byte _ => ?_).trans (List.map_id _)
  simp [Nat.toUInt8]

end Go
