import MoeUV.Foundation.Memory
import Mathlib.Data.Nat.Digits.Defs

/-!
# Address text and the character helpers of Moe.Core

Texts are byte strings of arbitrary content. Moe.Core is not part of the
repository: its character tests and digit conversions are supplied from
outside, together with the documented behaviour that the address code relies
on. A buffer given as a C string ends at its first NUL byte.
-/

namespace MoeUV

open Foundation.Memory

abbrev Text := List Octet

/-- The byte of an ASCII character. -/
def ascii (character : Char) : Octet := BitVec.ofNat 8 character.toNat

/-- The bytes of a C string in memory, up to but excluding its first NUL. -/
def cString (memory : Text) : Text := memory.takeWhile (fun byte => decide (byte ≠ 0))

def decimalDigit (byte : Octet) : Prop := ascii '0' ≤ byte ∧ byte ≤ ascii '9'

/-- The value of a hexadecimal digit, if the byte is one. -/
def hexValue (byte : Octet) : Option Nat :=
  if ascii '0' ≤ byte ∧ byte ≤ ascii '9' then some (byte.toNat - (ascii '0').toNat)
  else if ascii 'a' ≤ byte ∧ byte ≤ ascii 'f' then some (byte.toNat - (ascii 'a').toNat + 10)
  else if ascii 'A' ≤ byte ∧ byte ≤ ascii 'F' then some (byte.toNat - (ascii 'A').toNat + 10)
  else none

/-- `StringUtils` and `Convert` of Moe.Core with their documented behaviour:
the tests have their ASCII meaning, and the conversions write the shortest
numeral, decimal or lower-case hexadecimal, before the terminating NUL. -/
structure MoeCore where
  isDigit : Octet → Bool
  isHexDigit : Octet → Bool
  hexDigitToNumber : Octet → Nat
  toDecimalString : BitVec 8 → Text
  toHexStringLower : BitVec 16 → Text
  isDigit_iff : ∀ byte, isDigit byte = true ↔ decimalDigit byte
  isHexDigit_iff : ∀ byte, isHexDigit byte = true ↔ (hexValue byte).isSome = true
  hexDigitToNumber_eq : ∀ byte value, hexValue byte = some value → hexDigitToNumber byte = value
  toDecimalString_eq : ∀ value,
    toDecimalString value = (Nat.toDigits 10 value.toNat).map ascii
  toHexStringLower_eq : ∀ value,
    toHexStringLower value = (Nat.toDigits 16 value.toNat).map ascii

/-- The helpers have a realization: the ASCII tests and positional numerals. -/
def MoeCore.standard : MoeCore where
  isDigit byte := decide (ascii '0' ≤ byte ∧ byte ≤ ascii '9')
  isHexDigit byte := (hexValue byte).isSome
  hexDigitToNumber byte := (hexValue byte).getD 0
  toDecimalString value := (Nat.toDigits 10 value.toNat).map ascii
  toHexStringLower value := (Nat.toDigits 16 value.toNat).map ascii
  isDigit_iff _ := decide_eq_true_iff
  isHexDigit_iff _ := Iff.rfl
  hexDigitToNumber_eq _ _ found := by rw [found, Option.getD_some]
  toDecimalString_eq _ := rfl
  toHexStringLower_eq _ := rfl

/-- The end of the buffer reads as NUL, which is not a decimal digit. -/
theorem MoeCore.isDigit_nul (core : MoeCore) : core.isDigit 0 = false := by
  have notDigit : ¬ decimalDigit 0 := by
    simp only [decimalDigit]
    decide
  simpa only [← core.isDigit_iff, Bool.not_eq_true] using notDigit

/-- The character at a position, and NUL at and after the end:
`start < end ? *start : '\0'`. The access happens only inside the buffer. -/
def peek (buffer : Text) (start : Nat) : Octet :=
  if inside : start < buffer.length then buffer.get ⟨start, inside⟩ else 0

/-- Reading behind the last byte finds the terminator. -/
theorem peek_end {buffer : Text} {start : Nat} (outside : buffer.length ≤ start) :
    peek buffer start = 0 := by
  simp [peek, Nat.not_lt.mpr outside]

/-- Only a position inside the buffer has a character other than NUL. -/
theorem inside_of_peek_ne_nul {buffer : Text} {start : Nat} (present : peek buffer start ≠ 0) :
    start < buffer.length := by
  by_contra outside
  exact present (peek_end (Nat.not_lt.mp outside))

/-- An offset behind the first part reads from the second. -/
theorem peek_append_right (before after : Text) (offset : Nat) :
    peek (before ++ after) (before.length + offset) = peek after offset := by
  simp only [peek, List.length_append, Nat.add_lt_add_iff_left, List.get_eq_getElem]
  split
  · simp
  · rfl

end MoeUV
