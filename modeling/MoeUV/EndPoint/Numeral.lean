import MoeUV.EndPoint.Text
import MoeUV.Foundation.Positional
import Mathlib.Tactic.IntervalCases

/-!
# Numerals in address texts

A numeral is a text of digits in one radix. Its value is the number that the
digits denote, however many there are. A hexadecimal digit below the radix is a
digit of that radix, so one value function serves the three radices.

The shortest numeral of a number, in lower case, is read back as that number. It
has no leading zero unless it is a single digit, and as many digits as the
number needs.
-/

namespace MoeUV

open Foundation.Memory Foundation.Positional

/-- The number of a hexadecimal digit. -/
def digitOf (byte : Octet) : Nat := (hexValue byte).getD 0

/-- Every byte is a digit of the radix. -/
def AllDigits (radix : Nat) (text : Text) : Prop :=
  ∀ byte ∈ text, ∃ digit, hexValue byte = some digit ∧ digit < radix

/-- The number that the digits of a text denote. -/
def numeralValue (radix : Nat) (text : Text) : Nat := value radix (text.map digitOf)

/-- A text without characters has digits only. -/
theorem AllDigits.nil (radix : Nat) : AllDigits radix [] := by
  intro byte member
  cases member

/-- A text has digits only when its first character is one and the others are. -/
theorem allDigits_cons {radix : Nat} {byte : Octet} {rest : Text} :
    AllDigits radix (byte :: rest) ↔
      (∃ digit, hexValue byte = some digit ∧ digit < radix) ∧ AllDigits radix rest := by
  simp [AllDigits]

/-- The values of its digits are below the radix. -/
theorem AllDigits.digits_small {radix : Nat} {text : Text} (all : AllDigits radix text) :
    ∀ digit ∈ text.map digitOf, digit < radix := by
  intro digit member
  obtain ⟨byte, inside, rfl⟩ := List.mem_map.mp member
  obtain ⟨found, same, small⟩ := all byte inside
  rw [digitOf, same]
  exact small

/-- A numeral of so many digits is below that power of the radix. -/
theorem numeralValue_lt {radix : Nat} (wide : 1 < radix) {text : Text}
    (all : AllDigits radix text) : numeralValue radix text < radix ^ text.length := by
  have bound := value_lt wide all.digits_small
  rwa [List.length_map] at bound

/-- One more digit behind a numeral multiplies its value by the radix and adds to it. -/
theorem numeralValue_snoc (radix : Nat) (text : Text) (byte : Octet) :
    numeralValue radix (text ++ [byte]) = numeralValue radix text * radix + digitOf byte := by
  rw [numeralValue, List.map_append, List.map_singleton, value_snoc, numeralValue]

section Ranges

variable {byte : Octet}

/-- A byte from a later range is not in an earlier one. -/
theorem notInRange {first last bound : Octet} (later : last < bound) (above : bound ≤ byte) :
    ¬ (first ≤ byte ∧ byte ≤ last) := by
  intro range
  exact absurd (BitVec.le_trans above range.2) (BitVec.not_le.mpr later)

/-- The characters 0 to 9 have the values 0 to 9, -/
theorem hexValue_decimal (range : ascii '0' ≤ byte ∧ byte ≤ ascii '9') :
    hexValue byte = some (byte.toNat - (ascii '0').toNat) :=
  if_pos range

/-- the letters a to f those from 10 to 15, -/
theorem hexValue_lower (range : ascii 'a' ≤ byte ∧ byte ≤ ascii 'f') :
    hexValue byte = some (byte.toNat - (ascii 'a').toNat + 10) := by
  rw [hexValue, if_neg (notInRange (by decide) range.1), if_pos range]

/-- and so have the letters A to F. -/
theorem hexValue_upper (range : ascii 'A' ≤ byte ∧ byte ≤ ascii 'F') :
    hexValue byte = some (byte.toNat - (ascii 'A').toNat + 10) := by
  have notLower : ¬ (ascii 'a' ≤ byte ∧ byte ≤ ascii 'f') := by
    intro lower
    exact notInRange (by decide) lower.1 range
  rw [hexValue, if_neg (notInRange (by decide) range.1), if_neg notLower, if_pos range]

/-- A byte of none of the three ranges is no digit. -/
theorem hexValue_none (notDecimal : ¬ (ascii '0' ≤ byte ∧ byte ≤ ascii '9'))
    (notLower : ¬ (ascii 'a' ≤ byte ∧ byte ≤ ascii 'f'))
    (notUpper : ¬ (ascii 'A' ≤ byte ∧ byte ≤ ascii 'F')) : hexValue byte = none := by
  rw [hexValue, if_neg notDecimal, if_neg notLower, if_neg notUpper]

/-- A decimal digit is below ten. -/
theorem decimal_small (range : ascii '0' ≤ byte ∧ byte ≤ ascii '9') :
    byte.toNat - (ascii '0').toNat < 10 := by
  have bound := BitVec.le_def.mp range.2
  have nine : (ascii '9').toNat = 57 := rfl
  have zero : (ascii '0').toNat = 48 := rfl
  omega

/-- A hexadecimal digit is below sixteen. -/
theorem hexValue_lt {digit : Nat} (found : hexValue byte = some digit) : digit < 16 := by
  rw [hexValue] at found
  split at found
  · rename_i range
    have small := decimal_small range
    cases found
    omega
  · split at found
    · rename_i range
      have bound := BitVec.le_def.mp range.2
      have letters : (ascii 'f').toNat = 102 ∧ (ascii 'a').toNat = 97 := ⟨rfl, rfl⟩
      cases found
      omega
    · split at found
      · rename_i range
        have bound := BitVec.le_def.mp range.2
        have letters : (ascii 'F').toNat = 70 ∧ (ascii 'A').toNat = 65 := ⟨rfl, rfl⟩
        cases found
        omega
      · cases found

/-- The digits below ten are the decimal digits. -/
theorem decimalDigit_iff :
    decimalDigit byte ↔ ∃ digit, hexValue byte = some digit ∧ digit < 10 := by
  constructor
  · intro range
    exact ⟨_, hexValue_decimal range, decimal_small range⟩
  · intro found
    obtain ⟨digit, same, small⟩ := found
    by_contra notDecimal
    rw [decimalDigit] at notDecimal
    rw [hexValue, if_neg notDecimal] at same
    split at same
    · cases same
      omega
    · split at same
      · cases same
        omega
      · cases same

/-- Only one byte is the digit zero. -/
theorem eq_zero_of_hexValue (found : hexValue byte = some 0) : byte = ascii '0' := by
  obtain ⟨above, below⟩ := decimalDigit_iff.mpr ⟨0, found, by decide⟩
  rw [hexValue_decimal ⟨above, below⟩] at found
  have difference := Option.some.inj found
  have bound := BitVec.le_def.mp above
  exact BitVec.eq_of_toNat_eq (Nat.le_antisymm (Nat.sub_eq_zero_iff_le.mp difference) bound)

end Ranges

/-- The shortest numeral of a number. -/
def numeral (radix n : Nat) : Text := (Nat.toDigits radix n).map ascii

section Shortest

/-- The character that is written for a digit is read as that digit. -/
theorem hexValue_digitChar {digit : Nat} (small : digit < 16) :
    hexValue (ascii digit.digitChar) = some digit := by
  interval_cases digit <;> rfl

variable {radix : Nat}

/-- A number below the radix is written with one digit. -/
theorem numeral_digit {n : Nat} (small : n < radix) : numeral radix n = [ascii n.digitChar] := by
  rw [numeral, Nat.toDigits_of_lt_base small]
  rfl

/-- The last digit of a larger number is written behind the numeral of the others. -/
theorem numeral_snoc (wide : 1 < radix) {n : Nat} (large : radix ≤ n) :
    numeral radix n = numeral radix (n / radix) ++ [ascii (n % radix).digitChar] := by
  rw [numeral, Nat.toDigits_of_base_le wide large, List.map_append]
  rfl

/-- A numeral is written from its last digit: what holds of a single digit, and
goes over from a numeral to the numeral with one more digit, holds of it. -/
theorem numeral_induction (wide : 1 < radix) {motive : Nat → Prop}
    (digit : ∀ n, n < radix → motive n)
    (snoc : ∀ n, radix ≤ n → motive (n / radix) → motive n) (n : Nat) : motive n := by
  induction n using Nat.strongRecOn with
  | ind n inductionHypothesis =>
    by_cases small : n < radix
    · exact digit n small
    · have large := Nat.not_lt.mp small
      exact snoc n large (inductionHypothesis (n / radix) (Nat.div_lt_self (by omega) wide))

/-- Every number has a digit. -/
theorem numeral_ne_nil (wide : 1 < radix) (n : Nat) : numeral radix n ≠ [] := by
  by_cases small : n < radix
  · rw [numeral_digit small]
    exact List.cons_ne_nil _ _
  · rw [numeral_snoc wide (Nat.not_lt.mp small)]
    exact List.append_ne_nil_of_right_ne_nil _ (List.cons_ne_nil _ _)

section Digits

variable (wide : 1 < radix)

include wide

/-- What holds of every digit holds of every byte of a numeral. -/
theorem forall_numeral {property : Octet → Prop}
    (digits : ∀ digit < radix, property (ascii digit.digitChar)) (n : Nat) :
    ∀ byte ∈ numeral radix n, property byte := by
  induction n using numeral_induction wide with
  | digit n small =>
    rw [numeral_digit small]
    intro byte member
    rw [List.mem_singleton.mp member]
    exact digits n small
  | snoc n large inductionHypothesis =>
    rw [numeral_snoc wide large]
    intro byte member
    rcases List.mem_append.mp member with earlier | last
    · exact inductionHypothesis byte earlier
    · rw [List.mem_singleton.mp last]
      exact digits (n % radix) (Nat.mod_lt n (by omega))

/-- A numeral has as many digits as the number needs. -/
theorem numeral_length_le {n places : Nat} (fits : n < radix ^ places) (positive : 0 < places) :
    (numeral radix n).length ≤ places := by
  induction n using numeral_induction wide generalizing places with
  | digit n small =>
    rw [numeral_digit small]
    exact positive
  | snoc n large inductionHypothesis =>
    obtain ⟨fewer, rfl⟩ := Nat.exists_eq_succ_of_ne_zero (Nat.ne_of_gt positive)
    have shorter : n / radix < radix ^ fewer := by
      rw [Nat.pow_succ] at fits
      exact Nat.div_lt_of_lt_mul (by rwa [Nat.mul_comm])
    have more : 0 < fewer := by
      by_contra none
      have nothing : fewer = 0 := Nat.eq_zero_of_not_pos none
      subst nothing
      rw [Nat.pow_one] at fits
      omega
    rw [numeral_snoc wide large, List.length_append, List.length_singleton]
    exact Nat.succ_le_succ (inductionHypothesis shorter more)

variable (known : radix ≤ 16)

include known

/-- What is written for a number has digits only. -/
theorem allDigits_numeral (n : Nat) : AllDigits radix (numeral radix n) :=
  forall_numeral wide
    (fun digit small => ⟨digit, hexValue_digitChar (Nat.lt_of_lt_of_le small known), small⟩) n

/-- Reading the character of a digit gives the digit back. -/
theorem digitOf_digitChar {digit : Nat} (small : digit < radix) :
    digitOf (ascii digit.digitChar) = digit := by
  rw [digitOf, hexValue_digitChar (by omega), Option.getD_some]

/-- A numeral denotes the number it was written for. -/
theorem numeralValue_numeral (n : Nat) : numeralValue radix (numeral radix n) = n := by
  induction n using numeral_induction wide with
  | digit n small =>
    rw [numeral_digit small, ← List.nil_append [_], numeralValue_snoc,
      digitOf_digitChar wide known small]
    simp [numeralValue]
  | snoc n large inductionHypothesis =>
    rw [numeral_snoc wide large, numeralValue_snoc, inductionHypothesis,
      digitOf_digitChar wide known (Nat.mod_lt n (by omega))]
    exact Nat.div_add_mod' n radix

/-- Only the numeral of zero begins with a zero. -/
theorem numeral_head_ne_zero {n : Nat} (positive : 0 < n) :
    (numeral radix n).head? ≠ some (ascii '0') := by
  induction n using numeral_induction wide with
  | digit n small =>
    have bound : n < 16 := by omega
    rw [numeral_digit small]
    clear small
    interval_cases n <;> decide
  | snoc n large inductionHypothesis =>
    have nonempty := numeral_ne_nil wide (n / radix)
    rw [numeral_snoc wide large, List.head?_append_of_ne_nil _ nonempty]
    exact inductionHypothesis (Nat.div_pos large (by omega))

end Digits

end Shortest

end MoeUV
