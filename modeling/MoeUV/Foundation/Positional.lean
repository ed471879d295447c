import Mathlib.Data.Nat.Digits.Lemmas

/-!
# Positional notation

A sequence of digits, the most significant first, denotes a number in a radix.
A loop that multiplies by the radix and adds the next digit computes it, and the
number of digits bounds it. A loop that gives up beyond a limit and keeps a
marker from then on ends with the marker exactly when the number is beyond the
limit, however many digits follow.
-/

namespace Foundation.Positional

/-- The number that a sequence of digits denotes. -/
def value (radix : Nat) (digits : List Nat) : Nat := Nat.ofDigits radix digits.reverse

/-- No digits stand for zero. -/
@[simp] theorem value_nil (radix : Nat) : value radix [] = 0 := rfl

/-- One more digit at the end. -/
theorem value_snoc (radix : Nat) (digits : List Nat) (digit : Nat) :
    value radix (digits ++ [digit]) = value radix digits * radix + digit := by
  rw [value, List.reverse_append, List.reverse_singleton, List.singleton_append,
    Nat.ofDigits_cons, value, Nat.mul_comm, Nat.add_comm]

/-- A numeral with few digits is small: digits below the radix cannot reach the next power. -/
theorem value_lt {radix : Nat} (wide : 1 < radix) {digits : List Nat}
    (small : ∀ digit ∈ digits, digit < radix) : value radix digits < radix ^ digits.length := by
  have bound := Nat.ofDigits_lt_base_pow_length wide
    (fun digit member => small digit (List.mem_reverse.mp member))
  rwa [List.length_reverse] at bound

/-- The digit loop, from what has been read before. -/
theorem foldl_value (radix before : Nat) (digits : List Nat) :
    digits.foldl (fun result digit => result * radix + digit) before =
      before * radix ^ digits.length + value radix digits := by
  induction digits using List.reverseRecOn with
  | nil => simp
  | append_singleton digits digit inductionHypothesis =>
    rw [List.foldl_append, inductionHypothesis, value_snoc, List.length_append,
      List.length_singleton, Nat.pow_succ]
    simp only [List.foldl_cons, List.foldl_nil]
    rw [Nat.add_mul, Nat.mul_assoc, Nat.add_assoc]

/-- The first digit stands at the highest place. -/
theorem value_cons (radix digit : Nat) (digits : List Nat) :
    value radix (digit :: digits) = digit * radix ^ digits.length + value radix digits := by
  have whole := foldl_value radix 0 (digit :: digits)
  rw [List.foldl_cons, foldl_value, Nat.zero_mul, Nat.zero_add, Nat.zero_mul,
    Nat.zero_add] at whole
  exact whole.symm

section Saturation

variable (limit marker : Nat)

/-- A number beyond the limit is replaced by the marker. -/
def saturate (number : Nat) : Nat := if limit < number then marker else number

/-- A number within the limit stays as it is. -/
theorem saturate_small {number : Nat} (small : number ≤ limit) :
    saturate limit marker number = number :=
  if_neg (Nat.not_lt.mpr small)

/-- A number beyond the limit becomes the marker. -/
theorem saturate_large {number : Nat} (large : limit < number) :
    saturate limit marker number = marker :=
  if_pos large

/-- Up to the limit, a bound holds of a number and of its saturation alike. -/
theorem saturate_le_iff (beyond : limit < marker) (number bound : Nat) (within : bound ≤ limit) :
    saturate limit marker number ≤ bound ↔ number ≤ bound := by
  by_cases large : limit < number
  · rw [saturate_large limit marker large]
    omega
  · rw [saturate_small limit marker (Nat.not_lt.mp large)]

end Saturation

end Foundation.Positional
