import MoeUV.EndPoint.Operations
import MoeUV.EndPoint.Ipv4Grammar

/-!
# Address formatting

`GetAddress` writes an IPv4 address as four decimal numbers, built from the last
to the first, and an IPv6 address between brackets, with the longest run of at
least two zero pieces compressed. The decimal numerals are numbers of the IPv4
grammar: they have no leading zero, so no other radix is announced, and they
contain neither a dot nor a NUL byte.
-/

namespace MoeUV

open Foundation.Memory

/-- The loop that writes an IPv4 address. The first argument counts the rounds
left; a dot precedes what is already written except in the last round. -/
def formatIpv4 (core : MoeCore) : Nat → BitVec 32 → Text → Text
  | 0, _, ret => ret
  | rounds + 1, value, ret =>
    let written := core.toDecimalString ((value % 256).setWidth 8) ++ ret
    formatIpv4 core rounds (value / 256) (if rounds > 0 then ascii '.' :: written else written)

/-- The variables of the search for the longest run of zero pieces; the
sentinels `0xFFFFFFFF` of `cur` and `compress` are `none`. -/
structure ZeroRun where
  cur : Option Nat
  count : Nat
  longest : Nat
  compress : Option Nat
deriving DecidableEq

/-- One piece examined at the given index. -/
def ZeroRun.examine (run : ZeroRun) (index : Nat) (piece : BitVec 16) : ZeroRun :=
  if piece = 0 then
    { run with cur := run.cur.or (some index), count := run.count + 1 }
  else if run.count > run.longest ∧ run.count > 1 then
    { cur := none, count := 0, longest := run.count, compress := run.cur }
  else { run with cur := none, count := 0 }

/-- The index of the piece at which the compressed run begins. -/
def compressedRun (v6 : Ipv6AddressType) : Option Nat :=
  let run := (List.finRange 8).foldl
    (fun (run : ZeroRun) (index : Fin 8) => run.examine index.val (v6.get index))
    (ZeroRun.mk none 0 0 none)
  if run.count > run.longest ∧ run.count > 1 then run.cur else run.compress

/-- One round of the serialization: the text so far and `ignore0`. -/
def formatPiece (core : MoeCore) (v6 : Ipv6AddressType) (state : Text × Bool) (n : Fin 8) :
    Text × Bool :=
  let (ret, ignore0) := state
  let piece := v6.get n
  if ignore0 = true ∧ piece = 0 then (ret, true)
  else if compressedRun v6 = some n.val then
    (ret ++ if n.val = 0 then [ascii ':', ascii ':'] else [ascii ':'], true)
  else
    let written := ret ++ core.toHexStringLower piece
    (if n.val < 7 then written ++ [ascii ':'] else written, false)

def formatIpv6 (core : MoeCore) (v6 : Ipv6AddressType) : Text :=
  ((List.finRange 8).foldl (formatPiece core v6) ([ascii '['], false)).1 ++ [ascii ']']

def EndPoint.getAddress (core : MoeCore) (e : EndPoint) : Text :=
  if e.storage.family = AF_INET then formatIpv4 core 4 e.getAddressIpv4 []
  else if e.storage.family = AF_INET6 then formatIpv6 core e.getAddressIpv6
  else []

section Decimal

/-- The shortest decimal numeral of a number. -/
def decimal (n : Nat) : Text := (Nat.toDigits 10 n).map ascii

/-- The decimal text of a number is its numeral in radix ten. -/
theorem decimal_eq_numeral (n : Nat) : decimal n = numeral 10 n := rfl

/-- A decimal digit is neither a dot nor a NUL byte. -/
theorem plain_digit {digit : Nat} (small : digit < 10) : PlainByte (ascii digit.digitChar) := by
  interval_cases digit <;> constructor <;> decide

/-- The bytes of a decimal numeral stay inside one dotted part. -/
theorem plain_decimal (n : Nat) : ∀ byte ∈ decimal n, PlainByte byte :=
  forall_numeral (by decide) (fun _ small => plain_digit small) n

/-- A decimal numeral announces no other radix: only zero is written with a
leading zero, and alone. -/
theorem ipv4Number_decimal (n : Nat) : Ipv4Number (decimal n) n := by
  rw [decimal_eq_numeral]
  by_cases zero : n = 0
  · subst zero
    exact .octal [] (AllDigits.nil 8)
  · have written : Ipv4Number (numeral 10 n) (numeralValue 10 (numeral 10 n)) :=
      .decimal (numeral 10 n) (numeral_ne_nil (by decide) n)
        (numeral_head_ne_zero (by decide) (by decide) (Nat.pos_of_ne_zero zero))
        (allDigits_numeral (by decide) (by decide) n)
    rwa [numeralValue_numeral (by decide) (by decide)] at written

end Decimal

end MoeUV
