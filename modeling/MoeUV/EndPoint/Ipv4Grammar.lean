import MoeUV.EndPoint.Numeral
import MoeUV.EndPoint.ParseIpv4
import Mathlib.Algebra.BigOperators.Group.Finset.Basic

/-!
# The grammar of IPv4 texts

The grammar and the meaning of an IPv4 text are stated on their own: the text is
split at its dots, after one dot at the end is dropped; every part is a numeral
in one of three radices; the last part fills what the other parts leave of the
32 bits. Numbers are unbounded here.

`ParseIpv4` keeps numbers up to 32 bits and a marker above. Since every bound
that it checks is within 32 bits, the marker is out of range exactly when the
true number is, and the loop over the bytes agrees with the list of the parts.
-/

namespace MoeUV

open Foundation.Memory Foundation.Loop Foundation.Positional

section Grammar

/-- A numeral and its value. A leading zero announces the octal or, with a
letter, the hexadecimal radix. -/
inductive Ipv4Number : Text → Nat → Prop where
  | decimal (digits : Text) (present : digits ≠ []) (leading : digits.head? ≠ some (ascii '0'))
      (all : AllDigits 10 digits) : Ipv4Number digits (numeralValue 10 digits)
  | octal (digits : Text) (all : AllDigits 8 digits) :
      Ipv4Number (ascii '0' :: digits) (numeralValue 8 digits)
  | hexadecimal (letter : Octet) (digits : Text)
      (announced : letter = ascii 'x' ∨ letter = ascii 'X') (all : AllDigits 16 digits) :
      Ipv4Number (ascii '0' :: letter :: digits) (numeralValue 16 digits)

/-- One dot at the end is optional. -/
def dropTrailingDot (text : Text) : Text :=
  if text.getLast? = some (ascii '.') then text.dropLast else text

/-- The parts between the dots. -/
def ipv4Parts (text : Text) : List Text := (dropTrailingDot text).splitOn (ascii '.')

/-- One to four parts, each a numeral with the given value. -/
def Ipv4Form (text : Text) (numbers : List Nat) : Prop :=
  numbers.length ≤ 4 ∧ List.Forall₂ Ipv4Number (ipv4Parts text) numbers

/-- All numbers but the last fit into a byte, and the last into what is left. -/
def Ipv4InRange (numbers : List Nat) : Prop :=
  (∀ number ∈ numbers.dropLast, number ≤ 255) ∧
    numbers.getLastD 0 < 256 ^ (5 - numbers.length)

/-- The last number, and every other number at its weight. -/
def ipv4Sum (numbers : List Nat) : Nat :=
  numbers.getLastD 0 + ∑ n ∈ Finset.range (numbers.length - 1), numbers.getD n 0 * 256 ^ (3 - n)

end Grammar

section Numbers

/-- The digit of a byte in a radix. -/
def digitIn (radix : Nat) (byte : Octet) : Option Nat :=
  match hexValue byte with
  | some digit => if digit < radix then some digit else none
  | none => none

/-- A digit that is below the radix is one of the radix, -/
theorem digitIn_small {radix digit : Nat} {byte : Octet} (found : hexValue byte = some digit)
    (small : digit < radix) : digitIn radix byte = some digit := by
  simp only [digitIn, found, small, if_true]

/-- and another is none. -/
theorem digitIn_large {radix digit : Nat} {byte : Octet} (found : hexValue byte = some digit)
    (large : ¬ digit < radix) : digitIn radix byte = none := by
  simp only [digitIn, found, large, if_false]

/-- These are all digits of a radix. -/
theorem digitIn_eq_some {radix : Nat} {byte : Octet} {digit : Nat} :
    digitIn radix byte = some digit ↔ hexValue byte = some digit ∧ digit < radix := by
  cases found : hexValue byte with
  | none => simp [digitIn, found]
  | some value =>
    by_cases small : value < radix
    · rw [digitIn_small found small]
      simp only [Option.some.injEq]
      constructor
      · rintro rfl
        exact ⟨rfl, small⟩
      · exact fun same => same.1
    · rw [digitIn_large found small]
      simp only [reduceCtorEq, Option.some.injEq, false_iff, not_and]
      rintro rfl
      exact small

/-- The marker of `ParseIpv4Number` above 32 bits. -/
abbrev saturated : Nat → Nat := saturate (2 ^ 32 - 1) numberOverflow

/-- A number that has become too large stays the same number, however many digits follow. -/
theorem addDigit_saturated {radix : Nat} (positive : 1 ≤ radix) (before digit : Nat) :
    addDigit radix (saturated before) digit = saturated (before * radix + digit) := by
  have grows : before ≤ before * radix := Nat.le_mul_of_pos_right before positive
  by_cases large : 2 ^ 32 - 1 < before
  · rw [saturated, saturate_large _ _ large, saturate_large _ _ (by omega)]
    rfl
  · rw [saturated, saturate_small _ _ (Nat.not_lt.mp large)]
    have notMarker : before ≠ numberOverflow := by
      simp only [numberOverflow]
      omega
    simp only [addDigit, ne_eq, notMarker, not_false_eq_true, if_true, saturate, gt_iff_lt]

/-- The three radices that a prefix can announce. -/
def Announced (radix : Nat) : Prop := radix = 8 ∨ radix = 10 ∨ radix = 16

/-- A letter is a digit of the hexadecimal radix only. -/
theorem digitIn_letter {radix digit : Nat} (announced : Announced radix) {byte : Octet}
    (found : hexValue byte = some digit) (letter : 10 ≤ digit) (small : digit < 16) :
    digitIn radix byte = if radix ≠ 16 then none else some digit := by
  by_cases wide : radix = 16
  · rw [if_neg (not_not_intro wide), digitIn_small found (by omega)]
  · have narrow : radix ≤ 10 := by
      unfold Announced at announced
      omega
    rw [if_pos wide, digitIn_large found (by omega)]

/-- A decimal digit is refused by the octal radix from eight on. Of the radixes that a prefix
can announce, only the octal one has digits that a decimal digit exceeds. -/
theorem digitIn_decimal {radix : Nat} (announced : Announced radix) {byte : Octet}
    (range : ascii '0' ≤ byte ∧ byte ≤ ascii '9') :
    digitIn radix byte =
      if (byte = ascii '8' ∨ byte = ascii '9') ∧ radix = 8 then none
      else some (byte.toNat - (ascii '0').toNat) := by
  have small := decimal_small range
  have found := hexValue_decimal range
  by_cases refused : (byte = ascii '8' ∨ byte = ascii '9') ∧ radix = 8
  · obtain ⟨high, rfl⟩ := refused
    rw [if_pos ⟨high, rfl⟩]
    rcases high with rfl | rfl
    · rfl
    · rfl
  · rw [if_neg refused]
    apply digitIn_small found
    by_cases octal : radix = 8
    · have bounds := BitVec.le_def.mp range.2
      have digits : (ascii '0').toNat = 48 ∧ (ascii '9').toNat = 57 := ⟨rfl, rfl⟩
      have notEight : byte.toNat ≠ 56 := by
        intro same
        exact refused ⟨Or.inl (BitVec.eq_of_toNat_eq same), octal⟩
      have notNine : byte.toNat ≠ 57 := by
        intro same
        exact refused ⟨Or.inr (BitVec.eq_of_toNat_eq same), octal⟩
      omega
    · unfold Announced at announced
      omega

/-- One round of the digit loop. The body tests for letters before it tests for decimal digits,
and each test that succeeds decides by the radix whether the digit counts. -/
theorem parseDigits_cons {radix : Nat} (announced : Announced radix) (result : Nat) (byte : Octet)
    (rest : Text) :
    parseDigits radix result (byte :: rest) =
      (digitIn radix byte).bind
        (fun digit => parseDigits radix (addDigit radix result digit) rest) := by
  rw [parseDigits]
  by_cases lower : ascii 'a' ≤ byte ∧ byte ≤ ascii 'f'
  · have above := BitVec.le_def.mp lower.2
    have letters : (ascii 'f').toNat = 102 ∧ (ascii 'a').toNat = 97 := ⟨rfl, rfl⟩
    rw [if_pos lower, digitIn_letter announced (hexValue_lower lower) (by omega) (by omega)]
    split <;> rfl
  · rw [if_neg lower]
    by_cases upper : ascii 'A' ≤ byte ∧ byte ≤ ascii 'F'
    · have above := BitVec.le_def.mp upper.2
      have letters : (ascii 'F').toNat = 70 ∧ (ascii 'A').toNat = 65 := ⟨rfl, rfl⟩
      rw [if_pos upper, digitIn_letter announced (hexValue_upper upper) (by omega) (by omega)]
      split <;> rfl
    · rw [if_neg upper]
      by_cases decimal : ascii '0' ≤ byte ∧ byte ≤ ascii '9'
      · rw [if_pos decimal, digitIn_decimal announced decimal]
        split <;> rfl
      · rw [if_neg decimal, digitIn, hexValue_none decimal lower upper]
        rfl

/-- On digits the loop computes the saturated value. -/
theorem parseDigits_all {radix : Nat} (announced : Announced radix) {text : Text}
    (all : AllDigits radix text) (before : Nat) :
    parseDigits radix (saturated before) text =
      some (saturated
        ((text.map digitOf).foldl (fun result digit => result * radix + digit) before)) := by
  have positive : 1 ≤ radix := by
    rcases announced with rfl | rfl | rfl <;> decide
  induction text generalizing before with
  | nil => rfl
  | cons byte rest inductionHypothesis =>
    obtain ⟨⟨digit, found, small⟩, others⟩ := allDigits_cons.mp all
    have own : digitOf byte = digit := by rw [digitOf, found, Option.getD_some]
    rw [parseDigits_cons announced, digitIn_eq_some.mpr ⟨found, small⟩, Option.bind_some,
      addDigit_saturated positive, inductionHypothesis others, List.map_cons, List.foldl_cons, own]

/-- Another byte makes the loop return false. -/
theorem parseDigits_some {radix : Nat} (announced : Announced radix) {text : Text}
    {result number : Nat} (read : parseDigits radix result text = some number) :
    AllDigits radix text := by
  induction text generalizing result with
  | nil => exact AllDigits.nil radix
  | cons byte rest inductionHypothesis =>
    rw [parseDigits_cons announced] at read
    obtain ⟨digit, found, read⟩ := Option.bind_eq_some_iff.mp read
    exact allDigits_cons.mpr ⟨⟨digit, digitIn_eq_some.mp found⟩, inductionHypothesis read⟩

/-- The loop of `ParseIpv4Number` from the beginning. -/
theorem parseDigits_iff {radix : Nat} (announced : Announced radix) (text : Text) (number : Nat) :
    parseDigits radix 0 text = some number ↔
      AllDigits radix text ∧ number = saturated (numeralValue radix text) := by
  have value (all : AllDigits radix text) :
      parseDigits radix 0 text = some (saturated (numeralValue radix text)) := by
    have computed := parseDigits_all announced all 0
    rw [foldl_value, Nat.zero_mul, Nat.zero_add] at computed
    exact computed
  constructor
  · intro read
    have all := parseDigits_some announced read
    exact ⟨all, Option.some.inj (read.symm.trans (value all))⟩
  · intro numeral
    rw [value numeral.1, numeral.2]

/-- What the first bytes announce. A zero alone is a decimal zero: the octal prefix needs a
character behind it. -/
theorem numberRadix_cases (text : Text) :
    (∃ letter digits, text = ascii '0' :: letter :: digits ∧
      (letter = ascii 'x' ∨ letter = ascii 'X') ∧ numberRadix text = (16, digits)) ∨
    (∃ second digits, text = ascii '0' :: second :: digits ∧
      ¬ (second = ascii 'x' ∨ second = ascii 'X') ∧ numberRadix text = (8, second :: digits)) ∨
    text = [ascii '0'] ∨
    (text.head? ≠ some (ascii '0') ∧ numberRadix text = (10, text)) := by
  match text with
  | [] => exact Or.inr (Or.inr (Or.inr ⟨by simp, rfl⟩))
  | [only] =>
    by_cases zero : only = ascii '0'
    · exact Or.inr (Or.inr (Or.inl (by rw [zero])))
    · exact Or.inr (Or.inr (Or.inr ⟨by simpa using zero, rfl⟩))
  | first :: second :: rest =>
    by_cases zero : first = ascii '0'
    · subst zero
      by_cases letter : second = ascii 'x' ∨ second = ascii 'X'
      · exact Or.inl ⟨second, rest, rfl, letter, by simp [numberRadix, letter]⟩
      · exact Or.inr (Or.inl ⟨second, rest, rfl, letter, by simp [numberRadix, letter]⟩)
    · exact Or.inr (Or.inr (Or.inr ⟨by simpa using zero, by simp [numberRadix, zero]⟩))

/-- The letters that announce the hexadecimal radix are digits of no radix. -/
theorem announcement_no_digit {letter : Octet} (announced : letter = ascii 'x' ∨ letter = ascii 'X')
    {radix : Nat} {rest : Text} : ¬ AllDigits radix (letter :: rest) := by
  intro all
  obtain ⟨digit, found, _⟩ := (allDigits_cons.mp all).1
  rcases announced with rfl | rfl
  · cases found
  · cases found

/-- `ParseIpv4Number` accepts exactly the numerals and saturates their values. Each kind of
numeral is the only one that its first bytes allow, so in every case the other two rules are
excluded by these bytes. -/
theorem parseIpv4Number_iff (text : Text) (present : text ≠ []) (number : Nat) :
    parseIpv4Number text = some number ↔
      ∃ n, Ipv4Number text n ∧ number = saturated n := by
  have announced10 : Announced 10 := Or.inr (Or.inl rfl)
  have announced8 : Announced 8 := Or.inl rfl
  have announced16 : Announced 16 := Or.inr (Or.inr rfl)
  rw [parseIpv4Number]
  rcases numberRadix_cases text with hexadecimal | octal | zero | decimal
  · obtain ⟨letter, digits, rfl, announced, radix⟩ := hexadecimal
    rw [radix, parseDigits_iff announced16]
    constructor
    · intro numeral
      exact ⟨_, .hexadecimal letter digits announced numeral.1, numeral.2⟩
    · intro numeral
      obtain ⟨n, numeral, value⟩ := numeral
      cases numeral with
      | decimal _ _ leading _ => exact absurd rfl leading
      | octal _ all => exact absurd all (announcement_no_digit announced)
      | hexadecimal _ _ _ all => exact ⟨all, value⟩
  · obtain ⟨second, digits, rfl, notLetter, radix⟩ := octal
    rw [radix, parseDigits_iff announced8]
    constructor
    · intro numeral
      exact ⟨_, .octal (second :: digits) numeral.1, numeral.2⟩
    · intro numeral
      obtain ⟨n, numeral, value⟩ := numeral
      cases numeral with
      | decimal _ _ leading _ => exact absurd rfl leading
      | octal _ all => exact ⟨all, value⟩
      | hexadecimal _ _ letter _ => exact absurd letter notLetter
  · subst zero
    have read : parseDigits (numberRadix [ascii '0']).1 0 (numberRadix [ascii '0']).2 = some 0 :=
      rfl
    rw [read]
    constructor
    · intro same
      exact ⟨0, .octal [] (AllDigits.nil 8), (Option.some.inj same).symm⟩
    · intro numeral
      obtain ⟨n, numeral, value⟩ := numeral
      cases numeral with
      | decimal _ _ leading _ => exact absurd rfl leading
      | octal _ all => rw [value]; rfl
  · obtain ⟨leading, radix⟩ := decimal
    rw [radix, parseDigits_iff announced10]
    constructor
    · intro numeral
      exact ⟨_, .decimal text present leading numeral.1, numeral.2⟩
    · intro numeral
      obtain ⟨n, numeral, value⟩ := numeral
      cases numeral with
      | decimal _ _ _ all => exact ⟨all, value⟩
      | octal => exact absurd rfl leading
      | hexadecimal => exact absurd rfl leading

end Numbers

section Parts

/-- The value of a part, which must not be empty. -/
def partNumber (part : Text) : Option Nat := if part = [] then none else parseIpv4Number part

/-- The parser reads from a part the value that the grammar gives it, up to the bound where it is
too large anyway. -/
theorem partNumber_iff (part : Text) (number : Nat) :
    partNumber part = some number ↔ ∃ n, Ipv4Number part n ∧ number = saturated n := by
  by_cases empty : part = []
  · subst empty
    have noNumeral : ¬ ∃ n, Ipv4Number [] n ∧ number = saturated n := by
      intro numeral
      obtain ⟨n, numeral, _⟩ := numeral
      cases numeral with
      | decimal _ present _ _ => exact present rfl
    simp [partNumber, noNumeral]
  · rw [partNumber, if_neg empty, parseIpv4Number_iff part empty]

/-- The parts are read when each of them is a numeral. The induction is on the list of the
parts, in the order in which the loop reads them. -/
theorem readParts_iff (parts : List Text) (numbers : List Nat) :
    parts.mapM partNumber = some numbers ↔
      ∃ values, List.Forall₂ Ipv4Number parts values ∧ numbers = values.map saturated := by
  induction parts generalizing numbers with
  | nil => simp [eq_comm]
  | cons part rest inductionHypothesis =>
    rw [List.mapM_cons]
    constructor
    · intro read
      obtain ⟨number, first, read⟩ := Option.bind_eq_some_iff.mp read
      obtain ⟨others, later, same⟩ := Option.bind_eq_some_iff.mp read
      obtain ⟨n, numeral, value⟩ := (partNumber_iff part number).mp first
      obtain ⟨values, numerals, rest⟩ := (inductionHypothesis others).mp later
      refine ⟨n :: values, .cons numeral numerals, ?_⟩
      rw [← Option.some.inj same, value, rest, List.map_cons]
    · intro form
      obtain ⟨values, numerals, rfl⟩ := form
      cases numerals with
      | @cons _ n _ values numeral numerals =>
        have first := (partNumber_iff part (saturated n)).mpr ⟨n, numeral, rfl⟩
        have later := (inductionHypothesis (values.map saturated)).mpr ⟨values, numerals, rfl⟩
        rw [first, later]
        rfl

end Parts

section Scan

/-- A byte that does not end a dotted part. -/
def PlainByte (byte : Octet) : Prop := byte ≠ ascii '.' ∧ byte ≠ 0

/-- The scan after one dotted part of the given length and value. -/
def Ipv4Scan.afterPart (scan : Ipv4Scan) (length number : Nat) : Ipv4Scan :=
  { ({ scan with start := scan.start + length } : Ipv4Scan).push number with
    start := scan.start + length + 1 }

/-- What the loop has counted, without its positions. -/
def Ipv4Scan.tally (scan : Ipv4Scan) : Nat × Nat × Vector Nat 4 :=
  (scan.parts, scan.tooBigParts, scan.numbers)

/-- Whatever a part is, its number alone is counted, -/
theorem tally_push {scan other : Ipv4Scan} (same : scan.tally = other.tally) (number : Nat) :
    (scan.push number).tally = (other.push number).tally := by
  obtain ⟨parts, same⟩ := Prod.mk.inj same
  obtain ⟨tooBigParts, numbers⟩ := Prod.mk.inj same
  simp only [Ipv4Scan.tally, Ipv4Scan.push, parts, tooBigParts, numbers]

/-- and so it is for all parts together. -/
theorem tally_foldl {scan other : Ipv4Scan} (same : scan.tally = other.tally)
    (numbers : List Nat) :
    (numbers.foldl Ipv4Scan.push scan).tally = (numbers.foldl Ipv4Scan.push other).tally := by
  induction numbers generalizing scan other with
  | nil => exact same
  | cons number rest inductionHypothesis => exact inductionHypothesis (tally_push same number)

/-- The loop passes over bytes that do not end a part. Each of them is one pass that only moves
the position, so the scan is the same afterwards but for the position. -/
theorem ipv4Loop_skip (before run after : Text) (plain : ∀ byte ∈ run, PlainByte byte)
    (scan : Ipv4Scan) (here : scan.start = before.length) :
    (ipv4Loop (before ++ (run ++ after))).run scan =
      (ipv4Loop (before ++ (run ++ after))).run { scan with start := scan.start + run.length } := by
  induction run generalizing before scan with
  | nil => rfl
  | cons byte rest inductionHypothesis =>
    obtain ⟨notDot, notNul⟩ := plain byte List.mem_cons_self
    have inside : scan.start ≤ (before ++ (byte :: rest ++ after)).length := by
      rw [here]
      simp
    have found : peek (before ++ (byte :: rest ++ after)) scan.start = byte := by
      rw [here]
      simp [peek]
    have pass : ipv4Body (before ++ (byte :: rest ++ after)) scan =
        .again { scan with start := scan.start + 1 } := by
      simp only [ipv4Body, inside, if_true, found, notDot, notNul, or_self, if_false]
    rw [(ipv4Loop _).run_again pass]
    have split : before ++ (byte :: rest ++ after) = (before ++ [byte]) ++ (rest ++ after) := by
      simp
    rw [split]
    rw [inductionHypothesis (before ++ [byte]) (fun other member =>
      plain other (List.mem_cons_of_mem byte member)) { scan with start := scan.start + 1 }
      (by simp [here])]
    congr 1
    simp only [List.length_cons, Ipv4Scan.mk.injEq, and_true]
    omega

/-- The bytes between the mark and the end of a part are that part. -/
theorem part_eq (before run after : Text) (scan : Ipv4Scan) (marked : scan.mark = before.length)
    (ended : scan.start = before.length + run.length) :
    scan.part (before ++ (run ++ after)) = run := by
  rw [Ipv4Scan.part, marked, ended, Nat.add_sub_cancel_left, List.drop_left, List.take_left]

/-- The bytes since the mark are empty only at the mark. -/
theorem part_eq_nil (buffer : Text) (scan : Ipv4Scan) (behind : scan.mark ≤ scan.start)
    (inside : scan.start ≤ buffer.length) : scan.part buffer = [] ↔ scan.start = scan.mark := by
  rw [← List.length_eq_zero_iff, Ipv4Scan.part, List.length_take, List.length_drop]
  omega

/-- What the body does with the part that ends at a dot or at the end. An empty part and one
that is no number end the loop with a failure, and so does a fifth part. A dot at the very end
is passed over. -/
theorem ipv4Body_separator (buffer : Text) (scan : Ipv4Scan) (behind : scan.mark ≤ scan.start)
    (inside : scan.start ≤ buffer.length)
    (ends : peek buffer scan.start = ascii '.' ∨ peek buffer scan.start = 0) :
    ipv4Body buffer scan =
      if scan.parts + 1 > 4 then .leave none
      else
        match partNumber (scan.part buffer) with
        | none => .leave none
        | some number =>
          if peek buffer scan.start = ascii '.' ∧ scan.start + 1 ≥ buffer.length then
            .leave (some (scan.push number))
          else .again { scan.push number with start := scan.start + 1 } := by
  simp only [ipv4Body, inside, if_true, ends]
  by_cases empty : scan.start = scan.mark
  · have nothing := (part_eq_nil buffer scan behind inside).mpr empty
    have refused : partNumber (scan.part buffer) = none := if_pos nothing
    simp only [refused, empty, if_true]
  · have something : ¬ scan.part buffer = [] :=
      fun nothing => empty ((part_eq_nil buffer scan behind inside).mp nothing)
    have offered : partNumber (scan.part buffer) = parseIpv4Number (scan.part buffer) :=
      if_neg something
    cases parsed : parseIpv4Number (scan.part buffer) <;>
      simp only [offered, parsed, empty, if_false]

section Boundary

variable (before part : Text) (plain : ∀ byte ∈ part, PlainByte byte) (scan : Ipv4Scan)
  (here : scan.start = before.length) (marked : scan.mark = before.length)

include plain here marked

/-- At the end of a part the loop returns false when there is no room for it or
when it is no numeral, and otherwise goes on after the dot. -/
theorem ipv4Loop_part (after : Text) (more : after ≠ []) :
    (ipv4Loop (before ++ (part ++ ascii '.' :: after))).run scan =
      if scan.parts + 1 > 4 then none
      else (partNumber part).bind fun number =>
        (ipv4Loop (before ++ (part ++ ascii '.' :: after))).run
          (scan.afterPart part.length number) := by
  rw [ipv4Loop_skip before part (ascii '.' :: after) plain scan here]
  have remaining : 0 < after.length := List.length_pos_iff.mpr more
  have found : peek (before ++ (part ++ ascii '.' :: after)) (scan.start + part.length) =
      ascii '.' := by
    rw [here, peek_append_right]
    simp [peek]
  have read := part_eq before part (ascii '.' :: after)
    { scan with start := scan.start + part.length } marked (by simp [here])
  have notLast : ¬ scan.start + part.length + 1 ≥
      (before ++ (part ++ ascii '.' :: after)).length := by
    simp only [List.length_append, List.length_cons]
    omega
  have pass := ipv4Body_separator (before ++ (part ++ ascii '.' :: after))
    { scan with start := scan.start + part.length } (by simp [here, marked]) (by simp [here])
    (Or.inl found)
  simp only [read, notLast, and_false, if_false] at pass
  by_cases full : scan.parts + 1 > 4
  · rw [if_pos full] at pass ⊢
    exact (ipv4Loop _).run_leave pass
  · rw [if_neg full] at pass ⊢
    cases number : partNumber part with
    | none =>
      rw [number] at pass
      exact (ipv4Loop _).run_leave pass
    | some n =>
      rw [number] at pass
      exact (ipv4Loop _).run_again pass

/-- The last part ends the loop, with one dot behind it or without. Behind a dot that ends the
text the loop is left at once; at the terminator it is left in the next pass. -/
theorem ipv4Loop_last (tail : Text) (optional : tail = [] ∨ tail = [ascii '.']) :
    ((ipv4Loop (before ++ (part ++ tail))).run scan).map Ipv4Scan.tally =
      if scan.parts + 1 > 4 then none
      else (partNumber part).map fun number => (scan.push number).tally := by
  rw [ipv4Loop_skip before part tail plain scan here]
  have read := part_eq before part tail { scan with start := scan.start + part.length } marked
    (by simp [here])
  have ends : peek (before ++ (part ++ tail)) (scan.start + part.length) = ascii '.' ∨
      peek (before ++ (part ++ tail)) (scan.start + part.length) = 0 := by
    rcases optional with rfl | rfl
    · right
      exact peek_end (by simp [here])
    · left
      rw [here, peek_append_right]
      simp [peek]
  have pass := ipv4Body_separator (before ++ (part ++ tail))
    { scan with start := scan.start + part.length } (by simp [here, marked]) (by simp [here]) ends
  simp only [read] at pass
  by_cases full : scan.parts + 1 > 4
  · rw [if_pos full] at pass ⊢
    rw [(ipv4Loop _).run_leave pass]
    rfl
  · rw [if_neg full] at pass ⊢
    cases number : partNumber part with
    | none =>
      rw [number] at pass
      rw [(ipv4Loop _).run_leave pass]
      rfl
    | some n =>
      rw [number] at pass
      simp only at pass
      by_cases last : peek (before ++ (part ++ tail)) (scan.start + part.length) = ascii '.' ∧
          scan.start + part.length + 1 ≥ (before ++ (part ++ tail)).length
      · rw [if_pos last] at pass
        rw [(ipv4Loop _).run_leave pass]
        rfl
      · rw [if_neg last] at pass
        have nothing : tail = [] := by
          rcases optional with empty | dot
          · exact empty
          · subst dot
            refine absurd ⟨?_, by simp [here, Nat.add_assoc]⟩ last
            rw [here, peek_append_right]
            simp [peek]
        have beyond : ¬ scan.start + part.length + 1 ≤ (before ++ (part ++ tail)).length := by
          simp only [nothing, here, List.length_append, List.length_nil]
          omega
        have finished : (ipv4Loop (before ++ (part ++ tail))).body
            (scan.afterPart part.length n) = .leave (some (scan.afterPart part.length n)) := by
          change ipv4Body _ _ = _
          simp only [ipv4Body, Ipv4Scan.afterPart, beyond, if_false]
        rw [(ipv4Loop _).run_again pass]
        exact congrArg (Option.map Ipv4Scan.tally) ((ipv4Loop _).run_leave finished)

end Boundary

/-- A part of a text without NUL bytes is plain when it contains no dot. -/
theorem plain_of_noDot {part : Text} (noDot : ascii '.' ∉ part) (noNul : 0 ∉ part) :
    ∀ byte ∈ part, PlainByte byte := by
  intro byte member
  constructor
  · rintro rfl
    exact noDot member
  · rintro rfl
    exact noNul member

/-- The loop reads the parts of a text in their order. A text without a dot
behind it must not end in one, or the loop would stop there. -/
theorem ipv4Loop_split (before after tail : Text) (noNul : 0 ∉ after)
    (optional : tail = [] ∧ after.getLast? ≠ some (ascii '.') ∨ tail = [ascii '.'])
    (scan : Ipv4Scan) (here : scan.start = before.length) (marked : scan.mark = before.length) :
    ((ipv4Loop (before ++ (after ++ tail))).run scan).map Ipv4Scan.tally =
      if scan.parts + (after.splitOn (ascii '.')).length > 4 then none
      else ((after.splitOn (ascii '.')).mapM partNumber).map fun numbers =>
        (numbers.foldl Ipv4Scan.push scan).tally := by
  induction length : after.length using Nat.strongRecOn generalizing before after scan with
  | ind count inductionHypothesis =>
    by_cases dotted : ascii '.' ∈ after
    · obtain ⟨part, rest, rfl, plain⟩ := List.eq_append_cons_of_mem dotted
      have bytes := plain_of_noDot plain (fun member => noNul (List.mem_append_left _ member))
      have more : rest ++ tail ≠ [] := by
        rcases optional with ⟨rfl, notLast⟩ | rfl
        · intro nothing
          rw [List.append_nil] at nothing
          subst nothing
          exact notLast (by simp)
        · simp
      have text : before ++ (part ++ ascii '.' :: rest ++ tail) =
          before ++ (part ++ ascii '.' :: (rest ++ tail)) := by simp
      have split : (part ++ ascii '.' :: rest).splitOn (ascii '.') =
          part :: rest.splitOn (ascii '.') := List.splitOn_append_cons_self_of_not_mem plain rest
      have others : 0 < (rest.splitOn (ascii '.')).length :=
        List.length_pos_iff.mpr (List.splitOn_ne_nil (ascii '.') rest)
      rw [text, ipv4Loop_part before part bytes scan here marked (rest ++ tail) more, split,
        List.mapM_cons, List.length_cons]
      by_cases full : scan.parts + 1 > 4
      · rw [if_pos full, if_pos (by omega)]
        rfl
      · rw [if_neg full]
        cases partNumber part with
        | none => simp
        | some n =>
          have again := inductionHypothesis rest.length (by simp [← length]; omega)
            (before ++ (part ++ [ascii '.'])) rest
            (fun member => noNul (List.mem_append_right _ (List.mem_cons_of_mem _ member)))
            (by
              rcases optional with ⟨rfl, notLast⟩ | rfl
              · left
                refine ⟨rfl, ?_⟩
                intro last
                apply notLast
                rw [List.getLast?_append, List.getLast?_cons, last]
                rfl
              · exact Or.inr rfl)
            (scan.afterPart part.length n)
            (by simp [Ipv4Scan.afterPart, here, Nat.add_assoc])
            (by simp [Ipv4Scan.afterPart, Ipv4Scan.push, here, Nat.add_assoc]) rfl
          have same : before ++ (part ++ [ascii '.']) ++ (rest ++ tail) =
              before ++ (part ++ ascii '.' :: (rest ++ tail)) := by simp
          rw [same] at again
          rw [Option.bind_some, again]
          have counted : (scan.afterPart part.length n).parts = scan.parts + 1 := rfl
          have tallied : (scan.afterPart part.length n).tally = (scan.push n).tally := rfl
          rw [counted, Nat.add_right_comm, Nat.add_assoc]
          simp only [tally_foldl tallied]
          cases (rest.splitOn (ascii '.')).mapM partNumber with
          | none => simp
          | some numbers => rfl
    · have bytes := plain_of_noDot dotted noNul
      have single : after.splitOn (ascii '.') = [after] := List.splitOn_eq_singleton dotted
      rw [ipv4Loop_last before after bytes scan here marked tail
        (optional.imp (fun both => both.1) id), single]
      simp only [List.length_singleton, List.mapM_cons, List.mapM_nil]
      cases partNumber after with
      | none => rfl
      | some n => rfl

end Scan

section Judgement

/-- Each part is counted once, -/
theorem parts_foldl (scan : Ipv4Scan) (numbers : List Nat) :
    (numbers.foldl Ipv4Scan.push scan).parts = scan.parts + numbers.length := by
  induction numbers generalizing scan with
  | nil => rfl
  | cons number rest inductionHypothesis =>
    rw [List.foldl_cons, inductionHypothesis, Ipv4Scan.push, List.length_cons, Nat.add_assoc,
      Nat.add_comm 1]

/-- and those above 255 are counted on their own. -/
theorem tooBigParts_foldl (scan : Ipv4Scan) (numbers : List Nat) :
    (numbers.foldl Ipv4Scan.push scan).tooBigParts =
      scan.tooBigParts + numbers.countP (fun number => decide (number > 255)) := by
  induction numbers generalizing scan with
  | nil => rfl
  | cons number rest inductionHypothesis =>
    rw [List.foldl_cons, inductionHypothesis, List.countP_cons, Ipv4Scan.push]
    by_cases big : number > 255
    · simp only [big, if_true, decide_true]
      omega
    · simp only [big, if_false, decide_false, Bool.false_eq_true]
      omega

/-- Every number goes into its own place. -/
theorem numbers_foldl (scan : Ipv4Scan) (numbers : List Nat)
    (room : scan.parts + numbers.length ≤ 4) :
    (numbers.foldl Ipv4Scan.push scan).numbers.toList =
      scan.numbers.toList.take scan.parts ++ numbers ++
        scan.numbers.toList.drop (scan.parts + numbers.length) := by
  induction numbers generalizing scan with
  | nil => simp
  | cons number rest inductionHypothesis =>
    rw [List.length_cons] at room
    have sized : scan.numbers.toList.length = 4 := scan.numbers.length_toList
    have stored :
        (scan.push number).numbers.toList = scan.numbers.toList.set scan.parts number := by
      simp [Ipv4Scan.push]
    have counted : (scan.push number).parts = scan.parts + 1 := rfl
    rw [List.foldl_cons, inductionHypothesis (scan.push number) (by rw [counted]; omega), stored,
      counted, List.drop_set_of_lt (by omega), List.take_add_one,
      List.take_set_of_le (Nat.le_refl _), List.getElem?_set_self (by omega), List.length_cons]
    simp [Nat.add_assoc, Nat.add_comm 1]

/-- The scan with which `ParseIpv4` begins. -/
def ipv4Initial : Ipv4Scan := ⟨0, 0, 0, 0, Vector.replicate 4 0⟩

section Collected

variable (numbers : List Nat) (few : numbers.length ≤ 4)

include few

/-- Each number is stored at its place. -/
theorem getD_collected (index : Nat) (inside : index < numbers.length) :
    (numbers.foldl Ipv4Scan.push ipv4Initial).numbers.toList.getD index 0 =
      numbers.getD index 0 := by
  rw [numbers_foldl ipv4Initial numbers (by simpa [ipv4Initial] using few)]
  simp only [ipv4Initial, List.take_zero, List.nil_append, List.getD_eq_getElem?_getD]
  rw [List.getElem?_append_left inside]

/-- The number of parts above 255 and the bound of the last part decide the range. All numbers
but the last have to be below 256, so the count of the others must be zero, or one if it is the
last that is above. -/
theorem ipv4InRange_collected (nonempty : numbers ≠ []) :
    ipv4InRange (numbers.foldl Ipv4Scan.push ipv4Initial) = true ↔ Ipv4InRange numbers := by
  obtain ⟨first, last, rfl⟩ : ∃ first last, numbers = first ++ [last] :=
    ⟨numbers.dropLast, numbers.getLast nonempty, (List.dropLast_append_getLast nonempty).symm⟩
  have collected := getD_collected (first ++ [last]) few first.length (by simp)
  have own : (first ++ [last]).getD first.length 0 = last := by simp
  have bound : (∀ number ∈ first, number ≤ 255) ↔
      first.countP (fun number => decide (number > 255)) = 0 := by
    simp [List.countP_eq_zero]
  rw [own] at collected
  simp only [ipv4InRange, Ipv4InRange, parts_foldl, tooBigParts_foldl, List.length_append,
    List.length_singleton, List.dropLast_concat, bound, List.countP_append, List.countP_singleton]
  simp only [ipv4Initial, Nat.zero_add, Nat.add_sub_cancel] at collected ⊢
  rw [collected, List.getLastD_concat]
  simp only [Bool.not_eq_true', Bool.or_eq_false_iff, Bool.and_eq_false_iff,
    decide_eq_false_iff_not, not_lt, not_le, ge_iff_le]
  by_cases big : last > 255
  · simp only [big, decide_true, if_true, or_true, and_true]
    omega
  · simp only [big, decide_false, Bool.false_eq_true, if_false, or_false]
    omega

/-- The value of an address is that of its last number and of those before it. The loop of the
source adds up the weighted numbers from the first on; the sum is the same in any order. -/
theorem ipv4Value_collected (nonempty : numbers ≠ []) :
    ipv4Value (numbers.foldl Ipv4Scan.push ipv4Initial) = ipv4Sum numbers := by
  have positive : 0 < numbers.length := List.length_pos_iff.mpr nonempty
  have weighted (count : Nat) (inside : count ≤ numbers.length) (start : Nat) :
      (List.range count).foldl (fun value n => value +
        (numbers.foldl Ipv4Scan.push ipv4Initial).numbers.toList.getD n 0 * 256 ^ (3 - n)) start =
      start + ∑ n ∈ Finset.range count, numbers.getD n 0 * 256 ^ (3 - n) := by
    induction count with
    | zero => rfl
    | succ count inductionHypothesis =>
      rw [List.range_succ, List.foldl_append, inductionHypothesis (by omega), List.foldl_cons,
        List.foldl_nil, getD_collected numbers few count (by omega), Finset.sum_range_succ,
        Nat.add_assoc]
  have last : numbers.getD (numbers.length - 1) 0 = numbers.getLastD 0 := by
    rw [List.getLastD_eq_getLast?, List.getLast?_eq_getElem?, List.getD_eq_getElem?_getD]
  have counted : (numbers.foldl Ipv4Scan.push ipv4Initial).parts = numbers.length := by
    rw [parts_foldl]
    exact Nat.zero_add _
  rw [ipv4Value, counted, weighted _ (Nat.sub_le _ _),
    getD_collected numbers few _ (Nat.sub_lt positive Nat.zero_lt_one), last, ipv4Sum]

end Collected

section Bounds

variable {numbers : List Nat}

/-- A list that is not empty has a last item. -/
theorem concat_of_ne_nil (nonempty : numbers ≠ []) : ∃ first last, numbers = first ++ [last] :=
  ⟨numbers.dropLast, numbers.getLast nonempty, (List.dropLast_append_getLast nonempty).symm⟩

/-- What the other parts leave of the 32 bits. -/
theorem left_le (nonempty : numbers ≠ []) : 256 ^ (5 - numbers.length) ≤ 2 ^ 32 := by
  have positive : 0 < numbers.length := List.length_pos_iff.mpr nonempty
  calc
    256 ^ (5 - numbers.length) ≤ 256 ^ 4 := Nat.pow_le_pow_right (by decide) (by omega)
    _ = 2 ^ 32 := by decide

/-- A saturated number is out of range exactly when the true number is. -/
theorem ipv4InRange_saturated (nonempty : numbers ≠ []) :
    Ipv4InRange (numbers.map saturated) ↔ Ipv4InRange numbers := by
  have bound := left_le nonempty
  have positive : 0 < 256 ^ (5 - numbers.length) := Nat.pow_pos (by decide)
  have marker : 2 ^ 32 - 1 < numberOverflow := by decide
  obtain ⟨first, last, rfl⟩ := concat_of_ne_nil nonempty
  have lastBound := saturate_le_iff (2 ^ 32 - 1) numberOverflow marker last
    (256 ^ (5 - (first ++ [last]).length) - 1) (by omega)
  simp only [Ipv4InRange, List.map_append, List.map_singleton, List.dropLast_concat,
    List.getLastD_concat, List.forall_mem_map, List.length_append, List.length_singleton,
    List.length_map, saturate_le_iff (2 ^ 32 - 1) numberOverflow marker _ 255 (by decide)]
  simp only [saturated, List.length_append, List.length_singleton] at lastBound positive ⊢
  apply and_congr_right
  intro _
  omega

/-- Numbers in range are not saturated. -/
theorem saturated_of_inRange (nonempty : numbers ≠ []) (inRange : Ipv4InRange numbers) :
    numbers.map saturated = numbers := by
  have bound := left_le nonempty
  obtain ⟨first, last, rfl⟩ := concat_of_ne_nil nonempty
  obtain ⟨others, own⟩ := inRange
  rw [List.dropLast_concat] at others
  rw [List.getLastD_concat] at own
  have small : ∀ number ∈ first ++ [last], saturated number = number := by
    intro number member
    apply saturate_small
    rcases List.mem_append.mp member with earlier | final
    · have byte := others number earlier
      omega
    · rw [List.mem_singleton.mp final]
      omega
  rw [List.map_congr_left small, List.map_id']

/-- The sum of numbers in range fits into 32 bits. -/
theorem ipv4Sum_lt (nonempty : numbers ≠ []) (few : numbers.length ≤ 4)
    (inRange : Ipv4InRange numbers) : ipv4Sum numbers < 2 ^ 32 := by
  obtain ⟨others, own⟩ := inRange
  match numbers, nonempty, few with
  | [a], _, _ =>
    simp [ipv4Sum] at own ⊢
    omega
  | [a, b], _, _ =>
    simp [ipv4Sum] at own others ⊢
    omega
  | [a, b, c], _, _ =>
    simp [ipv4Sum, Finset.sum_range_succ] at own others ⊢
    omega
  | [a, b, c, d], _, _ =>
    simp [ipv4Sum, Finset.sum_range_succ] at own others ⊢
    omega

end Bounds

/-- The loop on a whole text. -/
theorem ipv4Loop_parts (text : Text) (noNul : 0 ∉ text) :
    ((ipv4Loop text).run ipv4Initial).map Ipv4Scan.tally =
      if (ipv4Parts text).length > 4 then none
      else ((ipv4Parts text).mapM partNumber).map fun numbers =>
        (numbers.foldl Ipv4Scan.push ipv4Initial).tally := by
  have none : ipv4Initial.parts = 0 := rfl
  rw [ipv4Parts, dropTrailingDot]
  by_cases dot : text.getLast? = some (ascii '.')
  · obtain ⟨front, rfl⟩ := List.getLast?_eq_some_iff.mp dot
    have split := ipv4Loop_split [] front [ascii '.']
      (fun member => noNul (List.mem_append_left _ member)) (Or.inr rfl) ipv4Initial rfl rfl
    rw [none, Nat.zero_add] at split
    rw [if_pos dot, List.dropLast_concat]
    exact split
  · have split := ipv4Loop_split [] text [] noNul (Or.inl ⟨rfl, dot⟩) ipv4Initial rfl rfl
    rw [none, Nat.zero_add, List.append_nil] at split
    rw [if_neg dot]
    exact split

/-- The range is checked on the counted numbers only, -/
theorem ipv4InRange_tally {scan other : Ipv4Scan} (same : scan.tally = other.tally) :
    ipv4InRange scan = ipv4InRange other := by
  obtain ⟨parts, same⟩ := Prod.mk.inj same
  obtain ⟨tooBigParts, numbers⟩ := Prod.mk.inj same
  simp only [ipv4InRange, parts, tooBigParts, numbers]

/-- and the value is made from them only. -/
theorem ipv4Value_tally {scan other : Ipv4Scan} (same : scan.tally = other.tally) :
    ipv4Value scan = ipv4Value other := by
  obtain ⟨parts, same⟩ := Prod.mk.inj same
  obtain ⟨tooBigParts, numbers⟩ := Prod.mk.inj same
  simp only [ipv4Value, parts, numbers]

/-- A text of another form is refused. -/
theorem parseIpv4_refused {text : Text} (noNul : 0 ∉ text)
    (formless : ¬ ∃ numbers, Ipv4Form text numbers) : parseIpv4 text = .ok none := by
  have finished := ipv4Loop_parts text noNul
  have nothing : (ipv4Loop text).run ipv4Initial = none := by
    rw [← Option.map_eq_none_iff (f := Ipv4Scan.tally), finished]
    by_cases full : (ipv4Parts text).length > 4
    · rw [if_pos full]
    · rw [if_neg full]
      cases read : (ipv4Parts text).mapM partNumber with
      | none => rfl
      | some numbers =>
        obtain ⟨values, numerals, _⟩ := (readParts_iff _ _).mp read
        refine absurd ⟨values, ?_, numerals⟩ formless
        rw [← numerals.length_eq]
        exact Nat.not_lt.mp full
  rw [parseIpv4]
  simp only [ipv4Initial] at nothing
  rw [nothing]

/-- A text of the form is judged by the range of its numbers. The scan at the end holds the
numbers, saturated, which does not matter: a number that is cut is out of range in either
case. -/
theorem parseIpv4_form {text : Text} (noNul : 0 ∉ text) {numbers : List Nat}
    (form : Ipv4Form text numbers) :
    (Ipv4InRange numbers →
      ipv4Sum numbers < 2 ^ 32 ∧
        parseIpv4 text = .ok (some (BitVec.ofNat 32 (ipv4Sum numbers)))) ∧
    (¬ Ipv4InRange numbers → parseIpv4 text = .error ⟨"Bad Ipv4 string: {0}", text⟩) := by
  obtain ⟨few, numerals⟩ := form
  have length : (ipv4Parts text).length = numbers.length := numerals.length_eq
  have nonempty : numbers ≠ [] := by
    intro none
    rw [none] at length
    exact List.splitOn_ne_nil _ _ (List.length_eq_zero_iff.mp length)
  have finished := ipv4Loop_parts text noNul
  rw [if_neg (by omega), (readParts_iff _ _).mpr ⟨numbers, numerals, rfl⟩] at finished
  obtain ⟨scan, run, tally⟩ := Option.map_eq_some_iff.mp finished
  have mappedFew : (numbers.map saturated).length ≤ 4 := by rwa [List.length_map]
  have mappedNonempty : numbers.map saturated ≠ [] := by simpa using nonempty
  have range : ipv4InRange scan = true ↔ Ipv4InRange numbers := by
    rw [ipv4InRange_tally tally, ipv4InRange_collected _ mappedFew mappedNonempty,
      ipv4InRange_saturated nonempty]
  have parsed : parseIpv4 text =
      if ipv4InRange scan then .ok (some (BitVec.ofNat 32 (ipv4Value scan)))
      else .error ⟨"Bad Ipv4 string: {0}", text⟩ := by
    simp only [ipv4Initial] at run
    simp only [parseIpv4, run]
  constructor
  · intro inRange
    refine ⟨ipv4Sum_lt nonempty few inRange, ?_⟩
    rw [parsed, if_pos (range.mpr inRange), ipv4Value_tally tally,
      ipv4Value_collected _ mappedFew mappedNonempty, saturated_of_inRange nonempty inRange]
  · intro outOfRange
    rw [parsed, if_neg (fun inRange => outOfRange (range.mp inRange))]

/-- `ParseIpv4` accepts exactly the texts of the grammar whose numbers are in
range and stores their sum, throws when only the range fails, and returns false
on every other text. -/
theorem parseIpv4_grammar (text : Text) (noNul : 0 ∉ text) :
    (∀ numbers, Ipv4Form text numbers →
      (Ipv4InRange numbers → ∃ value, parseIpv4 text = .ok (some value) ∧
        value.toNat = ipv4Sum numbers) ∧
      (¬ Ipv4InRange numbers → ∃ exception, parseIpv4 text = .error exception)) ∧
    ((¬ ∃ numbers, Ipv4Form text numbers) → parseIpv4 text = .ok none) := by
  constructor
  · intro numbers form
    obtain ⟨accepted, thrown⟩ := parseIpv4_form noNul form
    constructor
    · intro inRange
      obtain ⟨fits, parsed⟩ := accepted inRange
      refine ⟨_, parsed, ?_⟩
      rw [BitVec.toNat_ofNat, Nat.mod_eq_of_lt fits]
    · intro outOfRange
      exact ⟨_, thrown outOfRange⟩
  · exact parseIpv4_refused noNul

/-- The hexadecimal first byte of a loopback address with a short last part. -/
theorem parseIpv4_grammar_loopback :
    ∃ value, parseIpv4 ("0x7f.1".toList.map ascii) = .ok (some value) ∧
      value.toNat = ipv4Sum [127, 1] := by
  have form : Ipv4Form ("0x7f.1".toList.map ascii) [127, 1] := by
    refine ⟨by decide, .cons (.hexadecimal (ascii 'x') ("7f".toList.map ascii) (Or.inl rfl) ?_)
      (.cons (.decimal ("1".toList.map ascii) (by decide) (by decide) ?_) .nil)⟩
    · simp [AllDigits, hexValue, ascii]
    · simp [AllDigits, hexValue, ascii]
  exact ((parseIpv4_grammar _ (by decide)).1 [127, 1] form).1 ⟨by decide, by decide⟩

end Judgement

end MoeUV
