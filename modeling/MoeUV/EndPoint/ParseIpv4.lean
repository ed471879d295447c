import MoeUV.EndPoint.Text
import MoeUV.Foundation.Loop

/-!
# The IPv4 text grammar

`ParseIpv4Number` reads one dotted part in decimal, octal or hexadecimal and
saturates above 32 bits. `ParseIpv4` splits the buffer at dots and NUL bytes,
permits one trailing dot, and throws when the parts are numbers but denote no
address. It returns false on every other text.
-/

namespace MoeUV

open Foundation.Loop

/-- An exception with its format and the text substituted into it. -/
structure BadFormatException where
  format : String
  argument : Text
deriving DecidableEq

/-- The saturated value of a number that no longer fits into 32 bits:
`numeric_limits<uint64_t>::max()`. -/
def numberOverflow : Nat := 2 ^ 64 - 1

/-- One digit added to a number read so far. A saturated number stays so. -/
def addDigit (radix result digit : Nat) : Nat :=
  let sum := if result ≠ numberOverflow then result * radix + digit else result
  if sum > 2 ^ 32 - 1 then numberOverflow else sum

/-- The digit loop of `ParseIpv4Number`; `none` is the return value false. -/
def parseDigits (radix : Nat) : Nat → Text → Option Nat
  | result, [] => some result
  | result, ch :: rest =>
    if ascii 'a' ≤ ch ∧ ch ≤ ascii 'f' then
      if radix ≠ 16 then none
      else parseDigits radix (addDigit radix result (ch.toNat - (ascii 'a').toNat + 10)) rest
    else if ascii 'A' ≤ ch ∧ ch ≤ ascii 'F' then
      if radix ≠ 16 then none
      else parseDigits radix (addDigit radix result (ch.toNat - (ascii 'A').toNat + 10)) rest
    else if ascii '0' ≤ ch ∧ ch ≤ ascii '9' then
      if (ch = ascii '8' ∨ ch = ascii '9') ∧ radix = 8 then none
      else parseDigits radix (addDigit radix result (ch.toNat - (ascii '0').toNat)) rest
    else none

/-- The radix announced by a prefix, and the text after that prefix. -/
def numberRadix : Text → Nat × Text
  | first :: second :: rest =>
    if first = ascii '0' ∧ (second = ascii 'x' ∨ second = ascii 'X') then (16, rest)
    else if first = ascii '0' then (8, second :: rest)
    else (10, first :: second :: rest)
  | text => (10, text)

/-- `ParseIpv4Number` on the bytes between its two pointers. -/
def parseIpv4Number (text : Text) : Option Nat :=
  parseDigits (numberRadix text).1 0 (numberRadix text).2

/-- The variables of the loop of `ParseIpv4`. -/
@[ext] structure Ipv4Scan where
  start : Nat
  mark : Nat
  parts : Nat
  tooBigParts : Nat
  numbers : Vector Nat 4
deriving DecidableEq

/-- The bytes in `[mark, start)`. -/
def Ipv4Scan.part (scan : Ipv4Scan) (buffer : Text) : Text :=
  (buffer.drop scan.mark).take (scan.start - scan.mark)

/-- The state after a dotted part with the given value. -/
def Ipv4Scan.push (scan : Ipv4Scan) (number : Nat) : Ipv4Scan where
  start := scan.start
  mark := scan.start + 1
  parts := scan.parts + 1
  tooBigParts := if number > 255 then scan.tooBigParts + 1 else scan.tooBigParts
  numbers := scan.numbers.setIfInBounds scan.parts number

/-- One pass through `while (start <= end)`. Leaving with `none` is the return
value false; leaving with a state continues after the loop. -/
def ipv4Body (buffer : Text) (scan : Ipv4Scan) : Pass Ipv4Scan (Option Ipv4Scan) :=
  if scan.start ≤ buffer.length then
    let ch := peek buffer scan.start
    if ch = ascii '.' ∨ ch = 0 then
      if scan.parts + 1 > 4 then .leave none
      else if scan.start = scan.mark then .leave none
      else
        match parseIpv4Number (scan.part buffer) with
        | none => .leave none
        | some number =>
          let pushed := scan.push number
          if ch = ascii '.' ∧ scan.start + 1 ≥ buffer.length then .leave (some pushed)
          else .again { pushed with start := scan.start + 1 }
    else .again { scan with start := scan.start + 1 }
  else .leave (some scan)

/-- A pass of the loop that goes on was not behind the terminator and moves by one byte. -/
theorem ipv4Body_start {buffer : Text} {scan next : Ipv4Scan}
    (pass : ipv4Body buffer scan = .again next) :
    scan.start ≤ buffer.length ∧ next.start = scan.start + 1 := by
  simp only [ipv4Body] at pass
  split at pass
  · rename_i inside
    refine ⟨inside, ?_⟩
    split at pass
    · split at pass
      · cases pass
      · split at pass
        · cases pass
        · split at pass
          · cases pass
          · split at pass
            · cases pass
            · cases pass
              rfl
    · cases pass
      rfl
  · cases pass

/-- Every pass advances `start`, and none begins beyond the end. -/
def ipv4Loop (buffer : Text) : While Ipv4Scan (Option Ipv4Scan) where
  body := ipv4Body buffer
  variant scan := buffer.length + 1 - scan.start
  decreases scan next pass := by
    obtain ⟨inside, advanced⟩ := ipv4Body_start pass
    omega

/-- The range check after the loop, on the parts read. The powers and products
are exact in double precision. -/
def ipv4InRange (scan : Ipv4Scan) : Bool :=
  let last := scan.numbers.toList.getD (scan.parts - 1) 0
  !(decide (scan.tooBigParts > 1) || (decide (scan.tooBigParts = 1) && decide (last ≤ 255)) ||
    decide (last ≥ 256 ^ (5 - scan.parts)))

/-- The last part plus every other part at its weight. -/
def ipv4Value (scan : Ipv4Scan) : Nat :=
  (List.range (scan.parts - 1)).foldl
    (fun value n => value + scan.numbers.toList.getD n 0 * 256 ^ (3 - n))
    (scan.numbers.toList.getD (scan.parts - 1) 0)

/-- `ParseIpv4`: `none` is the return value false, and a value is what it
stores through `out` before returning true. -/
def parseIpv4 (buffer : Text) : Except BadFormatException (Option (BitVec 32)) :=
  match (ipv4Loop buffer).run ⟨0, 0, 0, 0, Vector.replicate 4 0⟩ with
  | none => .ok none
  | some scan =>
    if ipv4InRange scan then .ok (some (BitVec.ofNat 32 (ipv4Value scan)))
    else .error ⟨"Bad Ipv4 string: {0}", buffer⟩

end MoeUV
