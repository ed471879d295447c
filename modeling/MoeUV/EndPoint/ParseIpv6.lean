import MoeUV.EndPoint.Text
import MoeUV.Foundation.Execution
import MoeUV.Foundation.Loop

/-!
# The IPv6 text grammar

`ParseIpv6` reads groups of hexadecimal digits into the eight pieces of an
address, remembers where a compressed run of zeros may be expanded, and reads an
embedded dotted quad after moving back over the digits already consumed. The
piece array and the read pointer are accessed as the source accesses them: an
index outside the array, or a pointer moved before the buffer, is a fault and
not a default value.
-/

namespace MoeUV

open Foundation.Loop Foundation.Execution

/-- `EndPoint::Ipv6AddressType`, the eight pieces in host order. -/
abbrev Ipv6AddressType := Vector (BitVec 16) 8

/-- An access outside the object it was meant for. -/
inductive ParseFault where
  | pieceIndex (index : Nat)
  | pointer
deriving DecidableEq

/-- The variables of the group loop. The sentinel of `compress` is `none`. -/
structure Ipv6Scan where
  start : Nat
  current : Nat
  compress : Option Nat
  address : Ipv6AddressType
deriving DecidableEq

/-- The variables of the embedded dotted quad. -/
structure QuadScan where
  start : Nat
  current : Nat
  numbers : Nat
  address : Ipv6AddressType
deriving DecidableEq

/-- `address[index] = piece`. -/
def setPiece (address : Ipv6AddressType) (index : Nat) (piece : BitVec 16) :
    Except ParseFault Ipv6AddressType :=
  if inside : index < 8 then .ok (address.set index piece inside) else .error (.pieceIndex index)

/-- `address[index]`. -/
def getPiece (address : Ipv6AddressType) (index : Nat) : Except ParseFault (BitVec 16) :=
  if inside : index < 8 then .ok (address.get ⟨index, inside⟩) else .error (.pieceIndex index)

/-- `start -= len`. -/
def moveBack (start len : Nat) : Except ParseFault Nat :=
  if len ≤ start then .ok (start - len) else .error .pointer

section Groups

variable (core : MoeCore) (buffer : Text)

/-- At most four hexadecimal digits: their value, their number and the position
after them. The first argument counts the digits that may still be read. -/
def hexDigits : Nat → Nat → Nat → Nat → Nat × Nat × Nat
  | 0, start, value, len => (value, len, start)
  | room + 1, start, value, len =>
    if core.isHexDigit (peek buffer start) then
      hexDigits room (start + 1)
        (value * 16 + core.hexDigitToNumber (peek buffer start)) (len + 1)
    else (value, len, start)

/-- The marker `0xFFFFFFFF` of a number without digits. -/
def noNumber : Nat := 0xFFFFFFFF

/-- The value after one more digit; `none` is the return value false. -/
def nextNumber (value number : Nat) : Option Nat :=
  if value = noNumber then some number
  else if value = 0 then none
  else some (value * 10 + number)

/-- One pass through `while (StringUtils::IsDigit(ch))`, over the position and
the value read so far. -/
def numberBody (state : Nat × Nat) : Pass (Nat × Nat) (Option (Nat × Nat)) :=
  let ch := peek buffer state.1
  if core.isDigit ch then
    match nextNumber state.2 (ch.toNat - (ascii '0').toNat) with
    | none => .leave none
    | some value => if value > 255 then .leave none else .again (state.1 + 1, value)
  else .leave (some state)

/-- Where a digit is read, the buffer has not ended. -/
theorem isDigit_present {start : Nat} (digit : core.isDigit (peek buffer start) = true) :
    start < buffer.length := by
  apply inside_of_peek_ne_nul
  intro nul
  rw [nul, core.isDigit_nul] at digit
  cases digit

/-- One round over the digits goes one character on. -/
theorem numberBody_start {state next : Nat × Nat}
    (pass : numberBody core buffer state = .again next) :
    state.1 < buffer.length ∧ next.1 = state.1 + 1 := by
  simp only [numberBody] at pass
  split at pass
  · rename_i digit
    refine ⟨isDigit_present core buffer digit, ?_⟩
    split at pass
    · cases pass
    · split at pass
      · cases pass
      · cases pass
        rfl
  · cases pass

def numberLoop : While (Nat × Nat) (Option (Nat × Nat)) where
  body := numberBody core buffer
  variant state := buffer.length - state.1
  decreases state next pass := by
    obtain ⟨inside, advanced⟩ := numberBody_start core buffer pass
    omega

/-- The separating dot required before every number but the first. -/
def quadSeparator (scan : QuadScan) : Option Nat :=
  if scan.numbers > 0 then
    if peek buffer scan.start = ascii '.' ∧ scan.numbers < 4 then some (scan.start + 1) else none
  else some scan.start

/-- The value of one finished number written into the current piece. -/
def storeNumber (scan : QuadScan) (start value : Nat) : Except ParseFault (Option QuadScan) := do
  let piece ← getPiece scan.address scan.current
  let address ← setPiece scan.address scan.current (piece * 0x100 + BitVec.ofNat 16 value)
  let numbers := scan.numbers + 1
  pure (some
    { start := start
      current := if numbers = 2 ∨ numbers = 4 then scan.current + 1 else scan.current
      numbers := numbers
      address := address })

/-- One number of the dotted quad, starting where `ch` stands. -/
def quadNumber (scan : QuadScan) (start : Nat) : Except ParseFault (Option QuadScan) :=
  if core.isDigit (peek buffer start) then
    match (numberLoop core buffer).run (start, noNumber) with
    | none => .ok none
    | some (after, value) => storeNumber scan after value
  else .ok none

/-- One pass through `while (ch != '\0')` of the dotted quad. -/
def quadBody (scan : QuadScan) : Pass QuadScan (Except ParseFault (Option QuadScan)) :=
  if peek buffer scan.start ≠ 0 then
    match quadSeparator buffer scan with
    | none => .leave (.ok none)
    | some start =>
      match quadNumber core buffer scan start with
      | .error fault => .leave (.error fault)
      | .ok none => .leave (.ok none)
      | .ok (some next) => .again next
  else .leave (.ok (some scan))

/-- The digits of a number move the read position forward, and the first of
them by at least one. -/
theorem numberLoop_start {start value after result : Nat}
    (finished : (numberLoop core buffer).run (start, value) = some (after, result)) :
    start ≤ after := by
  have atLeast := (numberLoop core buffer).run_rule
    (fun state => start ≤ state.1)
    (fun result => ∀ state, result = some state → start ≤ state.1)
    (fun state next here pass => by
      have advanced := (numberBody_start core buffer pass).2
      omega)
    (fun state result here pass final same => by
      subst same
      simp only [numberLoop, numberBody] at pass
      split at pass
      · split at pass
        · cases pass
        · split at pass <;> cases pass
      · cases pass
        exact here)
    (start, value) (Nat.le_refl start)
  exact atLeast (after, result) finished

/-- So a number that begins with a digit ends behind it. -/
theorem numberLoop_progress {start value after result : Nat}
    (digit : core.isDigit (peek buffer start) = true)
    (finished : (numberLoop core buffer).run (start, value) = some (after, result)) :
    start < after := by
  cases pass : (numberLoop core buffer).body (start, value) with
  | leave exit =>
    rw [(numberLoop core buffer).run_leave pass] at finished
    subst finished
    simp only [numberLoop, numberBody, digit, if_true] at pass
    split at pass
    · cases pass
    · split at pass <;> cases pass
  | again state =>
    have advanced := (numberBody_start core buffer pass).2
    rw [(numberLoop core buffer).run_again pass] at finished
    have later := numberLoop_start core buffer finished
    omega

/-- Storing a number does not move the cursor, -/
theorem storeNumber_start {scan next : QuadScan} {start value : Nat}
    (stored : storeNumber scan start value = .ok (some next)) : next.start = start := by
  simp only [storeNumber] at stored
  obtain ⟨piece, _, stored⟩ := bind_ok_iff.mp stored
  obtain ⟨address, _, stored⟩ := bind_ok_iff.mp stored
  have same := Option.some.inj (Except.ok.inj stored)
  rw [← same]

/-- A number that was read has at least one digit. -/
theorem quadNumber_start {scan next : QuadScan} {start : Nat}
    (read : quadNumber core buffer scan start = .ok (some next)) :
    start < buffer.length ∧ start < next.start := by
  simp only [quadNumber] at read
  split at read
  · rename_i digit
    refine ⟨isDigit_present core buffer digit, ?_⟩
    split at read
    · cases read
    · rename_i after value finished
      rw [storeNumber_start read]
      exact numberLoop_progress core buffer digit finished
  · cases read

/-- and the dot before it moves it on at most. -/
theorem quadSeparator_start {scan : QuadScan} {start : Nat}
    (separated : quadSeparator buffer scan = some start) : scan.start ≤ start := by
  simp only [quadSeparator] at separated
  split at separated
  · split at separated
    · cases separated
      omega
    · cases separated
  · cases separated
    omega

/-- One round over the numbers of a quad goes on, -/
theorem quadBody_start {scan next : QuadScan} (pass : quadBody core buffer scan = .again next) :
    scan.start < buffer.length ∧ scan.start < next.start := by
  simp only [quadBody] at pass
  split at pass
  · rename_i present
    refine ⟨inside_of_peek_ne_nul present, ?_⟩
    split at pass
    · cases pass
    · rename_i start separated
      have forward := quadSeparator_start buffer separated
      split at pass
      · cases pass
      · cases pass
      · rename_i other read
        cases pass
        have moved := quadNumber_start core buffer read
        omega
  · cases pass

def quadLoop : While QuadScan (Except ParseFault (Option QuadScan)) where
  body := quadBody core buffer
  variant scan := buffer.length - scan.start
  decreases scan next pass := by
    obtain ⟨inside, advanced⟩ := quadBody_start core buffer pass
    omega

/-- The dotted quad only moves forward. -/
theorem quadLoop_start {scan final : QuadScan}
    (finished : (quadLoop core buffer).run scan = .ok (some final)) :
    scan.start ≤ final.start ∧ peek buffer final.start = 0 := by
  have atLeast := (quadLoop core buffer).run_rule
    (fun state => scan.start ≤ state.start)
    (fun result => ∀ state, result = .ok (some state) →
      scan.start ≤ state.start ∧ peek buffer state.start = 0)
    (fun state next here pass => by
      have advanced := (quadBody_start core buffer pass).2
      omega)
    (fun state result here pass state' same => by
      subst same
      simp only [quadLoop, quadBody] at pass
      split at pass
      · split at pass
        · cases pass
        · split at pass <;> cases pass
      · rename_i atEnd
        cases pass
        exact ⟨here, Decidable.not_not.mp atEnd⟩)
    scan (Nat.le_refl scan.start)
  exact atLeast final finished

/-- The case `'.'` after a group: move back over its digits, require room for
two pieces, read the quad to the end of the text and require four numbers. -/
def embeddedIpv4 (scan : Ipv6Scan) (start len : Nat) : Except ParseFault (Option Ipv6Scan) :=
  if len = 0 then .ok none
  else do
    let back ← moveBack start len
    if scan.current > 6 then pure none
    else
      match ← (quadLoop core buffer).run ⟨back, scan.current, 0, scan.address⟩ with
      | none => pure none
      | some quad =>
        if quad.numbers ≠ 4 then pure none
        else pure (some
          { scan with start := quad.start, current := quad.current, address := quad.address })

/-- The group stored as the current piece, with the scan continued at `start`. -/
def storeGroup (scan : Ipv6Scan) (start value : Nat) : Except ParseFault (Option Ipv6Scan) := do
  let address ← setPiece scan.address scan.current (BitVec.ofNat 16 value)
  pure (some { scan with start := start, current := scan.current + 1, address := address })

/-- The group starting at the scan position and the character that ends it. -/
def readGroup (scan : Ipv6Scan) : Except ParseFault (Option Ipv6Scan) :=
  let (value, len, start) := hexDigits core buffer 4 scan.start 0 0
  let ch := peek buffer start
  if ch = ascii '.' then embeddedIpv4 core buffer scan start len
  else if ch = ascii ':' then
    if peek buffer (start + 1) = 0 then .ok none else storeGroup scan (start + 1) value
  else if ch = 0 then storeGroup scan start value
  else .ok none

/-- A second `':'` opens the compressed run, once. -/
def openCompression (scan : Ipv6Scan) : Except ParseFault (Option Ipv6Scan) :=
  match scan.compress with
  | some _ => .ok none
  | none => do
    let address ← setPiece scan.address scan.current 0
    pure (some
      { start := scan.start + 1
        current := scan.current + 1
        compress := some (scan.current + 1)
        address := address })

/-- One pass through `while (ch != '\0')`. -/
def ipv6Body (scan : Ipv6Scan) : Pass Ipv6Scan (Except ParseFault (Option Ipv6Scan)) :=
  if peek buffer scan.start ≠ 0 then
    if scan.current ≥ 8 then .leave (.ok none)
    else
      match if peek buffer scan.start = ascii ':' then openCompression scan
          else readGroup core buffer scan with
      | .error fault => .leave (.error fault)
      | .ok none => .leave (.ok none)
      | .ok (some next) => .again next
  else .leave (.ok (some scan))

/-- The digits read lie between the two positions, one byte each. -/
theorem hexDigits_start (room start value len : Nat) :
    (hexDigits core buffer room start value len).2.2 + len =
      (hexDigits core buffer room start value len).2.1 + start := by
  induction room generalizing start value len with
  | zero => simp only [hexDigits]; omega
  | succ room inductionHypothesis =>
    simp only [hexDigits]
    split
    · have shifted := inductionHypothesis (start + 1)
        (value * 16 + core.hexDigitToNumber (peek buffer start)) (len + 1)
      omega
    · simp only
      omega

/-- the group that is stored ends where it was read to, -/
theorem storeGroup_start {scan next : Ipv6Scan} {start value : Nat}
    (stored : storeGroup scan start value = .ok (some next)) : next.start = start := by
  simp only [storeGroup] at stored
  obtain ⟨address, _, stored⟩ := bind_ok_iff.mp stored
  have same := Option.some.inj (Except.ok.inj stored)
  rw [← same]

/-- and a `::` is passed over. -/
theorem openCompression_start {scan next : Ipv6Scan}
    (opened : openCompression scan = .ok (some next)) : next.start = scan.start + 1 := by
  simp only [openCompression] at opened
  split at opened
  · cases opened
  · obtain ⟨address, _, opened⟩ := bind_ok_iff.mp opened
    have same := Option.some.inj (Except.ok.inj opened)
    rw [← same]

/-- The parser goes back by the digits it has read. -/
theorem moveBack_eq {start len back : Nat} (moved : moveBack start len = .ok back) :
    back = start - len := by
  simp only [moveBack] at moved
  split at moved
  · exact (Except.ok.inj moved).symm
  · cases moved

/-- The embedded quad moves back to the start of the group and then to the end
of the text, so the pass as a whole moves forward. -/
theorem embeddedIpv4_start {scan next : Ipv6Scan} {start len : Nat}
    (here : peek buffer (start - len) ≠ 0)
    (read : embeddedIpv4 core buffer scan start len = .ok (some next)) :
    start - len < next.start := by
  simp only [embeddedIpv4] at read
  split at read
  · cases read
  · obtain ⟨back, moved, read⟩ := bind_ok_iff.mp read
    have origin : back = start - len := moveBack_eq moved
    split at read
    · cases read
    · obtain ⟨result, finished, read⟩ := bind_ok_iff.mp read
      cases result with
      | none => cases read
      | some quad =>
        obtain ⟨forward, nul⟩ := quadLoop_start core buffer finished
        have apart : quad.start ≠ start - len := by
          intro equal
          exact here (equal ▸ nul)
        simp only at read forward
        split at read
        · cases read
        · have same := Option.some.inj (Except.ok.inj read)
          rw [← same]
          simp only
          omega

/-- Whatever is read in one round, the cursor moves on, -/
theorem readGroup_start {scan next : Ipv6Scan} (here : peek buffer scan.start ≠ 0)
    (read : readGroup core buffer scan = .ok (some next)) : scan.start < next.start := by
  have digits := hexDigits_start core buffer 4 scan.start 0 0
  simp only [readGroup] at read
  generalize hexDigits core buffer 4 scan.start 0 0 = group at digits read
  obtain ⟨value, len, start⟩ := group
  simp only at digits read
  split at read
  · have origin : start - len = scan.start := by omega
    rw [← origin] at here ⊢
    exact embeddedIpv4_start core buffer here read
  · split at read
    · split at read
      · cases read
      · have moved := storeGroup_start read
        omega
    · split at read
      · rename_i nul
        have moved := storeGroup_start read
        have apart : start ≠ scan.start := by
          intro equal
          exact here (equal ▸ nul)
        omega
      · cases read

/-- so there are no more rounds than characters. -/
theorem ipv6Body_start {scan next : Ipv6Scan} (pass : ipv6Body core buffer scan = .again next) :
    scan.start < buffer.length ∧ scan.start < next.start := by
  simp only [ipv6Body] at pass
  split at pass
  · rename_i present
    refine ⟨inside_of_peek_ne_nul present, ?_⟩
    split at pass
    · cases pass
    · split at pass
      · cases pass
      · cases pass
      · rename_i other read
        cases pass
        split at read
        · have moved := openCompression_start read
          omega
        · exact readGroup_start core buffer present read
  · cases pass

def ipv6Loop : While Ipv6Scan (Except ParseFault (Option Ipv6Scan)) where
  body := ipv6Body core buffer
  variant scan := buffer.length - scan.start
  decreases scan next pass := by
    obtain ⟨inside, advanced⟩ := ipv6Body_start core buffer pass
    omega

end Groups

/-- The swap loop that expands the compressed run. The first argument is the
number of swaps left; `current` counts down with it. -/
def expand (compress : Nat) : Nat → Nat → Ipv6AddressType → Except ParseFault Ipv6AddressType
  | 0, _, address => .ok address
  | swaps + 1, current, address =>
    if current = 0 then .ok address
    else do
      let swap := compress + swaps
      let left ← getPiece address current
      let right ← getPiece address swap
      let address ← setPiece address current right
      let address ← setPiece address swap left
      expand compress swaps (current - 1) address

/-- The initial scan: a text that begins with a colon must begin with two. -/
def ipv6Start (buffer : Text) : Option Ipv6Scan :=
  let address : Ipv6AddressType := Vector.replicate 8 0
  if peek buffer 0 = ascii ':' then
    if buffer.length < 2 ∨ peek buffer 1 ≠ ascii ':' then none
    else some ⟨2, 1, some 1, address⟩
  else some ⟨0, 0, none, address⟩

/-- `ParseIpv6`: `none` is the return value false, and an address is what it
leaves in its argument before returning true. -/
def parseIpv6 (core : MoeCore) (buffer : Text) : Except ParseFault (Option Ipv6AddressType) :=
  match ipv6Start buffer with
  | none => .ok none
  | some initial => do
    match ← (ipv6Loop core buffer).run initial with
    | none => pure none
    | some scan =>
      match scan.compress with
      | some compress => do
        let address ← expand compress (scan.current - compress) 7 scan.address
        pure (some address)
      | none => if scan.current ≠ 8 then pure none else pure (some scan.address)

end MoeUV
