import MoeUV.EndPoint.EmbeddedNul

/-!
# The IPv6 parser with every access checked

The parser is run once more on a machine that checks what it does: reading a
byte outside the text, moving the read pointer out of it, indexing a piece that
does not exist, and unsigned arithmetic of 32 bits that wraps are all faults,
and so is a loop that uses up its fuel. None of them happens on any text, and
the checked parser computes what the parser computes.
-/

namespace MoeUV

open Foundation.Memory Foundation.Loop Foundation.Execution

/-- What the checking machine reports. -/
inductive CheckedFault where
  | read (position : Nat)
  | pointer (position : Nat)
  | piece (fault : ParseFault)
  | wraps
  | endless
deriving DecidableEq

/-- `a + b` for `unsigned`. -/
def addUnsigned (a b : Nat) : Except CheckedFault Nat :=
  if a + b < 2 ^ 32 then .ok (a + b) else .error .wraps

/-- `a - b` for `unsigned`. -/
def subUnsigned (a b : Nat) : Except CheckedFault Nat :=
  if b ≤ a then .ok (a - b) else .error .wraps

/-- An access to the piece array or a move of the pointer, as checked before. -/
def checkPiece {α : Type} (access : Except ParseFault α) : Except CheckedFault α :=
  access.mapError .piece

section Program

variable (core : MoeCore) (buffer : Text)

/-- `start[0]` of a pointer into the text. -/
def readByte (position : Nat) : Except CheckedFault Octet :=
  if inside : position < buffer.length then .ok (buffer.get ⟨position, inside⟩)
  else .error (.read position)

/-- `static_cast<char>(start < end ? *start : '\0')`. -/
def charAt (position : Nat) : Except CheckedFault Octet :=
  if position < buffer.length then readByte buffer position else .ok 0

/-- `start += count`; the pointer may reach the end but not pass it. -/
def advance (start count : Nat) : Except CheckedFault Nat :=
  if start + count ≤ buffer.length then .ok (start + count) else .error (.pointer start)

/-- One pass through `while (len < 4 && StringUtils::IsHexDigit(ch))`, over the
value, the number of digits and the position. -/
def checkedHexBody (state : Nat × Nat × Nat) :
    Except CheckedFault (Pass (Nat × Nat × Nat) (Nat × Nat × Nat)) := do
  let ch ← charAt buffer state.2.2
  if state.2.1 < 4 ∧ core.isHexDigit ch = true then
    let start ← advance buffer state.2.2 1
    let len ← addUnsigned state.2.1 1
    pure (.again (state.1 * 16 + core.hexDigitToNumber ch, len, start))
  else pure (.leave state)

/-- One pass through `while (StringUtils::IsDigit(ch))`. -/
def checkedNumberBody (state : Nat × Nat) :
    Except CheckedFault (Pass (Nat × Nat) (Option (Nat × Nat))) := do
  let ch ← charAt buffer state.1
  if core.isDigit ch then
    match nextNumber state.2 (ch.toNat - (ascii '0').toNat) with
    | none => pure (.leave none)
    | some value =>
      if value > 255 then pure (.leave none)
      else
        let start ← advance buffer state.1 1
        pure (.again (start, value))
  else pure (.leave (some state))

/-- The dot before every number but the first; `none` is the return value false. -/
def checkedSeparator (scan : QuadScan) : Except CheckedFault (Option Nat) := do
  if scan.numbers > 0 then
    let ch ← charAt buffer scan.start
    if ch = ascii '.' ∧ scan.numbers < 4 then
      let start ← advance buffer scan.start 1
      pure (some start)
    else pure none
  else pure (some scan.start)

/-- `address[current] = address[current] * 0x100 + value`, and the counters. -/
def checkedStore (scan : QuadScan) (start value : Nat) : Except CheckedFault QuadScan := do
  let piece ← checkPiece (getPiece scan.address scan.current)
  let address ← checkPiece
    (setPiece scan.address scan.current (piece * 0x100 + BitVec.ofNat 16 value))
  let numbers ← addUnsigned scan.numbers 1
  let current ← if numbers = 2 ∨ numbers = 4 then addUnsigned scan.current 1
    else pure scan.current
  pure ⟨start, current, numbers, address⟩

/-- One pass through `while (ch != '\0')` of the dotted quad. -/
def checkedQuadBody (fuel : Nat) (scan : QuadScan) :
    Except CheckedFault (Pass QuadScan (Option QuadScan)) := do
  let ch ← charAt buffer scan.start
  if ch ≠ 0 then
    match ← checkedSeparator buffer scan with
    | none => pure (.leave none)
    | some start =>
      let ch ← charAt buffer start
      if core.isDigit ch then
        match ← repeatChecked .endless (checkedNumberBody core buffer) fuel (start, noNumber) with
        | none => pure (.leave none)
        | some (after, value) =>
          let next ← checkedStore scan after value
          pure (.again next)
      else pure (.leave none)
  else pure (.leave (some scan))

/-- The case `'.'` after a group. -/
def checkedEmbedded (fuel : Nat) (scan : Ipv6Scan) (start len : Nat) :
    Except CheckedFault (Option Ipv6Scan) := do
  if len = 0 then pure none
  else
    let back ← checkPiece (moveBack start len)
    let room ← subUnsigned 8 2
    if scan.current > room then pure none
    else
      match ← repeatChecked .endless (checkedQuadBody core buffer fuel) fuel
          ⟨back, scan.current, 0, scan.address⟩ with
      | none => pure none
      | some quad =>
        if quad.numbers ≠ 4 then pure none
        else pure (some
          { scan with start := quad.start, current := quad.current, address := quad.address })

/-- `address[current] = value; ++current`. -/
def checkedPush (scan : Ipv6Scan) (start : Nat) (piece : BitVec 16) :
    Except CheckedFault Ipv6Scan := do
  let address ← checkPiece (setPiece scan.address scan.current piece)
  let current ← addUnsigned scan.current 1
  pure { scan with start := start, current := current, address := address }

/-- The group at the position of the scan. -/
def checkedGroup (fuel : Nat) (scan : Ipv6Scan) : Except CheckedFault (Option Ipv6Scan) := do
  let (value, len, start) ←
    repeatChecked .endless (checkedHexBody core buffer) fuel (0, 0, scan.start)
  let ch ← charAt buffer start
  if ch = ascii '.' then checkedEmbedded core buffer fuel scan start len
  else if ch = ascii ':' then
    let next ← advance buffer start 1
    let following ← charAt buffer next
    if following = 0 then pure none
    else
      let pushed ← checkedPush scan next (BitVec.ofNat 16 value)
      pure (some pushed)
  else if ch = 0 then
    let pushed ← checkedPush scan start (BitVec.ofNat 16 value)
    pure (some pushed)
  else pure none

/-- The second `':'` of a pair. -/
def checkedCompression (scan : Ipv6Scan) : Except CheckedFault (Option Ipv6Scan) := do
  match scan.compress with
  | some _ => pure none
  | none =>
    let start ← advance buffer scan.start 1
    let pushed ← checkedPush scan start 0
    pure (some { pushed with compress := some pushed.current })

/-- A compressed run or a group, as the character at the position says. -/
def checkedPart (fuel : Nat) (scan : Ipv6Scan) (ch : Octet) :
    Except CheckedFault (Option Ipv6Scan) :=
  if ch = ascii ':' then checkedCompression buffer scan else checkedGroup core buffer fuel scan

/-- One pass through `while (ch != '\0')`. -/
def checkedBody (fuel : Nat) (scan : Ipv6Scan) :
    Except CheckedFault (Pass Ipv6Scan (Option Ipv6Scan)) := do
  let ch ← charAt buffer scan.start
  if ch ≠ 0 then
    if scan.current ≥ 8 then pure (.leave none)
    else
      match ← checkedPart core buffer fuel scan ch with
      | none => pure (.leave none)
      | some next => pure (.again next)
  else pure (.leave (some scan))

/-- One pass through `while (current != 0 && swaps > 0)`, over `current`,
`swaps` and the pieces. -/
def checkedSwapBody (compress : Nat) (state : Nat × Nat × Ipv6AddressType) :
    Except CheckedFault (Pass (Nat × Nat × Ipv6AddressType) Ipv6AddressType) := do
  let (current, swaps, address) := state
  if current ≠ 0 ∧ swaps > 0 then
    let sum ← addUnsigned compress swaps
    let swap ← subUnsigned sum 1
    let left ← checkPiece (getPiece address current)
    let right ← checkPiece (getPiece address swap)
    let address ← checkPiece (setPiece address current right)
    let address ← checkPiece (setPiece address swap left)
    let current ← subUnsigned current 1
    let swaps ← subUnsigned swaps 1
    pure (.again (current, swaps, address))
  else pure (.leave address)

/-- The variables before the group loop. -/
def checkedStart : Except CheckedFault (Option Ipv6Scan) := do
  let address : Ipv6AddressType := Vector.replicate 8 0
  let ch ← charAt buffer 0
  if ch = ascii ':' then
    if buffer.length < 2 then pure none
    else
      let second ← readByte buffer 1
      if second ≠ ascii ':' then pure none
      else
        let start ← advance buffer 0 2
        let current ← addUnsigned 0 1
        pure (some ⟨start, current, some current, address⟩)
  else pure (some ⟨0, 0, none, address⟩)

/-- `ParseIpv6` on the checking machine, with fuel for each of its loops. -/
def checkedParseIpv6 (fuel : Nat) : Except CheckedFault (Option Ipv6AddressType) := do
  match ← checkedStart buffer with
  | none => pure none
  | some initial =>
    match ← repeatChecked .endless (checkedBody core buffer fuel) fuel initial with
    | none => pure none
    | some scan =>
      match scan.compress with
      | some compress =>
        let swaps ← subUnsigned scan.current compress
        let current ← subUnsigned 8 1
        let address ← repeatChecked .endless (checkedSwapBody compress) fuel
          (current, swaps, scan.address)
        pure (some address)
      | none => if scan.current ≠ 8 then pure none else pure (some scan.address)

end Program

section Machine

variable {buffer : Text}

/-- A character of the buffer is read without a fault; behind its end stands the NUL. -/
@[simp] theorem charAt_eq (position : Nat) :
    charAt buffer position = .ok (peek buffer position) := by
  unfold charAt readByte peek
  split
  · rfl
  · rfl

/-- The cursor may go on as far as the end of the buffer. -/
theorem advance_ok {start count : Nat} (inside : start + count ≤ buffer.length) :
    advance buffer start count = .ok (start + count) := if_pos inside

/-- A character that is read can be passed over. -/
theorem advance_one {start : Nat} (present : start < buffer.length) :
    advance buffer start 1 = .ok (start + 1) := advance_ok present

/-- A sum that 32 bits hold does not wrap, -/
theorem addUnsigned_ok {a b : Nat} (small : a + b < 2 ^ 32) : addUnsigned a b = .ok (a + b) :=
  if_pos small

/-- and neither does a difference that is not negative. -/
theorem subUnsigned_ok {a b : Nat} (below : b ≤ a) : subUnsigned a b = .ok (a - b) := if_pos below

/-- A result that is none of a fault passes the check. -/
@[simp] theorem checkPiece_ok {α : Type} (value : α) : checkPiece (.ok value) = .ok value := rfl

end Machine

section Refinement

variable (core : MoeCore) {buffer : Text}

/-- The digit loop makes at most four passes. -/
theorem checkedHex_eq (room : Nat) (fuel start value len : Nat) (counted : len + room = 4)
    (enough : room < fuel) :
    repeatChecked .endless (checkedHexBody core buffer) fuel (value, len, start) =
      .ok ((hexDigits core buffer room start value len)) := by
  induction room generalizing fuel start value len with
  | zero =>
    obtain ⟨fuel, rfl⟩ := Nat.exists_eq_succ_of_ne_zero (Nat.ne_of_gt enough)
    have full : ¬ len < 4 := by omega
    simp only [repeatChecked, checkedHexBody, charAt_eq, ok_bind, full, false_and, if_false,
      pure_eq_ok, hexDigits]
  | succ room inductionHypothesis =>
    obtain ⟨fuel, rfl⟩ := Nat.exists_eq_succ_of_ne_zero (Nat.ne_of_gt (Nat.zero_lt_of_lt enough))
    have few : len < 4 := by omega
    by_cases hex : core.isHexDigit (peek buffer start) = true
    · have present := isHexDigit_present core buffer hex
      have rest := inductionHypothesis fuel (start + 1)
        (value * 16 + core.hexDigitToNumber (peek buffer start)) (len + 1) (by omega) (by omega)
      have counter : len + 1 < 2 ^ 32 := by omega
      simp only [repeatChecked, checkedHexBody, charAt_eq, ok_bind, few, hex, and_self, if_true,
        advance_one present, addUnsigned_ok counter, pure_eq_ok, hexDigits, rest]
    · simp only [repeatChecked, checkedHexBody, charAt_eq, ok_bind, hex, and_false, if_false,
        pure_eq_ok, hexDigits, Bool.false_eq_true]

/-- With enough rounds the digits of a number of a quad are read as before, and no sum wraps that
is looked at later. -/
theorem checkedNumber_eq {fuel start value : Nat} (enough : buffer.length < fuel) :
    repeatChecked .endless (checkedNumberBody core buffer) fuel (start, value) =
      .ok ((numberLoop core buffer).run (start, value)) := by
  refine repeatChecked_run (numberLoop core buffer) CheckedFault.endless .ok _ (fun _ => True) ?_
    (fun _ _ _ _ => trivial) fuel (start, value) trivial ?_
  · rintro ⟨position, number⟩ _
    simp only [checkedNumberBody, charAt_eq, ok_bind, numberLoop, numberBody]
    by_cases digit : core.isDigit (peek buffer position) = true
    · have present := isDigit_present core buffer digit
      simp only [digit, if_true, pure_eq_ok]
      cases nextNumber number ((peek buffer position).toNat - (ascii '0').toNat) with
      | none => rfl
      | some next =>
        by_cases large : next > 255
        · simp only [large, if_true]
          rfl
        · simp only [large, if_false, advance_one present, ok_bind]
          rfl
    · simp only [digit, Bool.false_eq_true, if_false, pure_eq_ok]
      rfl
  · simp only [numberLoop]
    omega

/-- The dot between two numbers is read without a fault. -/
theorem checkedSeparator_eq {scan : QuadScan} :
    checkedSeparator buffer scan = .ok (quadSeparator buffer scan) := by
  simp only [checkedSeparator, quadSeparator, charAt_eq, ok_bind, pure_eq_ok]
  split
  · split
    · rename_i dot
      have present : scan.start < buffer.length := by
        apply inside_of_peek_ne_nul
        rw [dot.1]
        decide
      simp only [advance_one present, ok_bind]
    · rfl
  · rfl

/-- A number is stored at a place that exists. -/
theorem checkedStore_eq {scan : QuadScan} (few : scan.numbers < 4) (room : scan.current < 8)
    (start value : Nat) :
    ∃ next, checkedStore scan start value = .ok next ∧
      storeNumber scan start value = .ok (some next) := by
  have numbers : scan.numbers + 1 < 2 ^ 32 := by omega
  have current : scan.current + 1 < 2 ^ 32 := by omega
  simp only [checkedStore, storeNumber, getPiece, setPiece, dif_pos room, ok_bind, checkPiece_ok,
    addUnsigned_ok numbers, addUnsigned_ok current, pure_eq_ok]
  split
  · exact ⟨_, rfl, rfl⟩
  · exact ⟨_, rfl, rfl⟩

/-- A pass of the dotted quad is the pass of the parser. Every read is at a position inside
of the text or at its terminator, and the number of parts keeps the index of a piece below
eight. -/
theorem checkedQuadBody_eq {fuel first : Nat} {scan : QuadScan} (enough : buffer.length < fuel)
    (free : first ≤ 6) (bounded : scan.Bounded buffer first) :
    checkedQuadBody core buffer fuel scan = (quadBody core buffer scan).settle checkPiece := by
  simp only [checkedQuadBody, quadBody, charAt_eq, ok_bind, checkedSeparator_eq, pure_eq_ok]
  by_cases present : peek buffer scan.start ≠ 0
  · rw [if_pos present, if_pos present]
    cases separated : quadSeparator buffer scan with
    | none => rfl
    | some start =>
      have few := quadSeparator_few separated
      have index := bounded.index
      simp only [quadNumber, checkedNumber_eq core enough]
      by_cases digit : core.isDigit (peek buffer start) = true
      · simp only [digit, if_true, ok_bind]
        cases (numberLoop core buffer).run (start, noNumber) with
        | none => rfl
        | some reached =>
          obtain ⟨after, value⟩ := reached
          obtain ⟨next, checked, stored⟩ := checkedStore_eq few (by omega) after value
          simp only [checked, stored, ok_bind]
          rfl
      · simp only [digit, Bool.false_eq_true, if_false]
        rfl
  · rw [if_neg present, if_neg present]
    rfl

/-- A quad that has two places left is read as before. -/
theorem checkedQuad_eq {fuel first : Nat} {scan : QuadScan} (enough : buffer.length < fuel)
    (free : first ≤ 6) (bounded : scan.Bounded buffer first) :
    repeatChecked .endless (checkedQuadBody core buffer fuel) fuel scan =
      checkPiece ((quadLoop core buffer).run scan) := by
  apply repeatChecked_run (quadLoop core buffer) CheckedFault.endless checkPiece _
    (fun state => state.Bounded buffer first)
  · intro state here
    exact checkedQuadBody_eq core enough free here
  · intro state next here pass
    exact (quadBody_bounded core free here).1 next pass
  · exact bounded
  · simp only [quadLoop]
    omega

/-- The way back to the first digit of a quad does not leave the buffer. So the subtraction of
the length from the position does not wrap, and neither does the one that asks for room for two
pieces. -/
theorem checkedEmbedded_eq {fuel : Nat} {scan : Ipv6Scan} (enough : buffer.length < fuel)
    (bounded : scan.Bounded buffer) {start len : Nat} (digits : start = scan.start + len) :
    checkedEmbedded core buffer fuel scan start len =
      checkPiece (embeddedIpv4 core buffer scan start len) := by
  have back : moveBack start len = .ok scan.start := by
    rw [moveBack, if_pos (by omega), digits, Nat.add_sub_cancel]
  have room : subUnsigned 8 2 = .ok 6 := rfl
  simp only [checkedEmbedded, embeddedIpv4, back, room, checkPiece_ok, ok_bind, pure_eq_ok]
  by_cases noDigits : len = 0
  · rw [if_pos noDigits, if_pos noDigits]
    rfl
  · rw [if_neg noDigits, if_neg noDigits]
    by_cases full : scan.current > 6
    · rw [if_pos full, if_pos full]
      rfl
    · have initially : (QuadScan.mk scan.start scan.current 0 scan.address).Bounded buffer
          scan.current := ⟨bounded.inside, Nat.zero_le 4, by simp⟩
      have free : scan.current ≤ 6 := Nat.not_lt.mp full
      obtain ⟨result, finished, _⟩ := quadLoop_bounded core free initially
      rw [if_neg full, if_neg full, checkedQuad_eq core enough free initially, finished]
      simp only [checkPiece_ok, ok_bind]
      cases result with
      | none => rfl
      | some quad =>
        by_cases short : quad.numbers ≠ 4
        · simp only [if_pos short]
          rfl
        · simp only [if_neg short]
          rfl

/-- A group is stored at a place that exists. -/
theorem checkedPush_eq {scan : Ipv6Scan} (room : scan.current < 8) (start value : Nat) :
    (do
      let pushed ← checkedPush scan start (BitVec.ofNat 16 value)
      pure (some pushed)) = checkPiece (storeGroup scan start value) := by
  have current : scan.current + 1 < 2 ^ 32 := by omega
  simp only [checkedPush, storeGroup, setPiece, dif_pos room, ok_bind, checkPiece_ok,
    addUnsigned_ok current, pure_eq_ok]

/-- One round of the parser reads a group or a quad as before. Four digits are read at most, and
the character behind them is inside of the text or its terminator. -/
theorem checkedGroup_eq {fuel : Nat} {scan : Ipv6Scan} (enough : buffer.length < fuel)
    (four : 4 < fuel) (bounded : scan.Bounded buffer) (room : scan.current < 8) :
    checkedGroup core buffer fuel scan = checkPiece (readGroup core buffer scan) := by
  have digits := hexDigits_start core buffer 4 scan.start 0 0
  simp only [checkedGroup, readGroup, checkedHex_eq core 4 fuel scan.start 0 0 rfl four, ok_bind,
    charAt_eq]
  generalize hexDigits core buffer 4 scan.start 0 0 = group at digits
  obtain ⟨value, len, start⟩ := group
  simp only at digits ⊢
  by_cases dot : peek buffer start = ascii '.'
  · rw [if_pos dot, if_pos dot]
    exact checkedEmbedded_eq core enough bounded (by omega)
  · rw [if_neg dot, if_neg dot]
    by_cases colon : peek buffer start = ascii ':'
    · have present : start < buffer.length := by
        apply inside_of_peek_ne_nul
        rw [colon]
        decide
      rw [if_pos colon, if_pos colon, advance_one present, ok_bind]
      by_cases final : peek buffer (start + 1) = 0
      · rw [if_pos final, if_pos final]
        rfl
      · rw [if_neg final, if_neg final]
        exact checkedPush_eq room (start + 1) value
    · rw [if_neg colon, if_neg colon]
      by_cases nul : peek buffer start = 0
      · rw [if_pos nul, if_pos nul]
        exact checkedPush_eq room start value
      · rw [if_neg nul, if_neg nul]
        rfl

/-- A `::` is looked up without a fault, as it is not at the end. -/
theorem checkedCompression_eq {scan : Ipv6Scan} (room : scan.current < 8)
    (present : peek buffer scan.start ≠ 0) :
    checkedCompression buffer scan = checkPiece (openCompression scan) := by
  have current : scan.current + 1 < 2 ^ 32 := by omega
  have inside := inside_of_peek_ne_nul present
  simp only [checkedCompression, openCompression, advance_one inside, ok_bind, checkedPush,
    setPiece, dif_pos room, checkPiece_ok, addUnsigned_ok current, pure_eq_ok]
  cases scan.compress with
  | none => rfl
  | some place => rfl

/-- A pass of the group loop is the pass of the parser. The tests come in the same order, and
each access that is checked here is covered by the bounds that hold before the pass. -/
theorem checkedBody_eq {fuel : Nat} {scan : Ipv6Scan} (enough : buffer.length < fuel)
    (four : 4 < fuel) (bounded : scan.Bounded buffer) :
    checkedBody core buffer fuel scan = (ipv6Body core buffer scan).settle checkPiece := by
  simp only [checkedBody, ipv6Body, charAt_eq, ok_bind, pure_eq_ok]
  by_cases present : peek buffer scan.start ≠ 0
  · rw [if_pos present, if_pos present]
    by_cases full : scan.current ≥ 8
    · rw [if_pos full, if_pos full]
      rfl
    · have room : scan.current < 8 := Nat.not_le.mp full
      have step : checkedPart core buffer fuel scan (peek buffer scan.start) =
          checkPiece (if peek buffer scan.start = ascii ':' then openCompression scan
            else readGroup core buffer scan) := by
        unfold checkedPart
        split
        · exact checkedCompression_eq room present
        · exact checkedGroup_eq core enough four bounded room
      rw [if_neg full, if_neg full, step]
      generalize (if peek buffer scan.start = ascii ':' then openCompression scan
        else readGroup core buffer scan) = outcome
      cases outcome with
      | error fault => rfl
      | ok result =>
        cases result with
        | none => rfl
        | some next => rfl
  · rw [if_neg present, if_neg present]
    rfl

/-- With enough rounds all of the text is read as before. -/
theorem checkedGroups_eq {fuel : Nat} {scan : Ipv6Scan} (enough : buffer.length < fuel)
    (four : 4 < fuel) (bounded : scan.Bounded buffer) :
    repeatChecked .endless (checkedBody core buffer fuel) fuel scan =
      checkPiece ((ipv6Loop core buffer).run scan) := by
  apply repeatChecked_run (ipv6Loop core buffer) CheckedFault.endless checkPiece _
    (fun state => state.Bounded buffer)
  · intro state here
    exact checkedBody_eq core enough four here
  · intro state next here pass
    exact (ipv6Body_bounded core here).1 next pass
  · exact bounded
  · simp only [ipv6Loop]
    omega

/-- The swap loop counts down from the last piece; the piece swapped with it
lies at or behind the compressed run and before the end. -/
theorem checkedSwap_eq (compress swaps fuel current : Nat) (address : Ipv6AddressType)
    (inside : current < 8) (before : compress + swaps ≤ 8) (enough : swaps < fuel) :
    ∃ result, expand compress swaps current address = .ok result ∧
      repeatChecked .endless (checkedSwapBody compress) fuel (current, swaps, address) =
        .ok result := by
  induction swaps generalizing fuel current address with
  | zero =>
    obtain ⟨fuel, rfl⟩ := Nat.exists_eq_succ_of_ne_zero (Nat.ne_of_gt enough)
    refine ⟨address, rfl, ?_⟩
    simp only [repeatChecked, checkedSwapBody, Nat.lt_irrefl, gt_iff_lt, and_false, if_false,
      pure_eq_ok]
  | succ swaps inductionHypothesis =>
    obtain ⟨fuel, rfl⟩ := Nat.exists_eq_succ_of_ne_zero (Nat.ne_of_gt (Nat.zero_lt_of_lt enough))
    by_cases zero : current = 0
    · refine ⟨address, ?_, ?_⟩
      · rw [expand, if_pos zero]
      · simp only [repeatChecked, checkedSwapBody, zero, ne_eq, not_true_eq_false, false_and,
          if_false, pure_eq_ok]
    · have other : compress + swaps < 8 := by omega
      have sum : compress + (swaps + 1) < 2 ^ 32 := by omega
      have below : 1 ≤ compress + (swaps + 1) := by omega
      have index : compress + (swaps + 1) - 1 = compress + swaps := by omega
      have more : current ≠ 0 ∧ swaps + 1 > 0 := ⟨zero, Nat.succ_pos swaps⟩
      obtain ⟨result, expanded, checked⟩ := inductionHypothesis fuel (current - 1)
        ((address.set current (address.get ⟨compress + swaps, other⟩) inside).set
          (compress + swaps) (address.get ⟨current, inside⟩) other) (by omega) (by omega) (by omega)
      refine ⟨result, ?_, ?_⟩
      · simp only [expand, if_neg zero, getPiece, setPiece, dif_pos inside, dif_pos other, ok_bind]
        exact expanded
      · simp only [repeatChecked, checkedSwapBody, if_pos more, addUnsigned_ok sum,
          subUnsigned_ok below, index, getPiece, setPiece, dif_pos inside, dif_pos other, ok_bind,
          checkPiece_ok, subUnsigned_ok (Nat.one_le_iff_ne_zero.mpr zero),
          subUnsigned_ok (Nat.le_add_left 1 swaps), Nat.add_sub_cancel, pure_eq_ok]
        exact checked

/-- The first two characters are looked at without a fault. -/
theorem checkedStart_eq : checkedStart buffer = .ok (ipv6Start buffer) := by
  simp only [checkedStart, ipv6Start, charAt_eq, ok_bind, pure_eq_ok]
  by_cases colon : peek buffer 0 = ascii ':'
  · rw [if_pos colon, if_pos colon]
    by_cases short : buffer.length < 2
    · rw [if_pos short, if_pos (Or.inl short)]
    · have second : readByte buffer 1 = .ok (peek buffer 1) := by
        rw [readByte, peek, dif_pos (by omega), dif_pos (by omega)]
      have two : advance buffer 0 2 = .ok 2 := advance_ok (by omega)
      have one : addUnsigned 0 1 = .ok 1 := rfl
      rw [if_neg short, second, ok_bind]
      by_cases single : peek buffer 1 ≠ ascii ':'
      · rw [if_pos single, if_pos (Or.inr single)]
      · rw [if_neg single, if_neg (not_or.mpr ⟨short, single⟩), two, one, ok_bind, ok_bind]
  · rw [if_neg colon, if_neg colon]

end Refinement

/-- On every text, whatever its bytes, the checked parser with enough fuel ends
without a fault and computes what the parser computes. -/
theorem parseIpv6_inBounds (core : MoeCore) (buffer : Text) :
    ∃ result, parseIpv6 core buffer = .ok result ∧
      ∀ extra, checkedParseIpv6 core buffer (buffer.length + 9 + extra) = .ok result := by
  cases begun : ipv6Start buffer with
  | none =>
    refine ⟨none, ?_, fun extra => ?_⟩
    · rw [parseIpv6, begun]
    · rw [checkedParseIpv6, checkedStart_eq, begun]
      rfl
  | some initial =>
    have initially := ipv6Start_bounded begun
    obtain ⟨result, finished, ends⟩ := ipv6Loop_bounded core initially
    have groups (extra : Nat) :
        repeatChecked .endless (checkedBody core buffer (buffer.length + 9 + extra))
          (buffer.length + 9 + extra) initial = .ok result := by
      rw [checkedGroups_eq core (by omega) (by omega) initially, finished, checkPiece_ok]
    cases result with
    | none =>
      refine ⟨none, ?_, fun extra => ?_⟩
      · simp only [parseIpv6, begun, finished, ok_bind, pure_eq_ok]
      · simp only [checkedParseIpv6, checkedStart_eq, begun, groups extra, ok_bind, pure_eq_ok]
    | some scan =>
      obtain ⟨_, few, opened⟩ := ends scan rfl
      cases place : scan.compress with
      | none =>
        refine ⟨if scan.current ≠ 8 then none else some scan.address, ?_, fun extra => ?_⟩
        · simp only [parseIpv6, begun, finished, ok_bind, pure_eq_ok, place]
          split <;> rfl
        · simp only [checkedParseIpv6, checkedStart_eq, begun, groups extra, ok_bind, pure_eq_ok,
            place]
          split <;> rfl
      | some compress =>
        have behind := (opened compress place).2
        have last : subUnsigned 8 1 = .ok 7 := rfl
        have swap (extra : Nat) := checkedSwap_eq compress (scan.current - compress)
          (buffer.length + 9 + extra) 7 scan.address (by decide) (by omega) (by omega)
        obtain ⟨address, expanded, _⟩ := swap 0
        refine ⟨some address, ?_, fun extra => ?_⟩
        · simp only [parseIpv6, begun, finished, ok_bind, place, expanded, pure_eq_ok]
        · obtain ⟨again, same, checked⟩ := swap extra
          obtain rfl : address = again := Except.ok.inj (expanded.symm.trans same)
          simp only [checkedParseIpv6, checkedStart_eq, begun, groups extra, ok_bind, place,
            subUnsigned_ok behind, last, checked, pure_eq_ok]

end MoeUV
