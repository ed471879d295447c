import MoeUV.EndPoint.ParseIpv6

/-!
# Positions and indices of the IPv6 parser

No pass of the loops in `ParseIpv6` leaves the read position behind the end of
the text, and none leaves the index of the next piece behind the last one. A
character that is read is not the NUL that stands for the end, so it lies inside
the text and its successor is at most the end. The dotted quad stores a piece
only with the first four numbers, and these fill the two pieces that were free
when it began.
-/

namespace MoeUV

open Foundation.Loop Foundation.Execution

section Positions

variable (core : MoeCore) (buffer : Text)

/-- Where a hexadecimal digit is read, the buffer has not ended. -/
theorem isHexDigit_present {start : Nat} (hex : core.isHexDigit (peek buffer start) = true) :
    start < buffer.length := by
  apply inside_of_peek_ne_nul
  intro nul
  rw [nul, core.isHexDigit_iff] at hex
  exact absurd hex (by decide)

/-- The digits of a group do not go past the end, -/
theorem hexDigits_bound (room start value len : Nat) (inside : start ≤ buffer.length) :
    (hexDigits core buffer room start value len).2.2 ≤ buffer.length := by
  induction room generalizing start value len with
  | zero => exact inside
  | succ room inductionHypothesis =>
    simp only [hexDigits]
    split
    · rename_i hex
      exact inductionHypothesis _ _ _ (isHexDigit_present core buffer hex)
    · exact inside

/-- nor do those of a number of a quad, -/
theorem numberLoop_bound {start value after result : Nat} (inside : start ≤ buffer.length)
    (finished : (numberLoop core buffer).run (start, value) = some (after, result)) :
    after ≤ buffer.length := by
  have bounded := (numberLoop core buffer).run_rule
    (fun state => state.1 ≤ buffer.length)
    (fun result => ∀ state, result = some state → state.1 ≤ buffer.length)
    (fun state next _ pass => by
      obtain ⟨present, advanced⟩ := numberBody_start core buffer pass
      omega)
    (fun state result here pass final same => by
      subst same
      simp only [numberLoop, numberBody] at pass
      split at pass
      · split at pass
        · cases pass
        · split at pass <;> cases pass
      · cases pass
        exact here)
    (start, value) inside
  exact bounded (after, result) finished

/-- nor does the dot before it, -/
theorem quadSeparator_bound {scan : QuadScan} {start : Nat} (inside : scan.start ≤ buffer.length)
    (separated : quadSeparator buffer scan = some start) : start ≤ buffer.length := by
  simp only [quadSeparator] at separated
  split at separated
  · split at separated
    · rename_i dot
      cases separated
      apply inside_of_peek_ne_nul
      rw [dot.1]
      decide
    · cases separated
  · cases separated
    exact inside

/-- nor does the number as a whole. -/
theorem quadNumber_bound {scan next : QuadScan} {start : Nat} (inside : start ≤ buffer.length)
    (read : quadNumber core buffer scan start = .ok (some next)) :
    next.start ≤ buffer.length := by
  simp only [quadNumber] at read
  split at read
  · split at read
    · cases read
    · rename_i after value finished
      rw [storeNumber_start read]
      exact numberLoop_bound core buffer inside finished
  · cases read

end Positions

/-- A loop that is left with a result has no further pass and no fault. -/
theorem leave_bounded {State Result : Type} {property : State → Prop} (result : Result) :
    (∀ next, Pass.leave (.ok result : Except ParseFault Result) = .again next → property next) ∧
      ∀ fault, (Pass.leave (.ok result) : Pass State (Except ParseFault Result)) ≠
        .leave (.error fault) := by
  constructor
  · intro next impossible
    cases impossible
  · intro fault impossible
    cases impossible

section Quad

variable (core : MoeCore) (buffer : Text)

/-- The two pieces of a dotted quad are filled by two numbers each. -/
structure QuadScan.Bounded (first : Nat) (scan : QuadScan) : Prop where
  inside : scan.start ≤ buffer.length
  few : scan.numbers ≤ 4
  index : scan.current = first + scan.numbers / 2

/-- A piece that exists can be read and written. -/
theorem storeNumber_ok {scan : QuadScan} (room : scan.current < 8) (start value : Nat) :
    ∃ address, storeNumber scan start value = .ok (some
      { start := start
        current := if scan.numbers + 1 = 2 ∨ scan.numbers + 1 = 4 then scan.current + 1
          else scan.current
        numbers := scan.numbers + 1
        address := address }) := by
  simp only [storeNumber, getPiece, setPiece, dif_pos room, ok_bind, pure_eq_ok]
  exact ⟨_, rfl⟩

variable {buffer} {first : Nat} {scan : QuadScan}

/-- The index counts the finished pairs of numbers. -/
theorem index_succ (few : scan.numbers < 4) (index : scan.current = first + scan.numbers / 2) :
    (if scan.numbers + 1 = 2 ∨ scan.numbers + 1 = 4 then scan.current + 1 else scan.current) =
      first + (scan.numbers + 1) / 2 := by
  split
  · omega
  · omega

/-- Before a number is read there are fewer than four. -/
theorem quadSeparator_few {start : Nat} (separated : quadSeparator buffer scan = some start) :
    scan.numbers < 4 := by
  simp only [quadSeparator] at separated
  split at separated
  · split at separated
    · rename_i dot
      exact dot.2
    · cases separated
  · omega

/-- With two free pieces a number has a piece to go to. -/
theorem quadNumber_bounded (free : first ≤ 6) (bounded : scan.Bounded buffer first)
    (room : scan.numbers < 4) {start : Nat} (inside : start ≤ buffer.length) :
    ∃ result, quadNumber core buffer scan start = .ok result ∧
      ∀ next, result = some next → next.Bounded buffer first := by
  have index := bounded.index
  simp only [quadNumber]
  split
  · cases finished : (numberLoop core buffer).run (start, noNumber) with
    | none => exact ⟨none, rfl, fun _ impossible => by cases impossible⟩
    | some reached =>
      obtain ⟨after, value⟩ := reached
      have free : scan.current < 8 := by omega
      obtain ⟨address, stored⟩ := storeNumber_ok free after value
      refine ⟨_, stored, ?_⟩
      rintro next ⟨⟩
      refine ⟨numberLoop_bound core buffer inside finished, room, ?_⟩
      exact index_succ room index
  · exact ⟨none, rfl, fun _ impossible => by cases impossible⟩

/-- No pass of the dotted quad runs into a fault, and every further pass is
bounded again. -/
theorem quadBody_bounded (free : first ≤ 6) (bounded : scan.Bounded buffer first) :
    (∀ next, quadBody core buffer scan = .again next → next.Bounded buffer first) ∧
      ∀ fault, quadBody core buffer scan ≠ .leave (.error fault) := by
  simp only [quadBody]
  split
  · cases separated : quadSeparator buffer scan with
    | none => exact leave_bounded none
    | some start =>
      have room := quadSeparator_few separated
      have here := quadSeparator_bound buffer bounded.inside separated
      obtain ⟨result, returned, ends⟩ := quadNumber_bounded core free bounded room here
      simp only [returned]
      cases result with
      | none => exact leave_bounded none
      | some next =>
        refine ⟨?_, fun _ impossible => by cases impossible⟩
        rintro other ⟨⟩
        exact ends next rfl
  · exact leave_bounded (some scan)

/-- The dotted quad runs into no fault and ends inside the text. -/
theorem quadLoop_bounded (free : first ≤ 6) (bounded : scan.Bounded buffer first) :
    ∃ result, (quadLoop core buffer).run scan = .ok result ∧
      ∀ final, result = some final → final.Bounded buffer first := by
  apply (quadLoop core buffer).run_rule (fun state => state.Bounded buffer first)
    (fun outcome => ∃ result, outcome = .ok result ∧
      ∀ final, result = some final → final.Bounded buffer first)
  · intro state next here pass
    exact (quadBody_bounded core free here).1 next pass
  · intro state outcome here pass
    cases outcome with
    | error fault => exact absurd pass ((quadBody_bounded core free here).2 fault)
    | ok result =>
      refine ⟨result, rfl, ?_⟩
      rintro final rfl
      simp only [quadLoop, quadBody] at pass
      split at pass
      · split at pass
        · cases pass
        · split at pass <;> cases pass
      · cases pass
        exact here
  · exact bounded

end Quad

section Groups

variable (core : MoeCore) (buffer : Text)

/-- The invariant of the group loop: the position is inside the text, at most
eight pieces have been read, and the compressed run lies behind one of them. -/
structure Ipv6Scan.Bounded (scan : Ipv6Scan) : Prop where
  inside : scan.start ≤ buffer.length
  few : scan.current ≤ 8
  opened : ∀ place, scan.compress = some place → 1 ≤ place ∧ place ≤ scan.current

variable {buffer} {scan : Ipv6Scan}

/-- A group is stored where there is room. -/
theorem storeGroup_ok (room : scan.current < 8) (start value : Nat) :
    ∃ address, storeGroup scan start value = .ok (some
      { scan with start := start, current := scan.current + 1, address := address }) := by
  simp only [storeGroup, setPiece, dif_pos room, ok_bind, pure_eq_ok]
  exact ⟨_, rfl⟩

/-- What a step of the group loop may do: no fault, and a bounded next state. -/
def StepBounded (buffer : Text) (step : Except ParseFault (Option Ipv6Scan)) : Prop :=
  ∃ result, step = .ok result ∧ ∀ next, result = some next → next.Bounded buffer

/-- A text that is refused has been read inside the buffer. -/
theorem StepBounded.refused : StepBounded buffer (.ok none) := ⟨none, rfl, nofun⟩

/-- A group that is stored leaves the scan inside, -/
theorem storeGroup_bounded (bounded : scan.Bounded buffer) (room : scan.current < 8)
    {start : Nat} (inside : start ≤ buffer.length) (value : Nat) :
    StepBounded buffer (storeGroup scan start value) := by
  obtain ⟨address, stored⟩ := storeGroup_ok room start value
  refine ⟨_, stored, ?_⟩
  rintro next ⟨⟩
  refine ⟨inside, room, ?_⟩
  intro place found
  obtain ⟨positive, behind⟩ := bounded.opened place found
  exact ⟨positive, Nat.le_succ_of_le behind⟩

/-- and so does a `::` that is not at the end. -/
theorem openCompression_bounded (room : scan.current < 8)
    (present : peek buffer scan.start ≠ 0) : StepBounded buffer (openCompression scan) := by
  simp only [openCompression]
  split
  · exact .refused
  · simp only [setPiece, dif_pos room, ok_bind, pure_eq_ok]
    refine ⟨_, rfl, ?_⟩
    rintro next ⟨⟩
    refine ⟨inside_of_peek_ne_nul present, room, ?_⟩
    rintro place ⟨⟩
    exact ⟨Nat.le_add_left 1 _, Nat.le_refl _⟩

/-- The position moves back by no more than the digits read before. They are part of the first
number of the quad, so it is read from there on, and the pieces of the quad fit because two
places are asked for before. -/
theorem embeddedIpv4_bounded (bounded : scan.Bounded buffer) {start len : Nat}
    (digits : start = scan.start + len) :
    StepBounded buffer (embeddedIpv4 core buffer scan start len) := by
  have back : moveBack start len = .ok scan.start := by
    rw [moveBack, if_pos (by omega), digits, Nat.add_sub_cancel]
  simp only [embeddedIpv4]
  split
  · exact .refused
  · simp only [back, ok_bind]
    split
    · exact .refused
    · rename_i free
      have initially : (QuadScan.mk scan.start scan.current 0 scan.address).Bounded buffer
          scan.current := ⟨bounded.inside, Nat.zero_le 4, by simp⟩
      obtain ⟨result, finished, ends⟩ := quadLoop_bounded core (Nat.not_lt.mp free) initially
      simp only [finished, ok_bind]
      cases result with
      | none => exact .refused
      | some quad =>
        obtain ⟨inside, few, index⟩ := ends quad rfl
        simp only [pure_eq_ok]
        split
        · exact .refused
        · refine ⟨_, rfl, ?_⟩
          rintro next ⟨⟩
          refine ⟨inside, ?_, ?_⟩
          · simp only
            omega
          · intro place found
            obtain ⟨positive, behind⟩ := bounded.opened place found
            refine ⟨positive, ?_⟩
            simp only
            omega

/-- One round of the parser stays inside the buffer and the address. -/
theorem readGroup_bounded (bounded : scan.Bounded buffer) (room : scan.current < 8) :
    StepBounded buffer (readGroup core buffer scan) := by
  have digits := hexDigits_start core buffer 4 scan.start 0 0
  have inside := hexDigits_bound core buffer 4 scan.start 0 0 bounded.inside
  simp only [readGroup]
  generalize hexDigits core buffer 4 scan.start 0 0 = group at digits inside
  obtain ⟨value, len, start⟩ := group
  simp only at digits inside
  split
  · exact embeddedIpv4_bounded core bounded (by omega)
  · split
    · rename_i colon
      split
      · exact .refused
      · have present : start < buffer.length := by
          apply inside_of_peek_ne_nul
          rw [colon]
          decide
        exact storeGroup_bounded bounded room present value
    · split
      · exact storeGroup_bounded bounded room inside value
      · exact .refused

/-- No pass of the group loop runs into a fault, and every further pass is
bounded again. -/
theorem ipv6Body_bounded (bounded : scan.Bounded buffer) :
    (∀ next, ipv6Body core buffer scan = .again next → next.Bounded buffer) ∧
      ∀ fault, ipv6Body core buffer scan ≠ .leave (.error fault) := by
  simp only [ipv6Body]
  split
  · rename_i present
    split
    · exact leave_bounded none
    · rename_i few
      have step : StepBounded buffer (if peek buffer scan.start = ascii ':' then
          openCompression scan else readGroup core buffer scan) := by
        split
        · exact openCompression_bounded (Nat.not_le.mp few) present
        · exact readGroup_bounded core bounded (Nat.not_le.mp few)
      obtain ⟨result, returned, ends⟩ := step
      rw [returned]
      cases result with
      | none => exact leave_bounded none
      | some next =>
        refine ⟨?_, fun _ impossible => by cases impossible⟩
        rintro other ⟨⟩
        exact ends next rfl
  · exact leave_bounded (some scan)

/-- The group loop runs into no fault and ends inside the text. -/
theorem ipv6Loop_bounded (bounded : scan.Bounded buffer) :
    ∃ result, (ipv6Loop core buffer).run scan = .ok result ∧
      ∀ final, result = some final → final.Bounded buffer := by
  apply (ipv6Loop core buffer).run_rule (fun state => state.Bounded buffer)
    (fun outcome => ∃ result, outcome = .ok result ∧
      ∀ final, result = some final → final.Bounded buffer)
  · intro state next here pass
    exact (ipv6Body_bounded core here).1 next pass
  · intro state outcome here pass
    cases outcome with
    | error fault => exact absurd pass ((ipv6Body_bounded core here).2 fault)
    | ok result =>
      refine ⟨result, rfl, ?_⟩
      rintro final rfl
      simp only [ipv6Loop, ipv6Body] at pass
      split at pass
      · split at pass
        · cases pass
        · split at pass <;> cases pass
      · cases pass
        exact here
  · exact bounded

/-- The scan with which the group loop begins is bounded. -/
theorem ipv6Start_bounded {initial : Ipv6Scan} (start : ipv6Start buffer = some initial) :
    initial.Bounded buffer := by
  simp only [ipv6Start] at start
  split at start
  · split at start
    · cases start
    · rename_i long
      cases start
      refine ⟨?_, by decide, ?_⟩
      · simp only
        omega
      · rintro place ⟨⟩
        exact ⟨Nat.le_refl 1, Nat.le_refl 1⟩
  · cases start
    exact ⟨Nat.zero_le _, Nat.zero_le 8, nofun⟩

end Groups

end MoeUV
