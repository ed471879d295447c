import MoeUV.EndPoint.Ipv6Grammar

/-!
# The dotted quad in an IPv6 text

The quad loop of `ParseIpv6` reads decimal numbers between dots to the end of
the text and packs them two by two into pieces. It returns false at the first
number that is none; a text that it reads to the end is a dotted quad exactly
when it counts four numbers.
-/

namespace MoeUV

open Foundation.Memory Foundation.Loop Foundation.Execution Foundation.Positional

section Quad

/-- The pieces of the numbers read so far, the last of which may be half done. -/
def packPairs : List Nat → List (BitVec 16)
  | [] => []
  | [high] => [BitVec.ofNat 16 high]
  | high :: low :: rest => (BitVec.ofNat 16 high * 0x100 + BitVec.ofNat 16 low) :: packPairs rest

/-- The scan of a dotted quad of which some numbers have been read. -/
def quadAt (position : Nat) (read : List (BitVec 16)) (numbers : List Nat) : QuadScan where
  start := position
  current := read.length + numbers.length / 2
  numbers := numbers.length
  address := padded (read ++ packPairs numbers)

/-- The piece behind those that were read is still zero, -/
theorem getPiece_next {read : List (BitVec 16)} (room : read.length < 8) :
    getPiece (padded read) read.length = .ok 0 := by
  rw [getPiece_padded read room]
  simp

/-- the last one is found, -/
theorem getPiece_last {read : List (BitVec 16)} (room : read.length < 8) (piece : BitVec 16) :
    getPiece (padded (read ++ [piece])) read.length = .ok piece := by
  rw [getPiece_padded _ room]
  simp

/-- and may be written over. -/
theorem setPiece_last {read : List (BitVec 16)} (room : read.length < 8)
    (piece next : BitVec 16) :
    setPiece (padded (read ++ [piece])) read.length next = .ok (padded (read ++ [next])) := by
  rw [setPiece_padded room (by simp)]
  simp

/-- The first number of a piece is stored alone, the second joins it. The parity of the count
tells which it is; a piece that has its first number is multiplied before the second one is
added. -/
theorem storeNumber_next {read : List (BitVec 16)} (room : read.length ≤ 6) {numbers : List Nat}
    (few : numbers.length < 4) (position start n : Nat) :
    storeNumber (quadAt position read numbers) start n =
      .ok (some (quadAt start read (numbers ++ [n]))) := by
  match numbers, few with
  | [], _ =>
    have piece : (0 : BitVec 16) * 0x100 + BitVec.ofNat 16 n = BitVec.ofNat 16 n := by simp
    simp only [storeNumber, quadAt, packPairs, List.append_nil, List.length_nil, Nat.zero_div,
      Nat.add_zero, getPiece_next (Nat.lt_of_le_of_lt room (by decide)), ok_bind, piece,
      setPiece_next (Nat.lt_of_le_of_lt room (by decide))]
    simp [packPairs, pure_eq_ok]
  | [a], _ =>
    simp only [storeNumber, quadAt, packPairs, List.length_singleton, Nat.reduceDiv, Nat.add_zero,
      getPiece_last (Nat.lt_of_le_of_lt room (by decide)), ok_bind,
      setPiece_last (Nat.lt_of_le_of_lt room (by decide))]
    simp [packPairs, pure_eq_ok]
  | [a, b], _ =>
    have longer : (read ++ packPairs [a, b]).length = read.length + 1 := by simp [packPairs]
    have inside : (read ++ packPairs [a, b]).length < 8 := by omega
    have piece : (0 : BitVec 16) * 0x100 + BitVec.ofNat 16 n = BitVec.ofNat 16 n := by simp
    have loaded := getPiece_next inside
    have stored := setPiece_next inside (BitVec.ofNat 16 n)
    rw [longer] at loaded stored
    have appended : read ++ packPairs [a, b] ++ [BitVec.ofNat 16 n] =
        read ++ packPairs [a, b, n] := by
      simp [packPairs]
    simp only [storeNumber, quadAt, List.length_cons, List.length_nil, Nat.zero_add,
      Nat.reduceAdd, Nat.reduceDiv, loaded, ok_bind, piece, stored, appended]
    simp [packPairs, pure_eq_ok]
  | [a, b, c], _ =>
    have longer : (read ++ packPairs [a, b]).length = read.length + 1 := by simp [packPairs]
    have inside : (read ++ packPairs [a, b]).length < 8 := by omega
    have loaded := getPiece_last inside (BitVec.ofNat 16 c)
    have stored := setPiece_last inside (BitVec.ofNat 16 c)
      (BitVec.ofNat 16 c * 0x100 + BitVec.ofNat 16 n)
    have split : read ++ packPairs [a, b, c] = read ++ packPairs [a, b] ++ [BitVec.ofNat 16 c] := by
      simp [packPairs]
    have appended : read ++ packPairs [a, b] ++ [BitVec.ofNat 16 c * 0x100 + BitVec.ofNat 16 n] =
        read ++ packPairs [a, b, c, n] := by
      simp [packPairs]
    rw [longer] at loaded stored
    simp only [storeNumber, quadAt, List.length_cons, List.length_nil, Nat.zero_add,
      Nat.reduceAdd, Nat.reduceDiv, split, loaded, ok_bind, stored, appended]
    simp [packPairs, pure_eq_ok]

/-- A quad is not empty. -/
theorem DottedQuad.ne_nil {text : Text} {pieces : List (BitVec 16)}
    (dotted : DottedQuad text pieces) : text ≠ [] := by
  cases dotted
  simp

/-- It fills two pieces. -/
theorem DottedQuad.length {text : Text} {pieces : List (BitVec 16)}
    (dotted : DottedQuad text pieces) : pieces.length = 2 := by
  cases dotted
  rfl

variable (core : MoeCore) {read : List (BitVec 16)} (room : read.length ≤ 6)

include room

/-- A number of the quad is read and stored. -/
theorem quadNumber_octet (before : Text) {digits rest : Text} {n : Nat}
    (octet : DecimalOctet digits n) (stops : NoDecimal rest) (position : Nat)
    (numbers : List Nat) (few : numbers.length < 4) :
    quadNumber core (before ++ (digits ++ rest)) (quadAt position read numbers) before.length =
      .ok (some (quadAt (before.length + digits.length) read (numbers ++ [n]))) := by
  have digit : core.isDigit (peek (before ++ (digits ++ rest)) before.length) = true := by
    rw [isDigit_cons_iff]
    intro none
    cases digits with
    | nil => exact octet.present rfl
    | cons byte others => exact none byte rfl (allDigits_cons.mp octet.all).1
  have number := (numberLoop_eq core before digits rest octet.present octet.all stops).1 n octet
  rw [quadNumber, if_pos digit, number]
  exact storeNumber_next room few position _ n

omit room in
/-- Any other text makes it return false. -/
theorem quadNumber_refused (before text : Text) (scan : QuadScan)
    (refused : ¬ ∃ digits rest n, text = digits ++ rest ∧ DecimalOctet digits n ∧ NoDecimal rest) :
    quadNumber core (before ++ text) scan before.length = .ok none := by
  by_cases digit : core.isDigit (peek (before ++ text) before.length) = true
  · obtain ⟨digits, rest, rfl, all, stops⟩ := decimal_split text
    have present : digits ≠ [] := by
      rintro rfl
      exact (isDigit_cons_iff core before _).mp digit stops
    have number := (numberLoop_eq core before digits rest present all stops).2
      (fun accepted => by
        obtain ⟨n, octet⟩ := accepted
        exact refused ⟨digits, rest, n, rfl, octet, stops⟩)
    rw [quadNumber, if_pos digit, number]
  · rw [quadNumber, if_neg digit]

/-- Further numbers, each behind a dot. -/
inductive QuadRest : Text → List Nat → Prop where
  | nil : QuadRest [] []
  | cons {digits rest : Text} {n : Nat} {others : List Nat} (octet : DecimalOctet digits n)
      (more : QuadRest rest others) : QuadRest (ascii '.' :: (digits ++ rest)) (n :: others)

omit room in
/-- A dot is no digit, -/
theorem noDecimal_dot (rest : Text) : NoDecimal (ascii '.' :: rest) := by
  intro byte head digit
  obtain rfl := Option.some.inj head
  obtain ⟨value, found, _⟩ := digit
  cases found

omit room in
/-- so the numbers of a quad are told apart. -/
theorem QuadRest.stops {text : Text} {numbers : List Nat} (more : QuadRest text numbers) :
    NoDecimal text := by
  cases more with
  | nil => exact fun byte none => nomatch none
  | cons => exact noDecimal_dot _

omit room in
/-- Behind its separator a number is read. -/
theorem quadBody_separated {buffer : Text} {scan : QuadScan} {start : Nat}
    (present : peek buffer scan.start ≠ 0) (separated : quadSeparator buffer scan = some start) :
    quadBody core buffer scan =
      match quadNumber core buffer scan start with
      | .error fault => .leave (.error fault)
      | .ok none => .leave (.ok none)
      | .ok (some next) => .again next := by
  cases taken : quadNumber core buffer scan start with
  | error fault =>
    simp only [quadBody, present, ne_eq, not_false_eq_true, if_true, separated, taken]
  | ok outcome =>
    cases outcome <;>
      simp only [quadBody, present, ne_eq, not_false_eq_true, if_true, separated, taken]

omit room in
/-- The dot before a further number. -/
theorem quadBody_dot (read : List (BitVec 16)) (before text : Text) {numbers : List Nat}
    (nonempty : 0 < numbers.length) (few : numbers.length < 4) :
    quadBody core (before ++ ascii '.' :: text) (quadAt before.length read numbers) =
      match quadNumber core (before ++ ascii '.' :: text) (quadAt before.length read numbers)
          (before.length + 1) with
      | .error fault => .leave (.error fault)
      | .ok none => .leave (.ok none)
      | .ok (some next) => .again next := by
  have here : peek (before ++ ascii '.' :: text) before.length = ascii '.' := by
    rw [peek_here, peek_cons]
  have separated : quadSeparator (before ++ ascii '.' :: text)
      (quadAt before.length read numbers) = some (before.length + 1) := by
    have counted : numbers.length > 0 := nonempty
    simp only [quadSeparator, quadAt, here, few, counted, and_self, if_true]
  have present : peek (before ++ ascii '.' :: text) before.length ≠ 0 := by
    rw [here]
    decide
  exact quadBody_separated core present separated

/-- Further numbers are read to the end of the text. The induction is on the rest of the quad:
each number behind a dot is one pass, and the last pass ends at the terminator. -/
theorem quadLoop_rest (before : Text) {text : Text} {others : List Nat}
    (more : QuadRest text others) (numbers : List Nat) (nonempty : 0 < numbers.length)
    (few : numbers.length + others.length ≤ 4) :
    (quadLoop core (before ++ text)).run (quadAt before.length read numbers) =
      .ok (some (quadAt (before.length + text.length) read (numbers ++ others))) := by
  induction more generalizing before numbers with
  | nil =>
    rw [List.append_nil numbers]
    apply (quadLoop core _).run_leave
    change quadBody core _ _ = _
    have start : (quadAt before.length read numbers).start = before.length := rfl
    simp only [quadBody, start, peek_here, peek_nil, ne_eq, not_true_eq_false, if_false]
    rfl
  | @cons digits rest n others octet more inductionHypothesis =>
    rw [List.length_cons] at few
    have number := quadNumber_octet core room (before ++ [ascii '.']) octet more.stops
      before.length numbers (by omega)
    rw [List.append_assoc, List.singleton_append, ← next_start] at number
    have pass : (quadLoop core (before ++ ascii '.' :: (digits ++ rest))).body
        (quadAt before.length read numbers) =
        .again (quadAt (before.length + 1 + digits.length) read (numbers ++ [n])) := by
      change quadBody core _ _ = _
      rw [quadBody_dot core read before (digits ++ rest) nonempty (by omega), number]
    have further := inductionHypothesis (before ++ ascii '.' :: digits) (numbers ++ [n])
      (by simp) (by simp; omega)
    rw [(quadLoop core _).run_again pass]
    simpa [Nat.add_assoc, Nat.add_comm 1] using further

/-- Any other text makes the loop return false. The induction is on the length of the text. The
first byte has to be a dot with a number behind it; if it is, a shorter text is left that is
refused as well. -/
theorem quadLoop_refused (before text : Text) (noNul : 0 ∉ text) (numbers : List Nat)
    (nonempty : 0 < numbers.length) (few : numbers.length ≤ 4)
    (refused : ¬ ∃ others, QuadRest text others ∧ numbers.length + others.length ≤ 4) :
    (quadLoop core (before ++ text)).run (quadAt before.length read numbers) = .ok none := by
  induction length : text.length using Nat.strongRecOn generalizing before text numbers with
  | ind count inductionHypothesis =>
    cases text with
    | nil => exact absurd ⟨[], .nil, few⟩ refused
    | cons byte text =>
      have start : (quadAt before.length read numbers).start = before.length := rfl
      have here : peek (before ++ byte :: text) before.length = byte := by
        rw [peek_here, peek_cons]
      have notNul : ¬ byte = 0 := by
        rintro rfl
        exact noNul List.mem_cons_self
      by_cases separated : byte = ascii '.' ∧ numbers.length < 4
      · obtain ⟨rfl, more⟩ := separated
        have body := quadBody_dot core read before text nonempty more
        by_cases number : ∃ digits rest n, text = digits ++ rest ∧ DecimalOctet digits n ∧
            NoDecimal rest
        · obtain ⟨digits, rest, n, rfl, octet, stops⟩ := number
          have read' := quadNumber_octet core room (before ++ [ascii '.']) octet stops
            before.length numbers more
          rw [List.append_assoc, List.singleton_append, ← next_start] at read'
          rw [read'] at body
          have further := inductionHypothesis rest.length
            (by rw [← length]; simp)
            (before ++ ascii '.' :: digits) rest
            (fun member => noNul (List.mem_cons_of_mem _ (List.mem_append_right _ member)))
            (numbers ++ [n]) (by simp) (by simp; omega)
            (fun accepted => by
              obtain ⟨others, tail, total⟩ := accepted
              refine refused ⟨n :: others, .cons octet tail, ?_⟩
              simp only [List.length_append, List.length_cons, List.length_nil] at total ⊢
              omega) rfl
          rw [(quadLoop core _).run_again body]
          simpa [Nat.add_assoc, Nat.add_comm 1] using further
        · have none := quadNumber_refused core (before ++ [ascii '.']) text
            (quadAt before.length read numbers) number
          rw [List.append_assoc, List.singleton_append, ← next_start] at none
          rw [none] at body
          exact (quadLoop core _).run_leave body
      · apply (quadLoop core _).run_leave
        change quadBody core _ _ = _
        have unseparated : quadSeparator (before ++ byte :: text)
            (quadAt before.length read numbers) = none := by
          have counted : numbers.length > 0 := nonempty
          simp only [quadSeparator, quadAt, here, counted, if_true, separated, if_false]
        simp only [quadBody, start, here, ne_eq, notNul, not_false_eq_true, if_true, unseparated]

omit room in
/-- The body at the first number, which needs no dot. -/
theorem quadBody_first (read : List (BitVec 16)) (before : Text) (byte : Octet) (text : Text)
    (notNul : byte ≠ 0) :
    quadBody core (before ++ byte :: text) (quadAt before.length read []) =
      match quadNumber core (before ++ byte :: text) (quadAt before.length read [])
          before.length with
      | .error fault => .leave (.error fault)
      | .ok none => .leave (.ok none)
      | .ok (some next) => .again next := by
  have separated : quadSeparator (before ++ byte :: text) (quadAt before.length read []) =
      some before.length := by
    simp [quadSeparator, quadAt]
  have present : peek (before ++ byte :: text) before.length ≠ 0 := by
    rw [peek_here, peek_cons]
    exact notNul
  exact quadBody_separated core present separated

omit room in
/-- Two numbers go into each piece, the first in its upper half. -/
theorem packPairs_quad (a b c d : Nat) :
    packPairs [a, b, c, d] =
      [BitVec.ofNat 16 (256 * a + b), BitVec.ofNat 16 (256 * c + d)] := by
  simp [packPairs, BitVec.ofNat_add, BitVec.ofNat_mul, BitVec.mul_comm]

omit room in
/-- One number and three further numbers are a dotted quad. -/
theorem dottedQuad_iff (text : Text) (pieces : List (BitVec 16)) :
    DottedQuad text pieces ↔
      ∃ digits rest n others, text = digits ++ rest ∧ DecimalOctet digits n ∧
        QuadRest rest others ∧ others.length = 3 ∧ pieces = packPairs (n :: others) := by
  constructor
  · intro dotted
    cases dotted with
    | @quad first second third fourth a b c d octetA octetB octetC octetD =>
      refine ⟨first, _, a, [b, c, d], rfl, octetA, ?_, rfl, (packPairs_quad a b c d).symm⟩
      have last : QuadRest (ascii '.' :: (fourth ++ [])) [d] := .cons octetD .nil
      rw [List.append_nil] at last
      exact .cons octetB (.cons octetC last)
  · intro split
    obtain ⟨digits, rest, n, others, rfl, octet, more, three, rfl⟩ := split
    match others, three, more with
    | [b, c, d], _, .cons octetB (.cons octetC (.cons octetD .nil)) =>
      rw [packPairs_quad, List.append_nil]
      exact .quad octet octetB octetC octetD

/-- A dotted quad is read to the end of the text and gives two pieces. The first number has no
dot before it, so its pass differs from the others; these are read by the rest of the loop. -/
theorem quadLoop_quad (before : Text) {text : Text} {pieces : List (BitVec 16)}
    (dotted : DottedQuad text pieces) :
    (quadLoop core (before ++ text)).run ⟨before.length, read.length, 0, padded read⟩ =
      .ok (some ⟨before.length + text.length, read.length + 2, 4, padded (read ++ pieces)⟩) := by
  obtain ⟨digits, rest, n, others, rfl, octet, more, three, rfl⟩ := (dottedQuad_iff _ _).mp dotted
  have initial : (⟨before.length, read.length, 0, padded read⟩ : QuadScan) =
      quadAt before.length read [] := by
    simp [quadAt, packPairs]
  have number := quadNumber_octet core room before octet more.stops before.length []
    (by simp)
  have further := quadLoop_rest core room (before ++ digits) more [n] (by simp) (by simp [three])
  cases digits with
  | nil => exact absurd rfl octet.present
  | cons byte later =>
    have notNul : byte ≠ 0 := by
      rintro rfl
      obtain ⟨digit, found, _⟩ := (allDigits_cons.mp octet.all).1
      cases found
    have body := quadBody_first core read before byte (later ++ rest) notNul
    rw [List.cons_append] at number
    rw [number] at body
    rw [List.append_assoc, List.cons_append, List.length_append] at further
    rw [initial, List.cons_append, (quadLoop core _).run_again body]
    simp only [List.nil_append]
    rw [further]
    simp [quadAt, three, Nat.add_assoc, Nat.add_comm 1]

/-- On another text the loop returns false or does not count four numbers. The loop accepts
fewer numbers than four, which its caller refuses, so both outcomes are failures. -/
theorem quadLoop_not_quad (before text : Text) (noNul : 0 ∉ text)
    (refused : ¬ ∃ pieces, DottedQuad text pieces) :
    (quadLoop core (before ++ text)).run ⟨before.length, read.length, 0, padded read⟩ =
        .ok none ∨
      ∃ quad, (quadLoop core (before ++ text)).run ⟨before.length, read.length, 0, padded read⟩ =
        .ok (some quad) ∧ quad.numbers ≠ 4 := by
  have initial : (⟨before.length, read.length, 0, padded read⟩ : QuadScan) =
      quadAt before.length read [] := by
    simp [quadAt, packPairs]
  rw [initial]
  cases text with
  | nil =>
    right
    refine ⟨quadAt before.length read [], ?_, Nat.zero_ne_add_one 3⟩
    apply (quadLoop core _).run_leave
    change quadBody core _ _ = _
    have start : (quadAt before.length read []).start = before.length := rfl
    simp only [quadBody, start, peek_here, peek_nil, ne_eq, not_true_eq_false, if_false]
  | cons byte text =>
    have notNul : byte ≠ 0 := by
      rintro rfl
      exact noNul List.mem_cons_self
    have body := quadBody_first core read before byte text notNul
    by_cases number : ∃ digits rest n, byte :: text = digits ++ rest ∧ DecimalOctet digits n ∧
        NoDecimal rest
    · obtain ⟨digits, rest, n, split, octet, stops⟩ := number
      have read' := quadNumber_octet core room before octet stops before.length [] (by simp)
      rw [← split] at read'
      rw [read', List.nil_append] at body
      rw [(quadLoop core _).run_again body]
      have noNulRest : 0 ∉ rest := by
        rw [split] at noNul
        exact fun member => noNul (List.mem_append_right _ member)
      have joined : before ++ byte :: text = before ++ digits ++ rest := by
        rw [split, List.append_assoc]
      have position : before.length + digits.length = (before ++ digits).length := by simp
      rw [joined, position]
      by_cases more : ∃ others, QuadRest rest others ∧ [n].length + others.length ≤ 4
      · obtain ⟨others, more, few⟩ := more
        right
        refine ⟨_, quadLoop_rest core room (before ++ digits) more [n] (by simp) few, ?_⟩
        intro four
        refine refused ⟨_, (dottedQuad_iff _ _).mpr
          ⟨digits, rest, n, others, split, octet, more, ?_, rfl⟩⟩
        simpa [quadAt] using four
      · left
        exact quadLoop_refused core room (before ++ digits) rest noNulRest [n] (by simp)
          (by simp) more
    · left
      rw [quadNumber_refused core before (byte :: text) _ number] at body
      exact (quadLoop core _).run_leave body

end Quad

end MoeUV
