import MoeUV.EndPoint.Ipv6Quad

/-!
# The accepted IPv6 texts

`ParseIpv6` reads the text once from the left. A compressed run is read as one
zero piece and remembered by its position. Every pass through the group loop is
determined by the text that is left, and the passes that do not give up are the
rules of a derivation. So the loop reaches the end of a text exactly along a
derivation, and what a derivation has read is what the grammar describes: groups
to the end of the text, or groups around one compressed run. The swap loop
then moves the pieces after the run to the end of the array.
-/

namespace MoeUV

open Foundation.Memory Foundation.Loop Foundation.Execution Foundation.Positional

section Groups

/-- The scan after some pieces have been read. -/
def scanAt (position : Nat) (read : List (BitVec 16)) (compress : Option Nat) : Ipv6Scan where
  start := position
  current := read.length
  compress := compress
  address := padded read

/-- One rule of the grammar, on the text that is left. -/
inductive Ipv6Step : Text → List (BitVec 16) → Option Nat →
    Text → List (BitVec 16) → Option Nat → Prop where
  | compression {rest : Text} {read : List (BitVec 16)} (room : read.length < 8) :
      Ipv6Step (ascii ':' :: rest) read none rest (read ++ [0]) (some (read.length + 1))
  | group {digits rest : Text} {piece : BitVec 16} {read : List (BitVec 16)}
      {compress : Option Nat} (digit : Ipv6Group digits piece) (more : rest ≠ [])
      (room : read.length < 8) :
      Ipv6Step (digits ++ ascii ':' :: rest) read compress rest (read ++ [piece]) compress
  | last {digits : Text} {piece : BitVec 16} {read : List (BitVec 16)} {compress : Option Nat}
      (digit : Ipv6Group digits piece) (room : read.length < 8) :
      Ipv6Step digits read compress [] (read ++ [piece]) compress
  | quad {text : Text} {pieces read : List (BitVec 16)} {compress : Option Nat}
      (dotted : DottedQuad text pieces) (room : read.length ≤ 6) :
      Ipv6Step text read compress [] (read ++ pieces) compress

variable (core : MoeCore)

/-- Digits as a group. -/
theorem Ipv6Group.of_digits {digits : Text} (present : digits ≠ []) (short : digits.length ≤ 4)
    (all : AllDigits 16 digits) :
    Ipv6Group digits (BitVec.ofNat 16 (numeralValue 16 digits)) where
  present := present
  short := short
  all := all
  value := by
    have bound : numeralValue 16 digits < 2 ^ 16 := by
      calc
        numeralValue 16 digits < 16 ^ digits.length := numeralValue_lt (by decide) all
        _ ≤ 16 ^ 4 := Nat.pow_le_pow_right (by decide) short
        _ = 2 ^ 16 := by decide
    rw [BitVec.toNat_ofNat, Nat.mod_eq_of_lt bound]

/-- The piece of a group is the value of its digits, which fits. -/
theorem Ipv6Group.ofNat_value {digits : Text} {piece : BitVec 16} (group : Ipv6Group digits piece) :
    BitVec.ofNat 16 (numeralValue 16 digits) = piece := by
  rw [← group.value, BitVec.ofNat_toNat, BitVec.setWidth_eq]

/-- A group begins with a digit. -/
theorem Ipv6Group.head {digits : Text} {piece : BitVec 16} (group : Ipv6Group digits piece) :
    ∃ byte later digit, digits = byte :: later ∧ hexValue byte = some digit := by
  cases digits with
  | nil => exact absurd rfl group.present
  | cons byte later =>
    obtain ⟨digit, found, _⟩ := (allDigits_cons.mp group.all).1
    exact ⟨byte, later, digit, rfl, found⟩

/-- A group that is complete is stored behind those before it, as there is room. -/
theorem storeGroup_next {read : List (BitVec 16)} (room : read.length < 8) (position start : Nat)
    (compress : Option Nat) (value : Nat) :
    storeGroup (scanAt position read compress) start value =
      .ok (some (scanAt start (read ++ [BitVec.ofNat 16 value]) compress)) := by
  have current : (scanAt position read compress).current = read.length := rfl
  have address : (scanAt position read compress).address = padded read := rfl
  rw [storeGroup, current, address, setPiece_next room, ok_bind, pure_eq_ok]
  simp [scanAt]

section Body

variable (before : Text) (read : List (BitVec 16)) (compress : Option Nat)

/-- At the end of the text the scan is over. -/
theorem ipv6Body_end :
    ipv6Body core (before ++ []) (scanAt before.length read compress) =
      .leave (.ok (some (scanAt before.length read compress))) := by
  have start : (scanAt before.length read compress).start = before.length := rfl
  simp only [ipv6Body, start, peek_here, peek_nil, ne_eq, not_true_eq_false, if_false]

/-- Behind eight pieces no character may follow. -/
theorem ipv6Body_full {byte : Octet} (notNul : byte ≠ 0) (rest : Text) (full : 8 ≤ read.length) :
    ipv6Body core (before ++ byte :: rest) (scanAt before.length read compress) =
      .leave (.ok none) := by
  have start : (scanAt before.length read compress).start = before.length := rfl
  have current : (scanAt before.length read compress).current ≥ 8 := full
  simp only [ipv6Body, start, peek_here, peek_cons, ne_eq, notNul, not_false_eq_true, if_true,
    current]

/-- The first `::` leaves a mark where the zeros are to be put in. -/
theorem ipv6Body_compression (rest : Text) (room : read.length < 8) :
    ipv6Body core (before ++ ascii ':' :: rest) (scanAt before.length read none) =
      .again (scanAt (before.length + 1) (read ++ [0]) (some (read.length + 1))) := by
  have start : (scanAt before.length read none).start = before.length := rfl
  have current : ¬ (scanAt before.length read none).current ≥ 8 := Nat.not_le.mpr room
  have notNul : ¬ ascii ':' = 0 := by decide
  have opened : openCompression (scanAt before.length read none) =
      .ok (some (scanAt (before.length + 1) (read ++ [0]) (some (read.length + 1)))) := by
    simp only [openCompression, scanAt, setPiece_next room, ok_bind, pure_eq_ok]
    simp
  simp only [ipv6Body, start, peek_here, peek_cons, ne_eq, notNul, not_false_eq_true, if_true,
    current, if_false, opened]

/-- A second `::` is refused, whatever follows. -/
theorem ipv6Body_recompression (rest : Text) (place : Nat) (room : read.length < 8) :
    ipv6Body core (before ++ ascii ':' :: rest) (scanAt before.length read (some place)) =
      .leave (.ok none) := by
  have start : (scanAt before.length read (some place)).start = before.length := rfl
  have current : ¬ (scanAt before.length read (some place)).current ≥ 8 := Nat.not_le.mpr room
  have notNul : ¬ ascii ':' = 0 := by decide
  have refused : openCompression (scanAt before.length read (some place)) = .ok none := rfl
  simp only [ipv6Body, start, peek_here, peek_cons, ne_eq, notNul, not_false_eq_true, if_true,
    current, if_false, refused]

/-- Any other character begins a group, or a quad. -/
theorem ipv6Body_group {byte : Octet} (notNul : byte ≠ 0) (notColon : byte ≠ ascii ':')
    (rest : Text) (room : read.length < 8) :
    ipv6Body core (before ++ byte :: rest) (scanAt before.length read compress) =
      match readGroup core (before ++ byte :: rest) (scanAt before.length read compress) with
      | .error fault => .leave (.error fault)
      | .ok none => .leave (.ok none)
      | .ok (some next) => .again next := by
  have start : (scanAt before.length read compress).start = before.length := rfl
  have current : ¬ (scanAt before.length read compress).current ≥ 8 := Nat.not_le.mpr room
  cases taken : readGroup core (before ++ byte :: rest) (scanAt before.length read compress) with
  | error fault =>
    simp only [ipv6Body, start, peek_here, peek_cons, ne_eq, notNul, not_false_eq_true, if_true,
      current, if_false, notColon, taken]
  | ok outcome =>
    cases outcome <;>
      simp only [ipv6Body, start, peek_here, peek_cons, ne_eq, notNul, not_false_eq_true, if_true,
        current, if_false, notColon, taken]

/-- A group and what comes after it. -/
theorem readGroup_eq {digits tail : Text} (run : hexRun 4 (digits ++ tail) = digits) :
    readGroup core (before ++ (digits ++ tail)) (scanAt before.length read compress) =
      if peek tail 0 = ascii '.' then
        embeddedIpv4 core (before ++ (digits ++ tail)) (scanAt before.length read compress)
          (before.length + digits.length) digits.length
      else if peek tail 0 = ascii ':' then
        if peek tail 1 = 0 then .ok none
        else storeGroup (scanAt before.length read compress)
          (before.length + digits.length + 1) (numeralValue 16 digits)
      else if peek tail 0 = 0 then
        storeGroup (scanAt before.length read compress) (before.length + digits.length)
          (numeralValue 16 digits)
      else .ok none := by
  have start : (scanAt before.length read compress).start = before.length := rfl
  have digitsRead := hexDigits_eq core 4 before (digits ++ tail) 0 0
  rw [run, foldl_value, Nat.zero_mul, Nat.zero_add, Nat.zero_add] at digitsRead
  have after (offset : Nat) : peek (before ++ (digits ++ tail))
      (before.length + digits.length + offset) = peek tail offset := by
    rw [← List.append_assoc, ← List.length_append]
    exact peek_append_right (before ++ digits) tail offset
  have afterDigits := after 0
  rw [Nat.add_zero] at afterDigits
  simp only [readGroup, start, digitsRead, afterDigits, after 1]
  rfl

/-- The dotted quad begins again at the first digit of the group. -/
theorem embeddedIpv4_quad {text : Text} {len : Nat} (digits : len ≠ 0) (room : read.length ≤ 6)
    {quad : QuadScan}
    (finished : (quadLoop core (before ++ text)).run
      ⟨before.length, read.length, 0, padded read⟩ = .ok (some quad))
    (four : quad.numbers = 4) :
    embeddedIpv4 core (before ++ text) (scanAt before.length read compress)
        (before.length + len) len =
      .ok (some ⟨quad.start, quad.current, compress, quad.address⟩) := by
  have back : moveBack (before.length + len) len = .ok before.length := by
    simp [moveBack]
  have fits : ¬ read.length > 6 := Nat.not_lt.mpr room
  simp only [embeddedIpv4, digits, if_false, back, ok_bind, scanAt, fits, finished, four,
    ne_eq, not_true_eq_false, pure_eq_ok]

/-- There must be room for two pieces, and the quad must be complete. -/
theorem embeddedIpv4_refused {text : Text} {len : Nat} (digits : len ≠ 0)
    (refused : read.length ≤ 6 →
      (quadLoop core (before ++ text)).run ⟨before.length, read.length, 0, padded read⟩ =
          .ok none ∨
        ∃ quad, (quadLoop core (before ++ text)).run
          ⟨before.length, read.length, 0, padded read⟩ = .ok (some quad) ∧ quad.numbers ≠ 4) :
    embeddedIpv4 core (before ++ text) (scanAt before.length read compress)
        (before.length + len) len = .ok none := by
  have back : moveBack (before.length + len) len = .ok before.length := by
    simp [moveBack]
  by_cases room : read.length ≤ 6
  · have fits : ¬ read.length > 6 := Nat.not_lt.mpr room
    rcases refused room with none | incomplete
    · simp only [embeddedIpv4, digits, if_false, back, ok_bind, scanAt, fits, none, pure_eq_ok]
    · obtain ⟨quad, finished, notFour⟩ := incomplete
      simp only [embeddedIpv4, digits, if_false, back, ok_bind, scanAt, fits, finished, ne_eq,
        notFour, not_false_eq_true, if_true, pure_eq_ok]
  · have full : read.length > 6 := Nat.not_le.mp room
    simp only [embeddedIpv4, digits, if_false, back, ok_bind, scanAt, full, if_true, pure_eq_ok]

/-- A digit neither ends the text nor separates groups. -/
theorem plain_of_hexValue {byte : Octet} {digit : Nat} (found : hexValue byte = some digit) :
    byte ≠ 0 ∧ byte ≠ ascii ':' := by
  constructor
  · rintro rfl
    cases found
  · rintro rfl
    cases found

/-- No digit follows at the end of the text. -/
theorem noDigit_nil : NoDigit [] := fun _ none => nomatch none

/-- A separator is no digit. -/
theorem noDigit_separator {separator : Octet} (none : hexValue separator = none) (rest : Text) :
    NoDigit (separator :: rest) := by
  intro byte head
  rwa [← Option.some.inj head]

/-- A rule of the grammar is one pass through the loop. A compression consumes one colon, since
the other one was consumed before it. A group consumes its digits and the colon behind them, if
there is one, and a quad consumes the rest of the text. -/
theorem ipv6Body_step {text rest : Text} {read' : List (BitVec 16)} {compress' : Option Nat}
    (step : Ipv6Step text read compress rest read' compress') (noNul : 0 ∉ text) :
    ∃ consumed, text = consumed ++ rest ∧ consumed ≠ [] ∧
      ipv6Body core (before ++ text) (scanAt before.length read compress) =
        .again (scanAt (before ++ consumed).length read' compress') := by
  cases step with
  | compression room =>
    refine ⟨[ascii ':'], rfl, List.cons_ne_nil _ _, ?_⟩
    rw [ipv6Body_compression core before read rest room, next_start]
  | @group digits _ piece _ _ digit more room =>
    refine ⟨digits ++ [ascii ':'], by simp, by simp, ?_⟩
    obtain ⟨byte, later, value, rfl, found⟩ := digit.head
    obtain ⟨notNul, notColon⟩ := plain_of_hexValue found
    have notDot : ¬ ascii ':' = ascii '.' := by decide
    have run := hexRun_digits digit.all digit.short
      (noDigit_separator (by decide : hexValue (ascii ':') = none) rest)
    have following : ¬ peek (ascii ':' :: rest) 1 = 0 := by
      cases rest with
      | nil => exact absurd rfl more
      | cons next others =>
        have second : peek (ascii ':' :: next :: others) 1 = next := by simp [peek]
        rw [second]
        rintro rfl
        exact noNul (by simp)
    have group := readGroup_eq core before read compress run
    rw [peek_cons, if_neg notDot, if_pos rfl, if_neg following, storeGroup_next room,
      digit.ofNat_value] at group
    rw [List.cons_append] at group ⊢
    rw [ipv6Body_group core before read compress notNul notColon _ room, group]
    simp [Nat.add_assoc]
  | last digit room =>
    refine ⟨text, (List.append_nil text).symm, digit.present, ?_⟩
    obtain ⟨byte, later, value, rfl, found⟩ := digit.head
    obtain ⟨notNul, notColon⟩ := plain_of_hexValue found
    have notDot : ¬ (0 : Octet) = ascii '.' := by decide
    have nulNotColon : ¬ (0 : Octet) = ascii ':' := by decide
    have run := hexRun_digits digit.all digit.short noDigit_nil
    have group := readGroup_eq core before read compress run
    rw [peek_nil, if_neg notDot, if_neg nulNotColon, if_pos rfl, storeGroup_next room,
      digit.ofNat_value, List.append_nil] at group
    rw [ipv6Body_group core before read compress notNul notColon _ room, group,
      List.length_append]
  | @quad _ pieces _ _ dotted room =>
    have finished := quadLoop_quad core room before dotted
    refine ⟨text, (List.append_nil text).symm, ?_, ?_⟩
    · exact dotted.ne_nil
    · have two := dotted.length
      obtain ⟨digits, rest, n, others, rfl, octet, more, three, _⟩ :=
        (dottedQuad_iff _ _).mp dotted
      have all : AllDigits 16 digits := by
        intro byte member
        obtain ⟨digit, found, _⟩ := octet.all byte member
        exact ⟨digit, found, hexValue_lt found⟩
      cases more with
      | nil => cases three
      | @cons second later b more octetB moreB =>
        have run := hexRun_digits all (Nat.le_succ_of_le octet.length_le)
          (noDigit_separator (by decide : hexValue (ascii '.') = none) (second ++ later))
        have group := readGroup_eq core before read compress run
        have some : digits.length ≠ 0 := fun none =>
          octet.present (List.length_eq_zero_iff.mp none)
        rw [peek_cons, if_pos rfl,
          embeddedIpv4_quad core before read compress some room finished rfl] at group
        cases digits with
        | nil => exact absurd rfl octet.present
        | cons byte tail =>
          obtain ⟨digit, found, _⟩ := (allDigits_cons.mp all).1
          obtain ⟨notNul, notColon⟩ := plain_of_hexValue found
          rw [List.cons_append] at group ⊢
          rw [ipv6Body_group core before read compress notNul notColon _ (by omega), group]
          simp [scanAt, two]

/-- Where no rule applies the loop returns false. The first byte decides which rule might apply:
a colon, a digit, or neither. In each case the body tests what the rule asks for, and leaves
when that is missing. -/
theorem ipv6Body_refused {text : Text} (present : text ≠ []) (noNul : 0 ∉ text)
    (refused : ¬ ∃ rest read' compress', Ipv6Step text read compress rest read' compress') :
    ipv6Body core (before ++ text) (scanAt before.length read compress) = .leave (.ok none) := by
  cases text with
  | nil => exact absurd rfl present
  | cons byte others =>
    have notNul : byte ≠ 0 := by
      rintro rfl
      exact noNul List.mem_cons_self
    by_cases room : read.length < 8
    · by_cases colon : byte = ascii ':'
      · subst colon
        cases compress with
        | none => exact absurd ⟨_, _, _, .compression room⟩ refused
        | some place => exact ipv6Body_recompression core before read others place room
      · rw [ipv6Body_group core before read compress notNul colon others room]
        obtain ⟨⟨tail, split⟩, all, short⟩ := hexRun_spec 4 (byte :: others)
        generalize digitsRead : hexRun 4 (byte :: others) = digits at split all short
        rw [split] at digitsRead noNul refused ⊢
        have group : readGroup core (before ++ (digits ++ tail))
            (scanAt before.length read compress) = .ok none := by
          rw [readGroup_eq core before read compress digitsRead]
          cases tail with
          | nil =>
            rw [List.append_nil] at split
            have nonempty : digits ≠ [] := by
              rintro rfl
              cases split
            refine absurd ?_ refused
            rw [List.append_nil]
            exact ⟨_, _, _, .last (Ipv6Group.of_digits nonempty short all) room⟩
          | cons separator rest =>
            have separatorNotNul : ¬ separator = 0 := by
              rintro rfl
              exact noNul (by simp)
            rw [peek_cons]
            by_cases dot : separator = ascii '.'
            · subst dot
              rw [if_pos rfl]
              by_cases none : digits.length = 0
              · simp [embeddedIpv4, none]
              · apply embeddedIpv4_refused core before read compress none
                intro fits
                apply quadLoop_not_quad core fits before _ noNul
                intro quad
                obtain ⟨pieces, dotted⟩ := quad
                exact refused ⟨_, _, _, .quad dotted fits⟩
            · rw [if_neg dot]
              by_cases separated : separator = ascii ':'
              · subst separated
                have nonempty : digits ≠ [] := by
                  rintro rfl
                  exact colon (List.cons.inj split).1
                rw [if_pos rfl]
                by_cases more : rest = []
                · subst more
                  rw [if_pos (by simp [peek])]
                · exact absurd
                    ⟨_, _, _, .group (Ipv6Group.of_digits nonempty short all) more room⟩ refused
              · rw [if_neg separated, if_neg separatorNotNul]
        rw [group]
    · exact ipv6Body_full core before read compress notNul others (Nat.not_lt.mp room)

end Body

/-- Rules of the grammar, one after the other, to the end of the text. -/
inductive Ipv6Reads : Text → List (BitVec 16) → Option Nat → List (BitVec 16) → Option Nat →
    Prop where
  | done {read : List (BitVec 16)} {compress : Option Nat} :
      Ipv6Reads [] read compress read compress
  | step {text rest : Text} {read next final : List (BitVec 16)}
      {compress further place : Option Nat}
      (first : Ipv6Step text read compress rest next further)
      (more : Ipv6Reads rest next further final place) :
      Ipv6Reads text read compress final place

/-- The loop follows a derivation to the end of the text. -/
theorem ipv6Loop_reads (before : Text) {text : Text} {read final : List (BitVec 16)}
    {compress place : Option Nat} (reads : Ipv6Reads text read compress final place)
    (noNul : 0 ∉ text) :
    (ipv6Loop core (before ++ text)).run (scanAt before.length read compress) =
      .ok (some (scanAt (before ++ text).length final place)) := by
  induction reads generalizing before with
  | @done read compress =>
    have pass := ipv6Body_end core before read compress
    rw [(ipv6Loop core _).run_leave pass, List.append_nil]
  | step first more inductionHypothesis =>
    obtain ⟨consumed, rfl, _, pass⟩ := ipv6Body_step core before _ _ first noNul
    have further := inductionHypothesis (before ++ consumed)
      (fun member => noNul (List.mem_append_right _ member))
    rw [List.append_assoc] at further
    rw [(ipv6Loop core _).run_again pass, further]

/-- A text without a derivation makes the loop return false. -/
theorem ipv6Loop_refused (before text : Text) (read : List (BitVec 16)) (compress : Option Nat)
    (noNul : 0 ∉ text) (refused : ¬ ∃ final place, Ipv6Reads text read compress final place) :
    (ipv6Loop core (before ++ text)).run (scanAt before.length read compress) = .ok none := by
  induction length : text.length using Nat.strongRecOn generalizing before text read compress with
  | ind count inductionHypothesis =>
    have present : text ≠ [] := by
      rintro rfl
      exact refused ⟨read, compress, .done⟩
    by_cases step : ∃ rest next further, Ipv6Step text read compress rest next further
    · obtain ⟨rest, next, further, step⟩ := step
      obtain ⟨consumed, rfl, some, pass⟩ := ipv6Body_step core before _ _ step noNul
      have shorter : rest.length < count := by
        have positive := List.length_pos_iff.mpr some
        rw [← length, List.length_append]
        omega
      have again := inductionHypothesis rest.length shorter (before ++ consumed) rest next further
        (fun member => noNul (List.mem_append_right _ member))
        (fun accepted => by
          obtain ⟨final, place, more⟩ := accepted
          exact refused ⟨final, place, .step step more⟩) rfl
      rw [List.append_assoc] at again
      rw [(ipv6Loop core _).run_again pass, again]
    · exact (ipv6Loop core _).run_leave
        (ipv6Body_refused core before read compress present noNul step)

end Groups

section Derivations

/-- What ends an address is not empty, -/
theorem Ipv6Tail.ne_nil {text : Text} {pieces : List (BitVec 16)} (tail : Ipv6Tail text pieces) :
    text ≠ [] := by
  cases tail with
  | single group => exact group.present
  | quad dotted => exact dotted.ne_nil
  | cons group others => simp

/-- No rule applies to the empty text. -/
theorem Ipv6Reads.of_nil {read final : List (BitVec 16)} {compress place : Option Nat}
    (reads : Ipv6Reads [] read compress final place) : final = read ∧ place = compress := by
  cases reads with
  | done => exact ⟨rfl, rfl⟩
  | step first more =>
    generalize nothing : ([] : Text) = text at first
    cases first with
    | compression => cases nothing
    | group => simp at nothing
    | last digit => exact absurd nothing.symm digit.present
    | quad dotted => exact absurd nothing.symm dotted.ne_nil

/-- The groups to the end of the text are read behind what was read before. -/
theorem Ipv6Reads.of_tail {text : Text} {back : List (BitVec 16)} (tail : Ipv6Tail text back)
    (read : List (BitVec 16)) (compress : Option Nat) (room : (read ++ back).length ≤ 8) :
    Ipv6Reads text read compress (read ++ back) compress := by
  induction tail generalizing read with
  | single group =>
    rw [List.length_append, List.length_singleton] at room
    exact .step (.last group (by omega)) .done
  | quad dotted =>
    rw [List.length_append, dotted.length] at room
    exact .step (.quad dotted (by omega)) .done
  | @cons digits rest piece pieces group others inductionHypothesis =>
    rw [List.length_append, List.length_cons] at room
    have further := inductionHypothesis (read ++ [piece]) (by simp; omega)
    rw [List.append_assoc, List.singleton_append] at further
    exact .step (.group group others.ne_nil (by omega)) further

/-- Groups before a compressed run, up to and with its second colon. -/
inductive Ipv6Opens : Text → List (BitVec 16) → Text → Prop where
  | here {after : Text} : Ipv6Opens (ascii ':' :: after) [] after
  | group {digits rest after : Text} {piece : BitVec 16} {front : List (BitVec 16)}
      (digit : Ipv6Group digits piece) (more : Ipv6Opens rest front after) :
      Ipv6Opens (digits ++ ascii ':' :: rest) (piece :: front) after

/-- nor is what opens one. -/
theorem Ipv6Opens.ne_nil {text after : Text} {front : List (BitVec 16)}
    (opens : Ipv6Opens text front after) : text ≠ [] := by
  cases opens with
  | here => exact List.cons_ne_nil _ _
  | group => simp

/-- Some groups and a `::` behind them open an address that is compressed. -/
theorem Ipv6Opens.of_groups {before : Text} {front : List (BitVec 16)}
    (groups : Ipv6Groups before front) (after : Text) :
    Ipv6Opens (before ++ ascii ':' :: ascii ':' :: after) front after := by
  induction groups with
  | single group => exact .group group .here
  | cons group others inductionHypothesis =>
    rw [List.append_assoc, List.cons_append]
    exact .group group inductionHypothesis

/-- Behind the first colon, groups before a compressed run are groups. -/
theorem Ipv6Opens.groups {text after : Text} {front : List (BitVec 16)}
    (opens : Ipv6Opens text front after) (digits : Text) (piece : BitVec 16)
    (group : Ipv6Group digits piece) :
    ∃ before, digits ++ ascii ':' :: text = before ++ ascii ':' :: ascii ':' :: after ∧
      Ipv6Groups before (piece :: front) := by
  induction opens generalizing digits piece with
  | here => exact ⟨digits, rfl, .single group⟩
  | group digit more inductionHypothesis =>
    obtain ⟨before, split, groups⟩ := inductionHypothesis _ _ digit
    refine ⟨digits ++ ascii ':' :: before, ?_, .cons group groups⟩
    rw [split, List.append_assoc, List.cons_append]

/-- A compressed run is read as one zero piece. The groups in front are read first, by induction
on the opening; then the second colon adds the zero piece, and the tail is read behind it. -/
theorem Ipv6Reads.of_opens {text after : Text} {front back : List (BitVec 16)}
    (opens : Ipv6Opens text front after) (tail : OrEmpty Ipv6Tail after back)
    (read : List (BitVec 16)) (room : (read ++ front ++ [0] ++ back).length ≤ 8) :
    Ipv6Reads text read none (read ++ front ++ [0] ++ back)
      (some (read.length + front.length + 1)) := by
  induction opens generalizing read with
  | here =>
    simp only [List.append_nil, List.length_append, List.length_singleton] at room ⊢
    apply Ipv6Reads.step (.compression (by omega))
    rcases tail with empty | tail
    · obtain ⟨rfl, rfl⟩ := empty
      rw [List.append_nil]
      exact .done
    · exact Ipv6Reads.of_tail tail _ _ (by simp; omega)
  | @group digits rest after piece front digit more inductionHypothesis =>
    simp only [List.length_append, List.length_cons, List.length_nil] at room
    have further := inductionHypothesis tail (read ++ [piece]) (by simp; omega)
    have same :
        read ++ [piece] ++ front ++ [0] ++ back = read ++ piece :: front ++ [0] ++ back := by
      simp
    have place : (read ++ [piece]).length + front.length + 1 =
        read.length + (piece :: front).length + 1 := by
      simp only [List.length_append, List.length_cons, List.length_nil]
      omega
    rw [same, place] at further
    exact .step (.group digit more.ne_nil (by omega)) further

/-- What a derivation has read: groups to the end, or groups around one
compressed run, within eight pieces. -/
theorem Ipv6Reads.sound {text : Text} {read final : List (BitVec 16)}
    {compress place : Option Nat} (reads : Ipv6Reads text read compress final place)
    (room : read.length ≤ 8) :
    final.length ≤ 8 ∧
      ((∃ back, place = compress ∧ OrEmpty Ipv6Tail text back ∧ final = read ++ back) ∨
        ∃ front after back, compress = none ∧ Ipv6Opens text front after ∧
          OrEmpty Ipv6Tail after back ∧ place = some (read.length + front.length + 1) ∧
          final = read ++ front ++ [0] ++ back) := by
  induction reads with
  | done => exact ⟨room, Or.inl ⟨[], rfl, Or.inl ⟨rfl, rfl⟩, (List.append_nil _).symm⟩⟩
  | @step _ rest _ _ _ _ _ _ first more inductionHypothesis =>
    cases first with
    | compression inside =>
      obtain ⟨bounded, plain | opened⟩ := inductionHypothesis (by simp; omega)
      · obtain ⟨back, rfl, tail, rfl⟩ := plain
        refine ⟨bounded, Or.inr ⟨[], rest, back, rfl, .here, tail, rfl, ?_⟩⟩
        rw [List.append_nil]
      · obtain ⟨front, after, back, impossible, _⟩ := opened
        cases impossible
    | @group digits _ piece _ _ digit something inside =>
      obtain ⟨bounded, plain | opened⟩ := inductionHypothesis (by simp; omega)
      · obtain ⟨back, rfl, tail, rfl⟩ := plain
        have others : Ipv6Tail rest back :=
          tail.resolve_left (fun empty => something empty.1)
        refine ⟨bounded, Or.inl ⟨piece :: back, rfl, Or.inr (.cons digit others), ?_⟩⟩
        rw [List.append_assoc, List.singleton_append]
      · obtain ⟨front, after, back, rfl, opens, tail, rfl, rfl⟩ := opened
        refine ⟨bounded, Or.inr ⟨piece :: front, after, back, rfl, .group digit opens, tail, ?_,
          ?_⟩⟩
        · congr 1
          simp only [List.length_append, List.length_cons, List.length_nil]
          omega
        · simp
    | @last digits piece read compress digit inside =>
      obtain ⟨rfl, rfl⟩ := more.of_nil
      refine ⟨by simp; omega, Or.inl ⟨[piece], rfl, Or.inr (.single digit), rfl⟩⟩
    | @quad text pieces read compress dotted inside =>
      obtain ⟨rfl, rfl⟩ := more.of_nil
      refine ⟨by simp [dotted.length]; omega, Or.inl ⟨pieces, rfl, Or.inr (.quad dotted), rfl⟩⟩

end Derivations

section Expansion

/-- In the middle of a list one piece is replaced, -/
theorem set_middle (before : List (BitVec 16)) (piece other : BitVec 16)
    (after : List (BitVec 16)) :
    (before ++ piece :: after).set before.length other = before ++ other :: after := by
  simp

/-- and the piece is found there. -/
theorem getD_middle (before : List (BitVec 16)) (piece : BitVec 16) (after : List (BitVec 16)) :
    (before ++ piece :: after).getD before.length 0 = piece := by
  simp

/-- One swap moves the last piece before the zeros behind them. The piece is exchanged with the
last of the zeros, so that the zeros move one place to the front. -/
theorem expand_succ (before moved : List (BitVec 16)) (piece : BitVec 16)
    (zeros compress swaps : Nat) (eight : before.length + 1 + zeros + moved.length = 8)
    (positive : 0 < before.length) (place : compress + swaps = before.length) :
    expand compress (swaps + 1) (7 - moved.length)
        (padded (before ++ piece :: (List.replicate zeros 0 ++ moved))) =
      expand compress swaps (7 - (piece :: moved).length)
        (padded (before ++ (List.replicate zeros 0 ++ piece :: moved))) := by
  have notFirst : ¬ 7 - moved.length = 0 := by omega
  have counted : 7 - moved.length - 1 = 7 - (piece :: moved).length := by
    rw [List.length_cons]
    omega
  rw [expand, if_neg notFirst, place]
  dsimp only
  cases zeros with
  | zero =>
    have current : 7 - moved.length = before.length := by omega
    have inside : before.length < 8 := by omega
    simp only [List.replicate_zero, List.nil_append] at counted ⊢
    rw [current] at counted ⊢
    rw [getPiece_padded _ inside, getD_middle, ok_bind, ok_bind,
      setPiece_padded inside (by simp), set_middle, ok_bind, setPiece_padded inside (by simp),
      set_middle, ok_bind, counted]
  | succ fewer =>
    have last : before ++ piece :: (List.replicate (fewer + 1) 0 ++ moved) =
        (before ++ piece :: List.replicate fewer 0) ++ 0 :: moved := by
      simp [List.replicate_succ']
    have final : before ++ (List.replicate (fewer + 1) 0 ++ piece :: moved) =
        before ++ 0 :: (List.replicate fewer 0 ++ piece :: moved) := by
      simp [List.replicate_succ]
    have current : 7 - moved.length = (before ++ piece :: List.replicate fewer 0).length := by
      simp
      omega
    have inside : (before ++ piece :: List.replicate fewer 0).length < 8 := by
      simp
      omega
    have early : before.length < 8 := by omega
    have swapped : (before ++ piece :: List.replicate fewer 0) ++ piece :: moved =
        before ++ piece :: (List.replicate fewer 0 ++ piece :: moved) := by simp
    have read : getPiece (padded (before ++ piece :: (List.replicate (fewer + 1) 0 ++ moved)))
        before.length = .ok piece := by
      rw [getPiece_padded _ early, getD_middle]
    rw [read, last, current, getPiece_padded _ inside, getD_middle, ok_bind, ok_bind,
      setPiece_padded inside (by simp), set_middle, ok_bind, swapped,
      setPiece_padded early (by simp), set_middle, ok_bind, ← current, counted, final]

/-- The swap loop moves the pieces after the compressed run to the end. -/
theorem expand_eq (front back moved : List (BitVec 16)) (zeros : Nat)
    (eight : front.length + back.length + zeros + moved.length = 8) (positive : 0 < front.length) :
    expand front.length back.length (7 - moved.length)
        (padded (front ++ back ++ (List.replicate zeros 0 ++ moved))) =
      .ok (padded (front ++ List.replicate zeros 0 ++ (back ++ moved))) := by
  induction back using List.reverseRecOn generalizing moved with
  | nil =>
    rw [List.length_nil, expand, List.append_nil, List.nil_append, List.append_assoc]
  | append_singleton back piece inductionHypothesis =>
    rw [List.length_append, List.length_singleton] at eight ⊢
    have further := inductionHypothesis (piece :: moved) (by rw [List.length_cons]; omega)
    have step := expand_succ (front ++ back) moved piece zeros front.length back.length
      (by rw [List.length_append]; omega) (by rw [List.length_append]; omega)
      (by rw [List.length_append])
    have text : front ++ (back ++ [piece]) ++ (List.replicate zeros 0 ++ moved) =
        front ++ back ++ piece :: (List.replicate zeros 0 ++ moved) := by simp
    rw [text, step, further, List.append_assoc back, List.singleton_append]

/-- Zeros need not be stored. -/
theorem padded_append_zeros (read : List (BitVec 16)) (zeros : Nat) :
    padded (read ++ List.replicate zeros 0) = padded read := by
  induction zeros with
  | zero => rw [List.replicate_zero, List.append_nil]
  | succ zeros inductionHypothesis =>
    rw [List.replicate_succ', ← List.append_assoc, padded_append_zero, inductionHypothesis]

end Expansion

section Whole

variable (core : MoeCore) {text : Text}

/-- A group begins with a digit and not with a colon, -/
theorem Ipv6Group.no_colon {digits : Text} {piece : BitVec 16} (group : Ipv6Group digits piece)
    (rest : Text) : (digits ++ rest).head? ≠ some (ascii ':') := by
  obtain ⟨byte, later, digit, rfl, found⟩ := group.head
  intro colon
  exact (plain_of_hexValue found).2 (Option.some.inj colon)

/-- so what ends an address does not begin with a colon, -/
theorem Ipv6Tail.no_colon {pieces : List (BitVec 16)} (tail : Ipv6Tail text pieces) :
    text.head? ≠ some (ascii ':') := by
  cases tail with
  | single group =>
    rw [← List.append_nil text]
    exact group.no_colon []
  | quad dotted =>
    obtain ⟨digits, rest, n, others, rfl, octet, _⟩ := (dottedQuad_iff _ _).mp dotted
    cases digits with
    | nil => exact absurd rfl octet.present
    | cons byte later =>
      obtain ⟨digit, found, _⟩ := (allDigits_cons.mp octet.all).1
      intro colon
      exact (plain_of_hexValue found).2 (Option.some.inj colon)
  | cons group others => exact group.no_colon _

/-- and neither does a run of groups. -/
theorem Ipv6Groups.no_colon {before : Text} {front : List (BitVec 16)}
    (groups : Ipv6Groups before front) (rest : Text) :
    (before ++ rest).head? ≠ some (ascii ':') := by
  cases groups with
  | single group => exact group.no_colon rest
  | cons group others =>
    rw [List.append_assoc]
    exact group.no_colon _

/-- A text that begins with a group is read from its first character. -/
theorem ipv6Start_plain (head : text.head? ≠ some (ascii ':')) :
    ipv6Start text = some (scanAt 0 [] none) := by
  have notColon : ¬ peek text 0 = ascii ':' := by
    cases text with
    | nil => decide
    | cons byte rest =>
      rw [peek_cons]
      rintro rfl
      exact head rfl
  rw [ipv6Start, if_neg notColon]
  rfl

/-- One that begins with `::` is read behind it, with the mark at the front. -/
theorem ipv6Start_compressed (after : Text) :
    ipv6Start (ascii ':' :: ascii ':' :: after) = some (scanAt 2 [0] (some 1)) := by
  have long : ¬ ((ascii ':' :: ascii ':' :: after).length < 2 ∨
      peek (ascii ':' :: ascii ':' :: after) 1 ≠ ascii ':') := by
    simp [peek]
  rw [ipv6Start, peek_cons, if_pos rfl, if_neg long]
  rfl

/-- A single colon at the front is refused. -/
theorem ipv6Start_refused {rest : Text} (single : rest.head? ≠ some (ascii ':')) :
    ipv6Start (ascii ':' :: rest) = none := by
  have refused : (ascii ':' :: rest).length < 2 ∨ peek (ascii ':' :: rest) 1 ≠ ascii ':' := by
    cases rest with
    | nil => exact Or.inl (by decide)
    | cons byte others =>
      right
      have second : peek (ascii ':' :: byte :: others) 1 = byte := by simp [peek]
      rw [second]
      rintro rfl
      exact single rfl
  rw [ipv6Start, peek_cons, if_pos rfl, if_pos refused]

/-- Without a compressed run all eight pieces must have been read. -/
theorem parseIpv6_plain {initial : Ipv6Scan} {position : Nat} {read : List (BitVec 16)}
    (start : ipv6Start text = some initial)
    (finished : (ipv6Loop core text).run initial = .ok (some (scanAt position read none))) :
    parseIpv6 core text = .ok (if read.length ≠ 8 then none else some (padded read)) := by
  rw [parseIpv6, start]
  simp only [finished, ok_bind, scanAt, pure_eq_ok]
  split
  · rfl
  · rfl

/-- A compressed run is expanded to the zeros that are missing. -/
theorem parseIpv6_compressed {initial : Ipv6Scan} {position : Nat} (front back : List (BitVec 16))
    (start : ipv6Start text = some initial)
    (finished : (ipv6Loop core text).run initial =
      .ok (some (scanAt position (front ++ [0] ++ back) (some (front.length + 1)))))
    (room : (front ++ [0] ++ back).length ≤ 8) :
    parseIpv6 core text = .ok (some
      (padded (front ++ List.replicate (8 - (front.length + back.length)) 0 ++ back))) := by
  simp only [List.length_append, List.length_singleton] at room
  have swaps : (front ++ [0] ++ back).length - (front.length + 1) = back.length := by
    simp only [List.length_append, List.length_singleton]
    omega
  obtain ⟨zeros, missing⟩ := Nat.exists_eq_add_of_le room
  have expanded := expand_eq (front ++ [0]) back [] zeros
    (by simp only [List.length_append, List.length_singleton, List.length_nil]; omega) (by simp)
  rw [List.append_nil, List.append_nil, padded_append_zeros, List.length_append,
    List.length_singleton, List.length_nil, Nat.sub_zero] at expanded
  have count : 8 - (front.length + back.length) = zeros + 1 := by omega
  have joined : front ++ [0] ++ List.replicate zeros 0 ++ back =
      front ++ List.replicate (zeros + 1) 0 ++ back := by
    simp [List.replicate_succ]
  rw [joined] at expanded
  rw [parseIpv6, start, count]
  simp only [finished, ok_bind, scanAt, swaps, expanded, pure_eq_ok]

variable (noNul : 0 ∉ text)

include noNul

/-- A text of the grammar is parsed to the pieces it denotes. A full address is read group by
group. In a compressed one the zero piece is counted as one, and the loop behind expands it to
as many zeros as are missing. -/
theorem parseIpv6_accepted {pieces : List (BitVec 16)} (denotes : Ipv6Text text pieces) :
    parseIpv6 core text = .ok (some (padded pieces)) := by
  rcases denotes with full | compressed
  · obtain ⟨tail, eight⟩ := full
    have reads := Ipv6Reads.of_tail tail [] none (by simp [eight])
    have finished := ipv6Loop_reads core [] reads noNul
    have parsed := parseIpv6_plain core (ipv6Start_plain tail.no_colon) finished
    rw [List.nil_append, if_neg (not_not_intro eight)] at parsed
    exact parsed
  · obtain ⟨before, after, front, back, rfl, groups, tail, room, rfl⟩ := compressed
    rcases groups with empty | groups
    · obtain ⟨rfl, rfl⟩ := empty
      have fits : ([0] ++ back).length ≤ 8 := by
        rw [List.length_nil] at room
        rw [List.length_append, List.length_singleton]
        omega
      have reads : Ipv6Reads after [0] (some 1) ([0] ++ back) (some 1) := by
        rcases tail with empty | tail
        · obtain ⟨rfl, rfl⟩ := empty
          exact .done
        · exact Ipv6Reads.of_tail tail [0] (some 1) fits
      have finished := ipv6Loop_reads core [ascii ':', ascii ':'] reads
        (fun member => noNul (List.mem_cons_of_mem _ (List.mem_cons_of_mem _ member)))
      exact parseIpv6_compressed core [] back (ipv6Start_compressed after) finished fits
    · have reads := Ipv6Reads.of_opens (Ipv6Opens.of_groups groups after) tail []
        (by simp; omega)
      have finished := ipv6Loop_reads core [] reads noNul
      have place : ([] : List (BitVec 16)).length + front.length + 1 = front.length + 1 := by
        rw [List.length_nil, Nat.zero_add]
      rw [place] at finished
      exact parseIpv6_compressed core front back (ipv6Start_plain (groups.no_colon _)) finished
        (by simp only [List.length_append, List.length_singleton]; omega)

/-- Every other text is refused. The cases are the beginnings that the parser tells apart: two
colons, one colon, and none. If the loop got through in one of them, the grammar would have a
derivation. -/
theorem parseIpv6_refused (refused : ¬ ∃ pieces, Ipv6Text text pieces) :
    parseIpv6 core text = .ok none := by
  by_cases colon : text.head? = some (ascii ':')
  · obtain ⟨rest, rfl⟩ := List.head?_eq_some_iff.mp colon
    by_cases double : rest.head? = some (ascii ':')
    · obtain ⟨after, rfl⟩ := List.head?_eq_some_iff.mp double
      have none : ¬ ∃ final place, Ipv6Reads after [0] (some 1) final place := by
        intro accepted
        obtain ⟨final, place, reads⟩ := accepted
        obtain ⟨room, plain | opened⟩ := reads.sound (by decide)
        · obtain ⟨back, _, tail, rfl⟩ := plain
          rw [List.length_append, List.length_singleton] at room
          refine refused ⟨_, Or.inr ⟨[], after, [], back, rfl, Or.inl ⟨rfl, rfl⟩, tail, ?_, rfl⟩⟩
          rw [List.length_nil]
          omega
        · obtain ⟨_, _, _, impossible, _⟩ := opened
          cases impossible
      have finished := ipv6Loop_refused core [ascii ':', ascii ':'] after [0] (some 1)
        (fun member => noNul (List.mem_cons_of_mem _ (List.mem_cons_of_mem _ member))) none
      have run : (ipv6Loop core (ascii ':' :: ascii ':' :: after)).run (scanAt 2 [0] (some 1)) =
          .ok Option.none := finished
      rw [parseIpv6, ipv6Start_compressed]
      simp only [run]
      rfl
    · rw [parseIpv6, ipv6Start_refused double]
  · by_cases accepted : ∃ final place, Ipv6Reads text [] none final place
    · obtain ⟨final, place, reads⟩ := accepted
      have finished := ipv6Loop_reads core [] reads noNul
      obtain ⟨room, plain | opened⟩ := reads.sound (Nat.zero_le 8)
      · obtain ⟨back, rfl, tail, same⟩ := plain
        rw [List.nil_append] at same
        rw [parseIpv6_plain core (ipv6Start_plain colon) finished, same]
        by_cases eight : back.length = 8
        · have some : Ipv6Tail text back := by
            refine tail.resolve_left ?_
            rintro ⟨_, rfl⟩
            cases eight
          exact absurd ⟨back, Or.inl ⟨some, eight⟩⟩ refused
        · rw [if_pos eight]
      · obtain ⟨front, after, back, _, opens, tail, _, rfl⟩ := opened
        refine absurd ?_ refused
        simp only [List.length_append, List.length_nil, List.length_singleton] at room
        cases opens with
        | here => exact absurd rfl colon
        | group digit more =>
          obtain ⟨before, split, groups⟩ := more.groups _ _ digit
          exact ⟨_, Or.inr ⟨before, after, _, back, split, Or.inr groups, tail, by omega, rfl⟩⟩
    · have finished := ipv6Loop_refused core [] text [] none noNul accepted
      have run : (ipv6Loop core text).run (scanAt 0 [] none) = .ok none := finished
      rw [parseIpv6, ipv6Start_plain colon]
      simp only [run]
      rfl

omit noNul in
/-- An address has eight pieces, however it is written. -/
theorem Ipv6Text.length {pieces : List (BitVec 16)} (denotes : Ipv6Text text pieces) :
    pieces.length = 8 := by
  rcases denotes with full | compressed
  · exact full.2
  · obtain ⟨before, after, front, back, _, _, _, room, rfl⟩ := compressed
    simp only [List.length_append, List.length_replicate]
    omega

/-- `ParseIpv6` accepts exactly the texts of the grammar, with the pieces they
denote, and returns false on every other text. -/
theorem parseIpv6_grammar :
    (∀ address, parseIpv6 core text = .ok (some address) ↔ Ipv6Text text address.toList) ∧
      ((¬ ∃ address : Ipv6AddressType, Ipv6Text text address.toList) →
        parseIpv6 core text = .ok none) := by
  constructor
  · intro address
    constructor
    · intro parsed
      by_cases accepted : ∃ pieces, Ipv6Text text pieces
      · obtain ⟨pieces, denotes⟩ := accepted
        have same := (parseIpv6_accepted core noNul denotes).symm.trans parsed
        rw [← Option.some.inj (Except.ok.inj same), toList_padded denotes.length]
        exact denotes
      · rw [parseIpv6_refused core noNul accepted] at parsed
        cases parsed
    · intro denotes
      rw [parseIpv6_accepted core noNul denotes]
      congr 2
      apply Vector.toList_inj.mp
      exact toList_padded denotes.length
  · intro none
    apply parseIpv6_refused core noNul
    intro accepted
    obtain ⟨pieces, denotes⟩ := accepted
    apply none
    refine ⟨padded pieces, ?_⟩
    rw [toList_padded denotes.length]
    exact denotes

end Whole

/-- The loopback address in its shortest form. -/
theorem parseIpv6_grammar_loopback :
    parseIpv6 MoeCore.standard ("::1".toList.map ascii) =
      .ok (some #v[0, 0, 0, 0, 0, 0, 0, 1]) := by
  have group : Ipv6Group ("1".toList.map ascii) 1 := by
    refine ⟨by decide, by decide, ?_, by decide⟩
    simp [AllDigits, hexValue, ascii]
  exact ((parseIpv6_grammar MoeCore.standard (by decide)).1 _).mpr
    (Or.inr ⟨[], "1".toList.map ascii, [], [1], rfl, Or.inl ⟨rfl, rfl⟩, Or.inr (.single group),
      by decide, rfl⟩)

end MoeUV
