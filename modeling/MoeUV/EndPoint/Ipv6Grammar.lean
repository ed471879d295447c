import MoeUV.EndPoint.Numeral
import MoeUV.EndPoint.ParseIpv6

/-!
# The grammar of IPv6 texts

An IPv6 text is a sequence of groups of hexadecimal digits between colons; its
last two groups may be written as a dotted quad of decimal numbers. One pair of
colons may stand for the zeros that are missing from eight pieces. The grammar
and the pieces that a text denotes are stated on their own.

What the loops of `ParseIpv6` have read is a list of pieces, of which the array
is the continuation with zeros. The innermost loops read runs of digits: at most
four hexadecimal digits of a group, and the decimal digits of a number as long
as they belong to it.
-/

namespace MoeUV

open Foundation.Memory Foundation.Loop Foundation.Execution Foundation.Positional

section Grammar

/-- One to four hexadecimal digits and the piece they denote. -/
structure Ipv6Group (digits : Text) (piece : BitVec 16) : Prop where
  present : digits ≠ []
  short : digits.length ≤ 4
  all : AllDigits 16 digits
  value : piece.toNat = numeralValue 16 digits

/-- A decimal number up to 255 without leading zeros. -/
structure DecimalOctet (digits : Text) (n : Nat) : Prop where
  present : digits ≠ []
  all : AllDigits 10 digits
  leading : digits.head? = some (ascii '0') → digits = [ascii '0']
  value : n = numeralValue 10 digits
  small : n ≤ 255

/-- Four decimal numbers between dots and the two pieces they denote. -/
inductive DottedQuad : Text → List (BitVec 16) → Prop where
  | quad {first second third fourth : Text} {a b c d : Nat} (octetA : DecimalOctet first a)
      (octetB : DecimalOctet second b) (octetC : DecimalOctet third c)
      (octetD : DecimalOctet fourth d) :
      DottedQuad
        (first ++ ascii '.' :: (second ++ ascii '.' :: (third ++ ascii '.' :: fourth)))
        [BitVec.ofNat 16 (256 * a + b), BitVec.ofNat 16 (256 * c + d)]

/-- Groups between single colons. -/
inductive Ipv6Groups : Text → List (BitVec 16) → Prop where
  | single {digits : Text} {piece : BitVec 16} (group : Ipv6Group digits piece) :
      Ipv6Groups digits [piece]
  | cons {digits rest : Text} {piece : BitVec 16} {pieces : List (BitVec 16)}
      (group : Ipv6Group digits piece) (others : Ipv6Groups rest pieces) :
      Ipv6Groups (digits ++ ascii ':' :: rest) (piece :: pieces)

/-- Groups to the end of the text, the last two of which may be a dotted quad. -/
inductive Ipv6Tail : Text → List (BitVec 16) → Prop where
  | single {digits : Text} {piece : BitVec 16} (group : Ipv6Group digits piece) :
      Ipv6Tail digits [piece]
  | quad {text : Text} {pieces : List (BitVec 16)} (dotted : DottedQuad text pieces) :
      Ipv6Tail text pieces
  | cons {digits rest : Text} {piece : BitVec 16} {pieces : List (BitVec 16)}
      (group : Ipv6Group digits piece) (others : Ipv6Tail rest pieces) :
      Ipv6Tail (digits ++ ascii ':' :: rest) (piece :: pieces)

/-- A part of the text that may be missing. -/
def OrEmpty (part : Text → List (BitVec 16) → Prop) (text : Text) (pieces : List (BitVec 16)) :
    Prop :=
  text = [] ∧ pieces = [] ∨ part text pieces

/-- The pieces that a text denotes: eight groups, or at most seven around one
pair of colons that stands for the missing zeros. -/
def Ipv6Text (text : Text) (pieces : List (BitVec 16)) : Prop :=
  Ipv6Tail text pieces ∧ pieces.length = 8 ∨
    ∃ before after front back, text = before ++ ascii ':' :: ascii ':' :: after ∧
      OrEmpty Ipv6Groups before front ∧ OrEmpty Ipv6Tail after back ∧
      front.length + back.length ≤ 7 ∧
      pieces = front ++ List.replicate (8 - (front.length + back.length)) 0 ++ back

end Grammar

section Characters

/-- Behind what was read stands the first character of the rest. -/
theorem peek_here (before after : Text) : peek (before ++ after) before.length = peek after 0 :=
  peek_append_right before after 0

/-- The first character of a text is at its front. -/
theorem peek_cons (byte : Octet) (rest : Text) : peek (byte :: rest) 0 = byte := by
  simp [peek]

/-- At its end stands the NUL. -/
theorem peek_nil : peek [] 0 = 0 := peek_end (Nat.zero_le 0)

/-- The position after one byte, seen from the text that is left. -/
theorem next_text (before : Text) (byte : Octet) (others rest : Text) :
    before ++ (byte :: others ++ rest) = before ++ [byte] ++ (others ++ rest) := by
  simp

/-- One character further, -/
theorem next_start (before : Text) (byte : Octet) :
    before.length + 1 = (before ++ [byte]).length := by
  simp

/-- and as many as a run of them has. -/
theorem next_end (before : Text) (byte : Octet) (others : Text) :
    before.length + (byte :: others).length = (before ++ [byte]).length + others.length := by
  simp [Nat.add_assoc, Nat.add_comm 1]

variable (core : MoeCore) {byte : Octet}

/-- `isHexDigit` tells the digits of radix 16, -/
theorem isHexDigit_iff_digit :
    core.isHexDigit byte = true ↔ ∃ digit, hexValue byte = some digit ∧ digit < 16 := by
  rw [core.isHexDigit_iff, Option.isSome_iff_exists]
  constructor
  · intro found
    obtain ⟨digit, same⟩ := found
    exact ⟨digit, same, hexValue_lt same⟩
  · intro found
    obtain ⟨digit, same, _⟩ := found
    exact ⟨digit, same⟩

/-- of which `hexDigitToNumber` gives the value. -/
theorem hexDigitToNumber_eq_digitOf (hex : core.isHexDigit byte = true) :
    core.hexDigitToNumber byte = digitOf byte := by
  obtain ⟨digit, same, _⟩ := (isHexDigit_iff_digit core).mp hex
  rw [core.hexDigitToNumber_eq byte digit same, digitOf, same, Option.getD_some]

/-- `isDigit` tells those of radix 10. -/
theorem isDigit_iff_digit :
    core.isDigit byte = true ↔ ∃ digit, hexValue byte = some digit ∧ digit < 10 := by
  rw [core.isDigit_iff, decimalDigit_iff]

end Characters

section Pieces

/-- The piece array after some pieces have been read. -/
def padded (read : List (BitVec 16)) : Ipv6AddressType :=
  Vector.ofFn fun index : Fin 8 => read.getD index.val 0

/-- A place of the address holds the piece that was read, or zero, -/
theorem getPiece_padded (read : List (BitVec 16)) {index : Nat} (inside : index < 8) :
    getPiece (padded read) index = .ok (read.getD index 0) := by
  rw [getPiece, dif_pos inside]
  congr 1
  exact Vector.getElem_ofFn inside

/-- and may be written over once it was read. -/
theorem setPiece_padded {read : List (BitVec 16)} {index : Nat} (inside : index < 8)
    (stored : index < read.length) (piece : BitVec 16) :
    setPiece (padded read) index piece = .ok (padded (read.set index piece)) := by
  rw [setPiece, dif_pos inside]
  congr 1
  apply Vector.ext
  intro place bounded
  rw [Vector.getElem_set, padded, padded, Vector.getElem_ofFn, Vector.getElem_ofFn]
  by_cases here : index = place
  · subst here
    simp [stored]
  · simp [here]

/-- A zero piece need not be stored. -/
theorem padded_append_zero (read : List (BitVec 16)) : padded (read ++ [0]) = padded read := by
  rw [padded, padded]
  congr 1
  funext index
  simp only [List.getD_eq_getElem?_getD]
  by_cases stored : index.val < read.length
  · rw [List.getElem?_append_left stored]
  · rw [List.getElem?_append_right (Nat.not_lt.mp stored),
      List.getElem?_eq_none (Nat.not_lt.mp stored)]
    cases index.val - read.length with
    | zero => rfl
    | succ n => rfl

/-- The next piece is stored behind what has been read. -/
theorem setPiece_next {read : List (BitVec 16)} (room : read.length < 8) (piece : BitVec 16) :
    setPiece (padded read) read.length piece = .ok (padded (read ++ [piece])) := by
  rw [← padded_append_zero read, setPiece_padded room (by simp)]
  simp

/-- The array holds eight pieces. -/
theorem toList_padded {pieces : List (BitVec 16)} (eight : pieces.length = 8) :
    (padded pieces).toList = pieces := by
  apply List.ext_getElem
  · simp [eight]
  · intro index inside stored
    simp [padded, stored]

end Pieces

section HexDigits

variable (core : MoeCore)

/-- The hexadecimal digits at the beginning of a text, up to a number of them. -/
def hexRun : Nat → Text → Text
  | 0, _ => []
  | _ + 1, [] => []
  | room + 1, byte :: rest => if (hexValue byte).isSome then byte :: hexRun room rest else []

/-- The digit loop reads them and computes their value. The induction is on the number of digits
that may still be read; the loop stops at the first byte that is no digit, or when four were
read. -/
theorem hexDigits_eq (room : Nat) (before after : Text) (value len : Nat) :
    hexDigits core (before ++ after) room before.length value len =
      (((hexRun room after).map digitOf).foldl (fun result digit => result * 16 + digit) value,
        len + (hexRun room after).length, before.length + (hexRun room after).length) := by
  induction room generalizing before after value len with
  | zero => rfl
  | succ room inductionHypothesis =>
    cases after with
    | nil =>
      have notHex : core.isHexDigit (peek (before ++ []) before.length) = false := by
        rw [peek_here, peek_nil, Bool.eq_false_iff, ne_eq, core.isHexDigit_iff]
        decide
      simp only [hexDigits, notHex, Bool.false_eq_true, if_false, hexRun, List.map_nil,
        List.foldl_nil, List.length_nil, Nat.add_zero]
    | cons byte rest =>
      have found : peek (before ++ byte :: rest) before.length = byte := by
        rw [peek_here, peek_cons]
      by_cases hex : (hexValue byte).isSome = true
      · have test := (core.isHexDigit_iff byte).mpr hex
        have further := inductionHypothesis (before ++ [byte]) rest (value * 16 + digitOf byte)
          (len + 1)
        rw [List.append_assoc, List.singleton_append, ← next_start] at further
        simp only [hexDigits, found, test, if_true, hexDigitToNumber_eq_digitOf core test, further,
          hexRun, hex, List.map_cons, List.foldl_cons, List.length_cons, Nat.add_assoc,
          Nat.add_comm 1]
      · have test : core.isHexDigit byte = false := by
          rw [Bool.eq_false_iff, ne_eq, core.isHexDigit_iff]
          exact hex
        simp only [hexDigits, found, test, Bool.false_eq_true, if_false, hexRun, hex, List.map_nil,
          List.foldl_nil, List.length_nil, Nat.add_zero]

/-- The digits at the front of a text, of which a group reads at most so many. -/
theorem hexRun_spec (room : Nat) (text : Text) :
    (∃ tail, text = hexRun room text ++ tail) ∧ AllDigits 16 (hexRun room text) ∧
      (hexRun room text).length ≤ room := by
  induction room generalizing text with
  | zero => exact ⟨⟨text, rfl⟩, AllDigits.nil 16, Nat.le_refl 0⟩
  | succ room inductionHypothesis =>
    cases text with
    | nil => exact ⟨⟨[], rfl⟩, AllDigits.nil 16, Nat.zero_le _⟩
    | cons byte rest =>
      rw [hexRun]
      split
      · rename_i hex
        obtain ⟨⟨tail, split⟩, all, short⟩ := inductionHypothesis rest
        obtain ⟨digit, found⟩ := Option.isSome_iff_exists.mp hex
        refine ⟨⟨tail, ?_⟩, ?_, ?_⟩
        · rw [List.cons_append, ← split]
        · exact allDigits_cons.mpr ⟨⟨digit, found, hexValue_lt found⟩, all⟩
        · exact Nat.succ_le_succ short
      · exact ⟨⟨byte :: rest, rfl⟩, AllDigits.nil 16, Nat.zero_le _⟩

/-- The text does not begin with a digit. -/
def NoDigit (text : Text) : Prop := ∀ byte ∈ text.head?, hexValue byte = none

/-- Digits before something else are read as a whole. -/
theorem hexRun_digits {room : Nat} {digits tail : Text} (all : AllDigits 16 digits)
    (short : digits.length ≤ room) (stops : NoDigit tail) :
    hexRun room (digits ++ tail) = digits := by
  induction digits generalizing room with
  | nil =>
    cases room with
    | zero => rfl
    | succ room =>
      cases tail with
      | nil => rfl
      | cons byte rest =>
        have none : hexValue byte = none := stops byte rfl
        simp [hexRun, none]
  | cons byte rest inductionHypothesis =>
    obtain ⟨fewer, rfl⟩ := Nat.exists_eq_succ_of_ne_zero (Nat.ne_of_gt (Nat.zero_lt_of_lt short))
    obtain ⟨⟨digit, found, _⟩, others⟩ := allDigits_cons.mp all
    have hex : (hexValue byte).isSome = true := by rw [found]; rfl
    rw [List.cons_append, hexRun, if_pos hex,
      inductionHypothesis others (Nat.le_of_succ_le_succ short)]

end HexDigits

section Numbers

variable (core : MoeCore)

/-- More digits do not make a number smaller. -/
theorem numeralValue_le_append (first second : Text) :
    numeralValue 10 first ≤ numeralValue 10 (first ++ second) := by
  induction second using List.reverseRecOn with
  | nil => rw [List.append_nil]
  | append_singleton second byte inductionHypothesis =>
    rw [← List.append_assoc, numeralValue_snoc]
    omega

/-- A single digit is a number. -/
theorem DecimalOctet.digit {byte : Octet} {digit : Nat} (found : hexValue byte = some digit)
    (small : digit < 10) : DecimalOctet [byte] digit where
  present := List.cons_ne_nil _ _
  all := allDigits_cons.mpr ⟨⟨digit, found, small⟩, AllDigits.nil 10⟩
  leading zero := by
    rw [Option.some.inj zero]
  value := by
    rw [← List.nil_append [byte], numeralValue_snoc, digitOf, found]
    exact (Nat.zero_add digit).symm
  small := by omega

/-- A number but zero may have one more digit. -/
theorem DecimalOctet.snoc {digits : Text} {n : Nat} (octet : DecimalOctet digits n)
    (positive : n ≠ 0) {byte : Octet} {digit : Nat} (found : hexValue byte = some digit)
    (small : digit < 10) (bounded : n * 10 + digit ≤ 255) :
    DecimalOctet (digits ++ [byte]) (n * 10 + digit) where
  present := List.append_ne_nil_of_left_ne_nil octet.present _
  all := by
    intro other member
    rcases List.mem_append.mp member with earlier | last
    · exact octet.all other earlier
    · rw [List.mem_singleton.mp last]
      exact ⟨digit, found, small⟩
  leading zero := by
    rw [List.head?_append_of_ne_nil _ octet.present] at zero
    refine absurd ?_ positive
    rw [octet.value, octet.leading zero]
    rfl
  value := by rw [numeralValue_snoc, digitOf, found, octet.value, Option.getD_some]
  small := bounded

/-- Zero is written as a single digit. -/
theorem DecimalOctet.zero_single {digits : Text} (zero : DecimalOctet digits 0) :
    digits = [ascii '0'] := by
  cases shape : digits with
  | nil => exact absurd shape zero.present
  | cons first rest =>
    subst shape
    obtain ⟨digit, found, _⟩ := (allDigits_cons.mp zero.all).1
    have bound := numeralValue_le_append [first] rest
    rw [List.singleton_append, ← zero.value, ← List.nil_append [first], numeralValue_snoc, digitOf,
      found, Option.getD_some] at bound
    have nothing : digit = 0 := by omega
    subst nothing
    obtain rfl := eq_zero_of_hexValue found
    exact zero.leading rfl

/-- A number has at most three digits. A numeral with more digits and no leading zero is at
least 1000. -/
theorem DecimalOctet.length_le {digits : Text} {n : Nat} (octet : DecimalOctet digits n) :
    digits.length ≤ 3 := by
  cases digits with
  | nil => exact Nat.zero_le 3
  | cons first rest =>
    by_cases zero : first = ascii '0'
    · rw [octet.leading (by rw [zero]; rfl)]
      decide
    · obtain ⟨digit, found, _⟩ := (allDigits_cons.mp octet.all).1
      have positive : 0 < digit := by
        apply Nat.pos_of_ne_zero
        rintro rfl
        exact zero (eq_zero_of_hexValue found)
      have whole := octet.value
      rw [numeralValue, List.map_cons, value_cons, List.length_map, digitOf, found,
        Option.getD_some] at whole
      have weight : 10 ^ rest.length ≤ digit * 10 ^ rest.length :=
        Nat.le_mul_of_pos_left _ positive
      have bound := octet.small
      have short : rest.length < 3 := by
        by_contra long
        have large : 10 ^ 3 ≤ 10 ^ rest.length :=
          Nat.pow_le_pow_right (by decide) (Nat.not_lt.mp long)
        omega
      rw [List.length_cons]
      omega

/-- Zero is not followed by a digit. -/
theorem DecimalOctet.zero_refused {digits more : Text} (zero : DecimalOctet digits 0)
    (something : more ≠ []) : ¬ ∃ n, DecimalOctet (digits ++ more) n := by
  intro accepted
  obtain ⟨n, octet⟩ := accepted
  have single := zero.zero_single
  subst single
  have whole := octet.leading rfl
  exact something (by simpa using whole)

/-- A number beyond 255 is no part of a number up to 255. -/
theorem DecimalOctet.big_refused {digits others : Text} {n : Nat} (octet : DecimalOctet digits n)
    {byte : Octet} {digit : Nat} (found : hexValue byte = some digit)
    (big : n * 10 + digit > 255) : ¬ ∃ n, DecimalOctet (digits ++ byte :: others) n := by
  intro accepted
  obtain ⟨m, whole⟩ := accepted
  have joined : digits ++ byte :: others = digits ++ [byte] ++ others := by simp
  have bound := numeralValue_le_append (digits ++ [byte]) others
  rw [← joined, ← whole.value, numeralValue_snoc, ← octet.value, digitOf, found,
    Option.getD_some] at bound
  have limit := whole.small
  omega

/-- What the text does not begin with a decimal digit. -/
def NoDecimal (text : Text) : Prop :=
  ∀ byte ∈ text.head?, ¬ ∃ digit, hexValue byte = some digit ∧ digit < 10

/-- The test for a digit, on the text that is left. -/
theorem isDigit_cons_iff (before text : Text) :
    core.isDigit (peek (before ++ text) before.length) = true ↔ ¬ NoDecimal text := by
  rw [peek_here]
  cases text with
  | nil =>
    have stops : NoDecimal [] := fun byte none => nomatch none
    rw [peek_nil, core.isDigit_nul]
    simp [stops]
  | cons byte others =>
    rw [peek_cons, isDigit_iff_digit]
    simp [NoDecimal]

/-- The number loop stops before anything but a digit. -/
theorem numberBody_stop (before rest : Text) (stops : NoDecimal rest) (value : Nat) :
    (numberLoop core (before ++ rest)).body (before.length, value) =
      .leave (some (before.length, value)) := by
  have stop : core.isDigit (peek (before ++ rest) before.length) = false := by
    rw [Bool.eq_false_iff, ne_eq, isDigit_cons_iff, not_not]
    exact stops
  simp only [numberLoop, numberBody, stop, Bool.false_eq_true, if_false]

/-- A digit is joined to the value, which must stay small. -/
theorem numberBody_digit (before tail : Text) {byte : Octet} {digit : Nat}
    (found : hexValue byte = some digit) (small : digit < 10) {value joined : Nat}
    (next : nextNumber value digit = some joined) :
    (numberLoop core (before ++ byte :: tail)).body (before.length, value) =
      if joined > 255 then .leave none else .again (before.length + 1, joined) := by
  have test : core.isDigit byte = true := (isDigit_iff_digit core).mpr ⟨digit, found, small⟩
  have range := decimalDigit_iff.mpr ⟨digit, found, small⟩
  have number : byte.toNat - (ascii '0').toNat = digit :=
    Option.some.inj ((hexValue_decimal range).symm.trans found)
  simp only [numberLoop, numberBody, peek_here, peek_cons, test, if_true, number, next]

/-- No digit is joined to zero. -/
theorem numberBody_zero (before tail : Text) {byte : Octet} {digit : Nat}
    (found : hexValue byte = some digit) (small : digit < 10) :
    (numberLoop core (before ++ byte :: tail)).body (before.length, 0) = .leave none := by
  have test : core.isDigit byte = true := (isDigit_iff_digit core).mpr ⟨digit, found, small⟩
  have next (number : Nat) : nextNumber 0 number = none := rfl
  simp only [numberLoop, numberBody, peek_here, peek_cons, test, if_true, next]

/-- The number loop after some digits: it reads the digits that follow if they
belong to the number, and returns false if they do not. -/
theorem numberLoop_more (before digits rest : Text) (all : AllDigits 10 digits)
    (stops : NoDecimal rest) {seen : Text} {value : Nat} (octet : DecimalOctet seen value) :
    (∀ n, DecimalOctet (seen ++ digits) n →
      (numberLoop core (before ++ (digits ++ rest))).run (before.length, value) =
        some (before.length + digits.length, n)) ∧
    ((¬ ∃ n, DecimalOctet (seen ++ digits) n) →
      (numberLoop core (before ++ (digits ++ rest))).run (before.length, value) = none) := by
  induction digits generalizing before seen value with
  | nil =>
    have body := numberBody_stop core before rest stops value
    rw [List.nil_append, (numberLoop core _).run_leave body, List.append_nil]
    constructor
    · intro n same
      rw [octet.value, same.value]
      rfl
    · intro refused
      exact absurd ⟨value, octet⟩ refused
  | cons byte others inductionHypothesis =>
    obtain ⟨⟨digit, found, small⟩, later⟩ := allDigits_cons.mp all
    by_cases zero : value = 0
    · subst zero
      have refused := octet.zero_refused (List.cons_ne_nil byte others)
      have body := numberBody_zero core before (others ++ rest) found small
      rw [List.cons_append, (numberLoop core _).run_leave body]
      exact ⟨fun n accepted => absurd ⟨n, accepted⟩ refused, fun _ => rfl⟩
    · have notMarker : value ≠ noNumber := by
        have bound := octet.small
        simp only [noNumber]
        omega
      have next : nextNumber value digit = some (value * 10 + digit) := by
        rw [nextNumber, if_neg notMarker, if_neg zero]
      have body := numberBody_digit core before (others ++ rest) found small next
      by_cases big : value * 10 + digit > 255
      · have refused : ¬ ∃ n, DecimalOctet (seen ++ byte :: others) n :=
          octet.big_refused found big
        rw [if_pos big] at body
        rw [List.cons_append, (numberLoop core _).run_leave body]
        exact ⟨fun n accepted => absurd ⟨n, accepted⟩ refused, fun _ => rfl⟩
      · have further := inductionHypothesis (before ++ [byte]) later
          (octet.snoc zero found small (Nat.not_lt.mp big))
        have whole : seen ++ byte :: others = (seen ++ [byte]) ++ others := by simp
        rw [if_neg big, ← List.cons_append] at body
        rw [(numberLoop core _).run_again body, whole, next_text, next_start, next_end]
        exact further

/-- The number loop from its first digit. -/
theorem numberLoop_eq (before digits rest : Text) (present : digits ≠ [])
    (all : AllDigits 10 digits) (stops : NoDecimal rest) :
    (∀ n, DecimalOctet digits n →
      (numberLoop core (before ++ (digits ++ rest))).run (before.length, noNumber) =
        some (before.length + digits.length, n)) ∧
    ((¬ ∃ n, DecimalOctet digits n) →
      (numberLoop core (before ++ (digits ++ rest))).run (before.length, noNumber) = none) := by
  cases digits with
  | nil => exact absurd rfl present
  | cons byte others =>
    obtain ⟨⟨digit, found, small⟩, later⟩ := allDigits_cons.mp all
    have notBig : ¬ digit > 255 := by omega
    have body := numberBody_digit core before (others ++ rest) found small (if_pos rfl)
    have further := numberLoop_more core (before ++ [byte]) others rest later stops
      (DecimalOctet.digit found small)
    rw [if_neg notBig, ← List.cons_append] at body
    rw [(numberLoop core _).run_again body, next_text, next_start, next_end]
    exact further

/-- The decimal digits at the beginning of a text. -/
theorem decimal_split (text : Text) :
    ∃ digits rest, text = digits ++ rest ∧ AllDigits 10 digits ∧ NoDecimal rest := by
  induction text with
  | nil => exact ⟨[], [], rfl, AllDigits.nil 10, fun byte none => nomatch none⟩
  | cons byte others inductionHypothesis =>
    by_cases decimal : ∃ digit, hexValue byte = some digit ∧ digit < 10
    · obtain ⟨digits, rest, rfl, all, stops⟩ := inductionHypothesis
      exact ⟨byte :: digits, rest, rfl, allDigits_cons.mpr ⟨decimal, all⟩, stops⟩
    · refine ⟨[], byte :: others, rfl, AllDigits.nil 10, ?_⟩
      intro first head
      rwa [← Option.some.inj head]

end Numbers

end MoeUV
