import MoeUV.EndPoint.Ipv4Grammar
import MoeUV.EndPoint.Ipv6Accepted
import MoeUV.EndPoint.Ipv6Bounds
import Mathlib.Data.List.TakeWhile

/-!
# NUL bytes inside an address text

A text is given by its length, but both parsers also take a NUL byte for the end
of the text. `ParseIpv6` stops there, so it sees only the bytes before the first
NUL. `ParseIpv4` goes on behind it, as behind a dot; only a NUL at the very end
differs from a dot there, because the empty part after it is not permitted.

Both facts reduce a text with NUL bytes to one without, to which the grammars
apply.
-/

namespace MoeUV

open Foundation.Memory Foundation.Loop Foundation.Execution

section Ipv6

variable (core : MoeCore) {before text : Text}

/-- The characters of the text are those of its beginning, whose end reads as
NUL in both. -/
def SameCharacters (before text : Text) : Prop :=
  ∀ position ≤ before.length, peek text position = peek before position

variable (same : SameCharacters before text)

include same

/-- The digits of a group end at the NUL at the latest, so what is behind it is not read. -/
theorem hexDigits_same (room start value len : Nat) (inside : start ≤ before.length) :
    hexDigits core text room start value len = hexDigits core before room start value len := by
  induction room generalizing start value len with
  | zero => rfl
  | succ room inductionHypothesis =>
    simp only [hexDigits, same start inside]
    split
    · rename_i hex
      exact inductionHypothesis _ _ _ (isHexDigit_present core before hex)
    · rfl

/-- The same holds of the digits of a number of a quad, -/
theorem numberLoop_same {start value : Nat} (inside : start ≤ before.length) :
    (numberLoop core text).run (start, value) = (numberLoop core before).run (start, value) := by
  refine ((numberLoop core before).run_congr (numberLoop core text)
    (fun state => state.1 ≤ before.length) ?_ ?_ (start, value) inside).symm
  · intro state here
    simp only [numberLoop, numberBody, same state.1 here]
  · intro state next _ pass
    obtain ⟨present, advanced⟩ := numberBody_start core before pass
    omega

/-- of one round of the loop over a quad, -/
theorem quadBody_same {scan : QuadScan} (inside : scan.start ≤ before.length) :
    quadBody core text scan = quadBody core before scan := by
  have separator : quadSeparator text scan = quadSeparator before scan := by
    simp only [quadSeparator, same scan.start inside]
  simp only [quadBody, same scan.start inside, separator]
  cases separated : quadSeparator before scan with
  | none => rfl
  | some start =>
    have here := quadSeparator_bound before inside separated
    simp only [quadNumber, same start here, numberLoop_same core same here]

/-- and of the loop. -/
theorem quadLoop_same {scan : QuadScan} (inside : scan.start ≤ before.length) :
    (quadLoop core text).run scan = (quadLoop core before).run scan := by
  refine ((quadLoop core before).run_congr (quadLoop core text)
    (fun state => state.start ≤ before.length) ?_ ?_ scan inside).symm
  · intro state here
    exact (quadBody_same core same here).symm
  · intro state next here pass
    simp only [quadLoop, quadBody] at pass
    split at pass
    · split at pass
      · cases pass
      · rename_i start separated
        split at pass
        · cases pass
        · cases pass
        · rename_i other read
          cases pass
          exact quadNumber_bound core before (quadSeparator_bound before here separated) read
    · cases pass

/-- Before the NUL, one round of the parser reads the same of both texts, -/
theorem ipv6Body_same {scan : Ipv6Scan} (bounded : scan.Bounded before) :
    ipv6Body core text scan = ipv6Body core before scan := by
  have inside := hexDigits_bound core before 4 scan.start 0 0 bounded.inside
  have digits := hexDigits_start core before 4 scan.start 0 0
  have group : readGroup core text scan = readGroup core before scan := by
    simp only [readGroup, hexDigits_same core same 4 scan.start 0 0 bounded.inside]
    generalize hexDigits core before 4 scan.start 0 0 = read at inside digits
    obtain ⟨value, len, start⟩ := read
    simp only at inside digits ⊢
    have quad : embeddedIpv4 core text scan start len =
        embeddedIpv4 core before scan start len := by
      have back : moveBack start len = .ok scan.start := by
        rw [moveBack, if_pos (by omega)]
        congr 1
        omega
      have read : (quadLoop core text).run ⟨scan.start, scan.current, 0, scan.address⟩ =
          (quadLoop core before).run ⟨scan.start, scan.current, 0, scan.address⟩ :=
        quadLoop_same core same bounded.inside
      simp only [embeddedIpv4, back, ok_bind, read]
    rw [same start inside, quad]
    by_cases colon : peek before start = ascii ':'
    · have present : start < before.length := by
        apply inside_of_peek_ne_nul
        rw [colon]
        decide
      rw [same (start + 1) present]
    · simp only [colon, if_false]
  simp only [ipv6Body, same scan.start bounded.inside, group]

/-- and so do all of them. -/
theorem ipv6Loop_same {scan : Ipv6Scan} (bounded : scan.Bounded before) :
    (ipv6Loop core text).run scan = (ipv6Loop core before).run scan := by
  refine ((ipv6Loop core before).run_congr (ipv6Loop core text)
    (fun state => state.Bounded before) ?_ ?_ scan bounded).symm
  · intro state here
    exact (ipv6Body_same core same here).symm
  · intro state next here pass
    exact (ipv6Body_bounded core here).1 next pass

end Ipv6

section CString

variable {text : Text}

/-- A C string has no NUL. -/
theorem cString_noNul : 0 ∉ cString text := by
  intro member
  have plain := List.mem_takeWhile_imp member
  simp at plain

/-- A text without a NUL is a C string as a whole. -/
theorem cString_of_noNul (noNul : 0 ∉ text) : cString text = text := by
  apply List.takeWhile_eq_self_iff.mpr
  intro byte member
  simp only [decide_eq_true_eq]
  rintro rfl
  exact noNul member

/-- A text continues behind its C string with a NUL byte, or not at all. -/
theorem cString_split (text : Text) :
    ∃ rest, text = cString text ++ rest ∧ (rest = [] ∨ rest.head? = some 0) := by
  refine ⟨text.dropWhile (fun byte => decide (byte ≠ 0)),
    (List.takeWhile_append_dropWhile).symm, ?_⟩
  induction text with
  | nil => exact Or.inl rfl
  | cons byte rest inductionHypothesis =>
    by_cases nul : byte = 0
    · right
      simp [nul]
    · rw [List.dropWhile_cons, if_pos (decide_eq_true nul)]
      exact inductionHypothesis

/-- A text has the characters of its C string up to the NUL. -/
theorem sameCharacters_cString : SameCharacters (cString text) text := by
  obtain ⟨rest, split, ends⟩ := cString_split text
  intro position inside
  generalize cString text = before at split inside
  subst split
  by_cases within : position < before.length
  · simp [peek, within, Nat.lt_add_right]
  · have last : position = before.length + 0 := by omega
    rw [last, peek_append_right, Nat.add_zero, peek_end (Nat.le_refl _)]
    rcases ends with rfl | nul
    · exact peek_end (Nat.le_refl 0)
    · obtain ⟨others, rfl⟩ := List.head?_eq_some_iff.mp nul
      simp [peek]

end CString

/-- `ParseIpv6` reads a text as a C string. Up to the NUL, which no rule accepts, the beginning
and every pass of the loop read the same of both. -/
theorem parseIpv6_cString (core : MoeCore) (text : Text) :
    parseIpv6 core text = parseIpv6 core (cString text) := by
  have same : SameCharacters (cString text) text := sameCharacters_cString
  have start : ipv6Start text = ipv6Start (cString text) := by
    have first := same 0 (Nat.zero_le _)
    simp only [ipv6Start, first]
    by_cases colon : peek (cString text) 0 = ascii ':'
    · have present : 0 < (cString text).length := by
        apply inside_of_peek_ne_nul
        rw [colon]
        decide
      have second := same 1 present
      have shorter : (cString text).length ≤ text.length := (List.takeWhile_prefix _).length_le
      rw [if_pos colon, if_pos colon, second]
      by_cases double : peek (cString text) 1 = ascii ':'
      · have long : 1 < (cString text).length := by
          apply inside_of_peek_ne_nul
          rw [double]
          decide
        rw [if_neg, if_neg]
        · simp only [double, ne_eq, not_true_eq_false, or_false]
          omega
        · simp only [double, ne_eq, not_true_eq_false, or_false]
          omega
      · rw [if_pos (Or.inr double), if_pos (Or.inr double)]
    · rw [if_neg colon, if_neg colon]
  rw [parseIpv6, parseIpv6, start]
  cases begun : ipv6Start (cString text) with
  | none => rfl
  | some initial => simp only [ipv6Loop_same core same (ipv6Start_bounded begun)]

section Ipv4

variable {text : Text}

/-- A NUL byte read as the dot that it acts as. -/
def nulAsDot (byte : Octet) : Octet := if byte = 0 then ascii '.' else byte

/-- The text with its NUL bytes read as dots. -/
def nulsAsDots (text : Text) : Text := text.map nulAsDot

/-- A NUL that is replaced is none any more, -/
theorem nulAsDot_ne_nul (byte : Octet) : nulAsDot byte ≠ 0 := by
  unfold nulAsDot
  split
  · decide
  · assumption

/-- so no NUL is left, -/
theorem nulsAsDots_noNul : 0 ∉ nulsAsDots text := by
  intro member
  obtain ⟨byte, _, nul⟩ := List.mem_map.mp member
  exact nulAsDot_ne_nul byte nul

/-- and a text without one is not changed. -/
theorem nulsAsDots_of_noNul (noNul : 0 ∉ text) : nulsAsDots text = text := by
  have unchanged : ∀ byte ∈ text, nulAsDot byte = byte := by
    intro byte member
    rw [nulAsDot, if_neg]
    rintro rfl
    exact noNul member
  rw [nulsAsDots, List.map_congr_left unchanged, List.map_id']

/-- The text keeps its length. -/
theorem nulsAsDots_length : (nulsAsDots text).length = text.length := List.length_map _

/-- Each character is replaced where it is. -/
theorem peek_nulsAsDots {position : Nat} (inside : position < text.length) :
    peek (nulsAsDots text) position = nulAsDot (peek text position) := by
  have inside' : position < (nulsAsDots text).length := by rwa [nulsAsDots_length]
  simp only [peek, dif_pos inside, dif_pos inside', List.get_eq_getElem]
  simp only [nulsAsDots, List.getElem_map]

/-- The bytes since the mark are no separators. -/
structure Ipv4Scan.Plain (buffer : Text) (scan : Ipv4Scan) : Prop where
  behind : scan.mark ≤ scan.start
  plain : ∀ byte ∈ scan.part buffer, byte ≠ 0

/-- A part without a NUL stays as it was. -/
theorem part_nulsAsDots {scan : Ipv4Scan} (plain : ∀ byte ∈ scan.part text, byte ≠ 0) :
    scan.part (nulsAsDots text) = scan.part text := by
  have mapped : scan.part (nulsAsDots text) = nulsAsDots (scan.part text) := by
    simp only [Ipv4Scan.part, nulsAsDots, List.map_take, List.map_drop]
  rw [mapped]
  exact nulsAsDots_of_noNul fun member => plain 0 member rfl

/-- Unless the text ends with a NUL byte, a pass does not tell NUL bytes from
dots. -/
theorem ipv4Body_nulsAsDots {scan : Ipv4Scan} (last : text.getLast? ≠ some 0)
    (plain : scan.Plain text) : ipv4Body text scan = ipv4Body (nulsAsDots text) scan := by
  simp only [ipv4Body, nulsAsDots_length, part_nulsAsDots plain.plain]
  by_cases inside : scan.start < text.length
  · rw [peek_nulsAsDots inside, nulAsDot]
    by_cases nul : peek text scan.start = 0
    · -- a NUL byte inside the text is not its last byte
      have more : ¬ scan.start + 1 ≥ text.length := by
        intro final
        apply last
        rw [List.getLast?_eq_getElem?, List.getElem?_eq_getElem (by omega), ← nul]
        simp only [peek, dif_pos inside, List.get_eq_getElem]
        congr 2
        omega
      simp only [nul, if_true, true_or, or_true, more, and_false, if_false]
    · simp only [nul, if_false, or_false]
  · have outside := Nat.not_lt.mp inside
    rw [peek_end outside, peek_end (by rw [nulsAsDots_length]; exact outside)]

/-- One round of the IPv4 parser goes on only over characters that are no NUL. -/
theorem ipv4Body_plain {scan next : Ipv4Scan} (plain : scan.Plain text)
    (pass : ipv4Body text scan = .again next) : next.Plain text := by
  obtain ⟨inside, advanced⟩ := ipv4Body_start pass
  simp only [ipv4Body, inside, if_true] at pass
  split at pass
  · split at pass
    · cases pass
    · split at pass
      · cases pass
      · split at pass
        · cases pass
        · split at pass
          · cases pass
          · cases pass
            refine ⟨Nat.le_refl _, ?_⟩
            intro byte member
            simp [Ipv4Scan.part, Ipv4Scan.push] at member
  · rename_i separator
    cases pass
    have present : scan.start < text.length := by
      apply inside_of_peek_ne_nul
      exact fun nul => separator (Or.inr nul)
    refine ⟨Nat.le_succ_of_le plain.behind, ?_⟩
    intro byte member
    have longer : scan.start + 1 - scan.mark = scan.start - scan.mark + 1 := by
      have behind := plain.behind
      omega
    have within : scan.start - scan.mark < (text.drop scan.mark).length := by
      rw [List.length_drop]
      have behind := plain.behind
      omega
    rw [Ipv4Scan.part, longer, List.take_add_one, List.getElem?_eq_getElem within] at member
    rcases List.mem_append.mp member with earlier | here
    · exact plain.plain byte earlier
    · rintro rfl
      apply separator
      right
      have behind := plain.behind
      simp only [Option.toList_some, List.mem_singleton, List.getElem_drop,
        Nat.add_sub_cancel' behind] at here
      rw [peek, dif_pos present, List.get_eq_getElem, here]

/-- `ParseIpv4` reads a text that does not end with a NUL byte as the text with
dots in their place; the exception carries the text itself. -/
theorem parseIpv4_nulsAsDots (last : text.getLast? ≠ some 0) :
    parseIpv4 text = (parseIpv4 (nulsAsDots text)).mapError
      fun exception => { exception with argument := text } := by
  have initially : (Ipv4Scan.mk 0 0 0 0 (Vector.replicate 4 0)).Plain text := by
    refine ⟨Nat.le_refl 0, ?_⟩
    intro byte member
    simp [Ipv4Scan.part] at member
  have run := (ipv4Loop text).run_congr (ipv4Loop (nulsAsDots text)) (fun scan => scan.Plain text)
    (fun scan plain => ipv4Body_nulsAsDots last plain)
    (fun scan next plain pass => ipv4Body_plain plain pass) _ initially
  rw [parseIpv4, parseIpv4, run]
  cases (ipv4Loop (nulsAsDots text)).run ⟨0, 0, 0, 0, Vector.replicate 4 0⟩ with
  | none => rfl
  | some scan =>
    simp only
    split
    · rfl
    · rfl

/-- A pass that returns false goes no further. -/
theorem leave_none {property : Ipv4Scan → Prop} :
    (∀ next, Pass.leave (none : Option Ipv4Scan) = .again next → property next) ∧
      ∀ result, (Pass.leave none : Pass Ipv4Scan (Option Ipv4Scan)) = .leave result →
        result = none := by
  constructor
  · intro next impossible
    cases impossible
  · intro result left
    exact (Pass.leave.inj left).symm

/-- A NUL byte at the end leaves an empty part behind it: the scan reaches the
end of the text with the mark there. -/
theorem ipv4Body_final_nul {front : Text} {scan : Ipv4Scan}
    (inside : scan.start ≤ front.length + 1)
    (marked : scan.start = front.length + 1 → scan.mark = front.length + 1) :
    (∀ next, ipv4Body (front ++ [0]) scan = .again next →
      next.start ≤ front.length + 1 ∧
        (next.start = front.length + 1 → next.mark = front.length + 1)) ∧
      ∀ result, ipv4Body (front ++ [0]) scan = .leave result → result = none := by
  have length : (front ++ [0]).length = front.length + 1 := by simp
  have bounded : scan.start ≤ (front ++ [0]).length := by rwa [length]
  have nul (final : front.length ≤ scan.start) : peek (front ++ [0]) scan.start = 0 := by
    obtain ⟨extra, same⟩ := Nat.exists_eq_add_of_le final
    rw [same, peek_append_right]
    cases extra with
    | zero => rfl
    | succ extra => exact peek_end (Nat.le_add_left 1 extra)
  rw [ipv4Body, if_pos bounded]
  simp only [length]
  split
  · rename_i separator
    split
    · exact leave_none
    · split
      · exact leave_none
      · rename_i apart
        split
        · exact leave_none
        · split
          · -- a dot as the last byte would stand where the NUL byte is
            rename_i trailing
            have zero := nul (Nat.le_of_succ_le_succ trailing.2)
            rw [zero] at trailing
            exact absurd trailing.1 (by decide)
          · refine ⟨?_, fun _ impossible => by cases impossible⟩
            rintro next ⟨⟩
            simp only [Ipv4Scan.push]
            omega
  · rename_i separator
    refine ⟨?_, fun _ impossible => by cases impossible⟩
    rintro next ⟨⟩
    have before : ¬ front.length ≤ scan.start := fun final => separator (Or.inr (nul final))
    simp only
    omega

/-- After a NUL byte at the end no text is accepted. -/
theorem parseIpv4_final_nul (last : text.getLast? = some 0) : parseIpv4 text = .ok none := by
  obtain ⟨front, rfl⟩ := List.getLast?_eq_some_iff.mp last
  have refused : (ipv4Loop (front ++ [0])).run ⟨0, 0, 0, 0, Vector.replicate 4 0⟩ = none := by
    apply (ipv4Loop (front ++ [0])).run_rule
      (fun scan => scan.start ≤ front.length + 1 ∧
        (scan.start = front.length + 1 → scan.mark = front.length + 1))
      (fun result => result = none)
    · intro scan next here pass
      exact (ipv4Body_final_nul here.1 here.2).1 next pass
    · intro scan result here pass
      exact (ipv4Body_final_nul here.1 here.2).2 result pass
    · exact ⟨Nat.zero_le _, nofun⟩
  rw [parseIpv4, refused]

end Ipv4

end MoeUV
