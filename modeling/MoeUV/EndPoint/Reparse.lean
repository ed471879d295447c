import MoeUV.EndPoint.Canonical
import MoeUV.EndPoint.Record

/-!
# Reading canonical IPv6 texts

A canonical text is made of hexadecimal groups and colons only. It belongs to
the grammar and denotes the pieces it was written for, so `ParseIpv6` returns
them and formatting is injective. Two colons meet in it exactly when a run of at
least two zero pieces has been compressed.
-/

namespace MoeUV

open Foundation.Memory Foundation.Runs

section Groups

/-- The numeral of a piece is a group that denotes the piece. -/
theorem ipv6Group_hexText (piece : BitVec 16) : Ipv6Group (hexText piece) piece where
  present := numeral_ne_nil (by decide) piece.toNat
  short := numeral_length_le (by decide) piece.isLt (by decide)
  all := allDigits_numeral (by decide) (by decide) piece.toNat
  value := (numeralValue_numeral (by decide) (by decide) piece.toNat).symm

/-- The text of some pieces is these groups, with a colon between two of them. -/
theorem ipv6Groups_groupsText (piece : BitVec 16) (rest : List (BitVec 16)) :
    Ipv6Groups (groupsText (piece :: rest)) (piece :: rest) := by
  induction rest generalizing piece with
  | nil =>
    rw [groupsText_singleton]
    exact .single (ipv6Group_hexText piece)
  | cons next others inductionHypothesis =>
    rw [groupsText_cons]
    exact .cons (ipv6Group_hexText piece) (inductionHypothesis next)

/-- Groups alone are what may follow a double colon. -/
theorem Ipv6Groups.tail {text : Text} {pieces : List (BitVec 16)}
    (groups : Ipv6Groups text pieces) : Ipv6Tail text pieces := by
  induction groups with
  | single group => exact .single group
  | cons group others inductionHypothesis => exact .cons group inductionHypothesis

/-- The text of any pieces, none included. -/
theorem orEmpty_groupsText (pieces : List (BitVec 16)) :
    OrEmpty Ipv6Groups (groupsText pieces) pieces := by
  cases pieces with
  | nil => exact Or.inl ⟨rfl, rfl⟩
  | cons piece rest => exact Or.inr (ipv6Groups_groupsText piece rest)

/-- Every byte of the groups is a digit or a colon. -/
theorem forall_groupsText {property : Octet → Prop} (colon : property (ascii ':'))
    (digits : ∀ digit < 16, property (ascii digit.digitChar)) (pieces : List (BitVec 16)) :
    ∀ byte ∈ groupsText pieces, property byte := by
  induction pieces with
  | nil =>
    intro byte member
    cases member
  | cons piece rest inductionHypothesis =>
    have group := forall_numeral (by decide) digits piece.toNat
    cases rest with
    | nil =>
      rw [groupsText_singleton]
      exact group
    | cons next others =>
      rw [groupsText_cons]
      intro byte member
      rcases List.mem_append.mp member with inside | later
      · exact group byte inside
      · rcases List.mem_cons.mp later with rfl | further
        · exact colon
        · exact inductionHypothesis byte further

end Groups

section Colons

/-- A pair of colons does not begin inside a group. -/
theorem double_behind_digits {digits rest : Text} (all : AllDigits 16 digits)
    (double : doubleColon <:+: digits ++ rest) : doubleColon <:+: rest := by
  induction digits with
  | nil => exact double
  | cons byte others inductionHypothesis =>
    obtain ⟨⟨digit, found, _⟩, later⟩ := allDigits_cons.mp all
    rcases List.infix_cons_iff.mp double with here | further
    · have same := (List.cons_prefix_cons.mp here).1
      exact absurd same.symm (plain_of_hexValue found).2
    · exact inductionHypothesis later further

/-- Between groups there are single colons. -/
theorem Ipv6Groups.single_colons {text : Text} {pieces : List (BitVec 16)}
    (groups : Ipv6Groups text pieces) : ¬ doubleColon <:+: text := by
  have notNil : ¬ doubleColon <:+: [] := by
    intro double
    cases List.infix_nil.mp double
  induction groups with
  | @single digits piece group =>
    intro double
    rw [← List.append_nil digits] at double
    exact notNil (double_behind_digits group.all double)
  | @cons digits rest piece pieces group others inductionHypothesis =>
    intro double
    rcases List.infix_cons_iff.mp (double_behind_digits group.all double) with here | further
    · obtain ⟨after, split⟩ := (List.cons_prefix_cons.mp here).2
      apply others.no_colon []
      rw [List.append_nil, ← split]
      rfl
    · exact inductionHypothesis further

variable {pieces : List (BitVec 16)} {text : Text}

/-- Two colons meet exactly when a zero run has been compressed. -/
theorem CanonicalText.double_iff (canonical : CanonicalText pieces text) :
    doubleColon <:+: text ↔
      ∃ start length, 2 ≤ length ∧ Run (ZeroPiece pieces) pieces.length start length := by
  cases canonical with
  | plain short =>
    have single : ¬ doubleColon <:+: groupsText pieces := by
      rcases orEmpty_groupsText pieces with empty | groups
      · rw [empty.1]
        intro double
        cases List.infix_nil.mp double
      · exact groups.single_colons
    constructor
    · intro double
      exact absurd double single
    · intro zeros
      obtain ⟨start, length, several, run⟩ := zeros
      have bound := short start length run
      omega
  | @compressed start length run =>
    constructor
    · intro _
      exact ⟨start, length, run.several, run.zeros⟩
    · intro _
      exact ⟨_, _, rfl⟩

end Colons

section Reading

variable {pieces : List (BitVec 16)} {text : Text}

/-- A canonical text denotes the pieces it was written for. Eight groups are a full address;
with a compressed run, the groups before it open the text and those behind it are its tail. -/
theorem CanonicalText.denotes (canonical : CanonicalText pieces text) (eight : pieces.length = 8) :
    Ipv6Text text pieces := by
  cases canonical with
  | plain short =>
    rcases orEmpty_groupsText pieces with empty | groups
    · rw [empty.2] at eight
      cases eight
    · exact Or.inl ⟨groups.tail, eight⟩
  | @compressed start length run =>
    have inside := run.zeros.inside
    have several := run.several
    have back : OrEmpty Ipv6Tail (groupsText (pieces.drop (start + length)))
        (pieces.drop (start + length)) :=
      (orEmpty_groupsText _).imp_right Ipv6Groups.tail
    have missing :
        8 - ((pieces.take start).length + (pieces.drop (start + length)).length) = length := by
      rw [List.length_take, List.length_drop]
      omega
    refine Or.inr ⟨_, _, _, _, ?_, orEmpty_groupsText (pieces.take start), back, ?_, ?_⟩
    · rw [doubleColon, List.append_assoc]
      rfl
    · rw [List.length_take, List.length_drop]
      omega
    · rw [missing]
      exact run.split

/-- It contains no NUL byte. -/
theorem CanonicalText.noNul (canonical : CanonicalText pieces text) : 0 ∉ text := by
  have plain (some : List (BitVec 16)) : 0 ∉ groupsText some := by
    have notNul : ∀ digit < 16, ascii (Nat.digitChar digit) ≠ 0 := by
      intro digit small nul
      have found := hexValue_digitChar small
      rw [nul] at found
      cases found
    have bytes : ∀ byte ∈ groupsText some, byte ≠ 0 :=
      forall_groupsText (by decide) notNul some
    exact fun member => bytes 0 member rfl
  cases canonical with
  | plain short => exact plain pieces
  | compressed run =>
    have colons : 0 ∉ doubleColon := by decide
    simp only [List.mem_append, plain, colons, or_self, not_false_eq_true]

variable (core : MoeCore)

/-- `ParseIpv6` returns the pieces of a canonical text. -/
theorem CanonicalText.parsed {v6 : Ipv6AddressType} (canonical : CanonicalText v6.toList text) :
    parseIpv6 core text = .ok (some v6) := by
  have eight : v6.toList.length = 8 := Vector.length_toList
  have whole : padded v6.toList = v6 := Vector.toList_inj.mp (toList_padded eight)
  rw [parseIpv6_accepted core canonical.noNul (canonical.denotes eight), whole]

end Reading

section Formatting

variable (core : MoeCore)

/-- The endpoint is of the IPv6 family and reports the pieces. -/
structure HoldsIpv6 (e : EndPoint) (v6 : Ipv6AddressType) : Prop where
  family : e.isIpv6 = true
  pieces : e.getAddressIpv6 = v6

/-- `GetAddress` formats the address that the storage holds. -/
theorem HoldsIpv6.getAddress {e : EndPoint} {v6 : Ipv6AddressType} (holds : HoldsIpv6 e v6) :
    e.getAddress core = formatIpv6 core v6 := by
  have own : e.storage.family = AF_INET6 := of_decide_eq_true holds.family
  have other : ¬ e.storage.family = AF_INET := by
    rw [own]
    decide
  rw [EndPoint.getAddress, if_neg other, if_pos own, holds.pieces]

/-- Where two entries are written for each element, they alternate. -/
theorem flatMap_pair_getElem? {α β : Type} (high low : α → β) (elements : List α) (index : Nat) :
    (elements.flatMap (fun element => [high element, low element]))[2 * index]? =
        elements[index]?.map high ∧
      (elements.flatMap (fun element => [high element, low element]))[2 * index + 1]? =
        elements[index]?.map low := by
  induction elements generalizing index with
  | nil => simp
  | cons element rest inductionHypothesis =>
    cases index with
    | zero => simp
    | succ index =>
      have even : 2 * (index + 1) = 2 * index + 1 + 1 := by omega
      simpa [even] using inductionHypothesis index

/-- A mask of eight ones and the narrowing select the low byte. -/
theorem narrowed_octet (word : BitVec 16) (position : Nat) :
    ((word >>> position) &&& 0xFF).setWidth 8 = word.extractLsb' position 8 := by
  have ones : ∀ index < 8, (0xFF : BitVec 16).getLsbD index = true := by decide
  apply BitVec.eq_of_getLsbD_eq
  intro index inside
  simp only [BitVec.getLsbD_setWidth, BitVec.getLsbD_ushiftRight, BitVec.getLsbD_and,
    BitVec.getLsbD_extractLsb', ones index inside, Bool.and_true]

/-- The octets of an address are those of its pieces, high byte first. -/
theorem pieceOctets_cells (v6 : Ipv6AddressType) :
    (pieceOctets v6).cells = v6.toList.flatMap (fun s : BitVec 16 =>
      [s.extractLsb' 8 8, s.extractLsb' 0 8]) := by
  have high (s : BitVec 16) := narrowed_octet s 8
  have low (s : BitVec 16) : (s &&& 0xFF).setWidth 8 = s.extractLsb' 0 8 := narrowed_octet s 0
  simp only [pieceOctets, high]
  simp only [low]

/-- The pieces that were written into a structure are read back. -/
theorem ipv6Pieces_pieceOctets (v6 : Ipv6AddressType) :
    ipv6Pieces (pieceOctets v6).read = v6 := by
  apply Vector.ext
  intro index inside
  have listed : index < v6.toList.length := by
    rw [Vector.length_toList]
    exact inside
  obtain ⟨high, low⟩ := flatMap_pair_getElem? (fun s : BitVec 16 => s.extractLsb' 8 8)
    (fun s : BitVec 16 => s.extractLsb' 0 8) v6.toList index
  rw [List.getElem?_eq_getElem listed, Option.map_some, List.getElem?_eq_some_iff] at high low
  obtain ⟨_, high⟩ := high
  obtain ⟨_, low⟩ := low
  simp only [ipv6Pieces, Vector.getElem_ofFn, Region.read, pieceOctets_cells, List.get_eq_getElem,
    high, low, word16_extract, Vector.getElem_toList]

/-- Every address is held by the endpoint of its system structure. -/
theorem holdsIpv6_ofSockaddrIn6 (uninitialized : SockaddrStorage) (v6 : Ipv6AddressType)
    (port : BitVec 16) :
    HoldsIpv6 (EndPoint.ofSockaddrIn6 uninitialized (sockaddrIn6 v6 port)) v6 := by
  have agrees := agrees_copyIn6 uninitialized (sockaddrIn6 v6 port) rfl
  have pieces := agrees.addressIpv6 _ rfl
  have written : ipv6Pieces (sockaddrIn6 v6 port).addr.read = v6 := ipv6Pieces_pieceOctets v6
  rw [written] at pieces
  exact ⟨agrees.isIpv6, pieces⟩

/-- Different pieces are written differently. -/
theorem formatIpv6_injective {v6 other : Ipv6AddressType}
    (same : formatIpv6 core v6 = formatIpv6 core other) : v6 = other := by
  obtain ⟨text, written, canonical⟩ := formatIpv6_canonical core v6
  obtain ⟨otherText, otherWritten, otherCanonical⟩ := formatIpv6_canonical core other
  rw [written, otherWritten] at same
  have texts := List.append_cancel_right (List.cons.inj same).2
  have parsed := canonical.parsed core
  rw [texts, otherCanonical.parsed core] at parsed
  exact (Option.some.inj (Except.ok.inj parsed)).symm

/-- An IPv6 endpoint is written in brackets as the canonical text of its
pieces, and `ParseIpv6` returns them. For an accepted text, what is written for
its value is therefore parsed to the same value, and two values are written
alike exactly when they are equal. -/
theorem getAddress_canonical :
    (∀ e : EndPoint, e.isIpv6 = true →
      ∃ text, e.getAddress core = ascii '[' :: (text ++ [ascii ']']) ∧
        CanonicalText e.getAddressIpv6.toList text ∧
        (doubleColon <:+: text ↔ ∃ start length, 2 ≤ length ∧
          Run (ZeroPiece e.getAddressIpv6.toList) 8 start length) ∧
        parseIpv6 core text = .ok (some e.getAddressIpv6)) ∧
    (∀ accepted v6, 0 ∉ accepted → parseIpv6 core accepted = .ok (some v6) →
      ∀ e, HoldsIpv6 e v6 →
        ∃ text, e.getAddress core = ascii '[' :: (text ++ [ascii ']']) ∧
          parseIpv6 core text = parseIpv6 core accepted) ∧
    (∀ first second v6 w6, 0 ∉ first → 0 ∉ second →
      parseIpv6 core first = .ok (some v6) → parseIpv6 core second = .ok (some w6) →
      ∀ e f, HoldsIpv6 e v6 → HoldsIpv6 f w6 →
        (e.getAddress core = f.getAddress core ↔ v6 = w6)) := by
  refine ⟨?_, ?_, ?_⟩
  · intro e family
    have holds : HoldsIpv6 e e.getAddressIpv6 := ⟨family, rfl⟩
    obtain ⟨text, written, canonical⟩ := formatIpv6_canonical core e.getAddressIpv6
    have double := canonical.double_iff
    rw [Vector.length_toList] at double
    exact ⟨text, (holds.getAddress core).trans written, canonical, double, canonical.parsed core⟩
  · intro accepted v6 _ parsed e holds
    obtain ⟨text, written, canonical⟩ := formatIpv6_canonical core v6
    exact ⟨text, (holds.getAddress core).trans written,
      (canonical.parsed core).trans parsed.symm⟩
  · intro first second v6 w6 _ _ _ _ e f holds others
    rw [holds.getAddress core, others.getAddress core]
    constructor
    · exact formatIpv6_injective core
    · intro same
      rw [same]

end Formatting

/-- The loopback address is written as `[::1]`, what was written is parsed like
the accepted text `::1`, and the unspecified address `::` is written otherwise. -/
theorem getAddress_canonical_loopback :
    let e := EndPoint.ofSockaddrIn6 ⟨List.replicate 128 0, rfl⟩
      (sockaddrIn6 #v[0, 0, 0, 0, 0, 0, 0, 1] 80)
    let f := EndPoint.ofSockaddrIn6 ⟨List.replicate 128 0, rfl⟩
      (sockaddrIn6 #v[0, 0, 0, 0, 0, 0, 0, 0] 80)
    e.getAddress MoeCore.standard = "[::1]".toList.map ascii ∧
      (∃ text, e.getAddress MoeCore.standard = ascii '[' :: (text ++ [ascii ']']) ∧
        parseIpv6 MoeCore.standard text =
          parseIpv6 MoeCore.standard ("::1".toList.map ascii)) ∧
      e.getAddress MoeCore.standard ≠ f.getAddress MoeCore.standard := by
  intro e f
  have group : Ipv6Group ("1".toList.map ascii) 1 := by
    refine ⟨by decide, by decide, ?_, by decide⟩
    simp [AllDigits, hexValue, ascii]
  have loopback : Ipv6Text ("::1".toList.map ascii) [0, 0, 0, 0, 0, 0, 0, 1] :=
    Or.inr ⟨[], "1".toList.map ascii, [], [1], rfl, Or.inl ⟨rfl, rfl⟩, Or.inr (.single group),
      by decide, rfl⟩
  have unspecified : Ipv6Text ("::".toList.map ascii) [0, 0, 0, 0, 0, 0, 0, 0] :=
    Or.inr ⟨[], [], [], [], rfl, Or.inl ⟨rfl, rfl⟩, Or.inl ⟨rfl, rfl⟩, by decide, rfl⟩
  have accepted := parseIpv6_accepted MoeCore.standard (by decide) loopback
  have otherAccepted := parseIpv6_accepted MoeCore.standard (by decide) unspecified
  have holds : HoldsIpv6 e #v[0, 0, 0, 0, 0, 0, 0, 1] := holdsIpv6_ofSockaddrIn6 _ _ 80
  have others : HoldsIpv6 f #v[0, 0, 0, 0, 0, 0, 0, 0] := holdsIpv6_ofSockaddrIn6 _ _ 80
  obtain ⟨_, reparsed, identified⟩ := getAddress_canonical MoeCore.standard
  refine ⟨?_, reparsed _ _ (by decide) accepted e holds, ?_⟩
  · rw [holds.getAddress]
    decide
  · intro same
    have pieces := (identified _ _ _ _ (by decide) (by decide) accepted otherAccepted e f holds
      others).mp same
    revert pieces
    decide

end MoeUV
