import MoeUV.EndPoint.EmbeddedNul
import MoeUV.EndPoint.Record

/-!
# What an accepted buffer may contain

A text is passed to an endpoint with an explicit length, by a setter or by a
constructor. The bytes of an accepted text without NUL bytes all belong to the
address alphabet. A NUL byte does not, yet it does not make the text invalid by
itself: it may stand for a dot between the parts of an IPv4 address, and behind
an IPv6 address it hides whatever follows.

The two grammars have no text in common. A text of the IPv6 grammar has a colon,
which is no digit, so `ParseIpv4` returns false before it checks any range. This
holds for the hidden texts too, since a NUL byte read as a dot is no colon.
-/

namespace MoeUV

open Foundation.Memory Foundation.Loop Foundation.Execution

section Alphabet

/-- A hexadecimal digit, the letter of a hexadecimal prefix, or a separator. -/
def AddressByte (byte : Octet) : Prop :=
  (hexValue byte).isSome = true ∨ byte = ascii 'x' ∨ byte = ascii 'X' ∨ byte = ascii '.' ∨
    byte = ascii ':'

instance (byte : Octet) : Decidable (AddressByte byte) := by
  unfold AddressByte
  infer_instance

/-- A dot may stand in an address, -/
theorem addressByte_dot : AddressByte (ascii '.') := by decide

/-- a colon may, -/
theorem addressByte_colon : AddressByte (ascii ':') := by decide

/-- and a NUL may not. -/
theorem not_addressByte_nul : ¬ AddressByte 0 := by decide

/-- A digit of any radix may. -/
theorem AllDigits.addressByte {radix : Nat} {digits : Text} (all : AllDigits radix digits) :
    ∀ byte ∈ digits, AddressByte byte := by
  intro byte member
  obtain ⟨digit, found, _⟩ := all byte member
  exact Or.inl (Option.isSome_iff_exists.mpr ⟨digit, found⟩)

/-- A digit is no colon. -/
theorem AllDigits.no_colon {radix : Nat} {digits : Text} (all : AllDigits radix digits) :
    ascii ':' ∉ digits := by
  intro member
  obtain ⟨digit, found, _⟩ := all (ascii ':') member
  exact (plain_of_hexValue found).2 rfl

/-- A byte that is not the separator lies in one of the parts. -/
theorem mem_splitOn {separator byte : Octet} {text : Text} (member : byte ∈ text)
    (other : byte ≠ separator) : ∃ part ∈ text.splitOn separator, byte ∈ part := by
  induction text with
  | nil => cases member
  | cons first rest inductionHypothesis =>
    rw [List.splitOn_cons_eq_if_modifyHead]
    by_cases separates : first = separator
    · have later : byte ∈ rest := (List.mem_cons.mp member).resolve_left (by
        rintro rfl
        exact other separates)
      obtain ⟨part, found, inside⟩ := inductionHypothesis later
      rw [if_pos (beq_iff_eq.mpr separates)]
      exact ⟨part, List.mem_cons_of_mem _ found, inside⟩
    · rw [if_neg (by simpa using separates)]
      obtain ⟨head, tail, split⟩ := List.exists_cons_of_ne_nil (List.splitOn_ne_nil separator rest)
      rw [split] at inductionHypothesis ⊢
      rcases List.mem_cons.mp member with rfl | later
      · exact ⟨byte :: head, List.mem_cons_self, List.mem_cons_self⟩
      · obtain ⟨part, found, inside⟩ := inductionHypothesis later
        rcases List.mem_cons.mp found with rfl | found
        · exact ⟨first :: part, List.mem_cons_self, List.mem_cons_of_mem _ inside⟩
        · exact ⟨part, List.mem_cons_of_mem _ found, inside⟩

/-- The bytes of a numeral are digits or the letter of its prefix. -/
theorem Ipv4Number.bytes {part : Text} {number : Nat} (numeral : Ipv4Number part number) :
    ∀ byte ∈ part, AddressByte byte ∧ byte ≠ ascii ':' := by
  have zero : AddressByte (ascii '0') ∧ ascii '0' ≠ ascii ':' := by decide
  cases numeral with
  | decimal digits present leading all =>
    exact fun byte member =>
      ⟨all.addressByte byte member, fun colon => all.no_colon (colon ▸ member)⟩
  | octal digits all =>
    refine List.forall_mem_cons.mpr ⟨zero, fun byte member => ?_⟩
    exact ⟨all.addressByte byte member, fun colon => all.no_colon (colon ▸ member)⟩
  | hexadecimal letter digits announced all =>
    have prefixed : AddressByte letter ∧ letter ≠ ascii ':' := by
      rcases announced with rfl | rfl
      · decide
      · decide
    refine List.forall_mem_cons.mpr ⟨zero, List.forall_mem_cons.mpr ⟨prefixed, ?_⟩⟩
    intro byte member
    exact ⟨all.addressByte byte member, fun colon => all.no_colon (colon ▸ member)⟩

/-- The bytes of an IPv4 text are dots and the bytes of its numerals. -/
theorem Ipv4Form.bytes {text : Text} {numbers : List Nat} (form : Ipv4Form text numbers) :
    ∀ byte ∈ text, AddressByte byte ∧ byte ≠ ascii ':' := by
  have dotted : AddressByte (ascii '.') ∧ ascii '.' ≠ ascii ':' := by decide
  have parts : ∀ part ∈ ipv4Parts text, ∀ byte ∈ part, AddressByte byte ∧ byte ≠ ascii ':' :=
    ((List.forall₂_and_left _ _).mp
      (form.2.imp fun part number numeral => ⟨numeral.bytes, numeral⟩)).1
  have inner : ∀ byte ∈ dropTrailingDot text, AddressByte byte ∧ byte ≠ ascii ':' := by
    intro byte member
    by_cases dot : byte = ascii '.'
    · rw [dot]
      exact dotted
    · obtain ⟨part, found, inside⟩ := mem_splitOn member dot
      exact parts part found byte inside
  intro byte member
  rw [dropTrailingDot] at inner
  by_cases trailing : text.getLast? = some (ascii '.')
  · obtain ⟨front, rfl⟩ := List.getLast?_eq_some_iff.mp trailing
    rw [if_pos trailing, List.dropLast_concat] at inner
    rcases List.mem_append.mp member with earlier | last
    · exact inner byte earlier
    · rw [List.mem_singleton.mp last]
      exact dotted
  · rw [if_neg trailing] at inner
    exact inner byte member

/-- So a group has no other characters, -/
theorem Ipv6Group.bytes {digits : Text} {piece : BitVec 16} (group : Ipv6Group digits piece) :
    ∀ byte ∈ digits, AddressByte byte :=
  group.all.addressByte

/-- nor has a quad, -/
theorem DottedQuad.bytes {text : Text} {pieces : List (BitVec 16)}
    (dotted : DottedQuad text pieces) : ∀ byte ∈ text, AddressByte byte := by
  obtain ⟨octetA, octetB, octetC, octetD⟩ := dotted
  simp only [List.forall_mem_append, List.forall_mem_cons]
  exact ⟨octetA.all.addressByte, addressByte_dot, octetB.all.addressByte, addressByte_dot,
    octetC.all.addressByte, addressByte_dot, octetD.all.addressByte⟩

/-- nor a run of groups, -/
theorem Ipv6Groups.bytes {text : Text} {pieces : List (BitVec 16)}
    (groups : Ipv6Groups text pieces) : ∀ byte ∈ text, AddressByte byte := by
  induction groups with
  | single group => exact group.bytes
  | cons group others inductionHypothesis =>
    simp only [List.forall_mem_append, List.forall_mem_cons]
    exact ⟨group.bytes, addressByte_colon, inductionHypothesis⟩

/-- nor what ends an address. -/
theorem Ipv6Tail.bytes {text : Text} {pieces : List (BitVec 16)} (tail : Ipv6Tail text pieces) :
    ∀ byte ∈ text, AddressByte byte := by
  induction tail with
  | single group => exact group.bytes
  | quad dotted => exact dotted.bytes
  | cons group others inductionHypothesis =>
    simp only [List.forall_mem_append, List.forall_mem_cons]
    exact ⟨group.bytes, addressByte_colon, inductionHypothesis⟩

/-- The bytes of an IPv6 text are colons, dots and digits. -/
theorem Ipv6Text.bytes {text : Text} {pieces : List (BitVec 16)} (denotes : Ipv6Text text pieces) :
    ∀ byte ∈ text, AddressByte byte := by
  rcases denotes with full | compressed
  · exact full.1.bytes
  · obtain ⟨before, after, front, back, rfl, groups, tail, _⟩ := compressed
    simp only [List.forall_mem_append, List.forall_mem_cons]
    refine ⟨?_, addressByte_colon, addressByte_colon, ?_⟩
    · rcases groups with empty | groups
      · rw [empty.1]
        exact List.forall_mem_nil _
      · exact groups.bytes
    · rcases tail with empty | tail
      · rw [empty.1]
        exact List.forall_mem_nil _
      · exact tail.bytes

/-- Eight pieces need a colon between them. -/
theorem Ipv6Text.colon {text : Text} {pieces : List (BitVec 16)} (denotes : Ipv6Text text pieces) :
    ascii ':' ∈ text := by
  rcases denotes with full | compressed
  · obtain ⟨tail, eight⟩ := full
    cases tail with
    | single group => cases eight
    | quad dotted =>
      rw [dotted.length] at eight
      cases eight
    | cons group others => exact List.mem_append_right _ List.mem_cons_self
  · obtain ⟨before, after, front, back, rfl, _⟩ := compressed
    exact List.mem_append_right _ List.mem_cons_self

end Alphabet

section Outcomes

/-- The text is an IPv4 address in range when its NUL bytes are read as dots. -/
def PassesIpv4 (text : Text) : Prop :=
  text.getLast? ≠ some 0 ∧
    ∃ numbers, Ipv4Form (nulsAsDots text) numbers ∧ Ipv4InRange numbers

/-- The bytes before the first NUL are an IPv6 address. -/
def PassesIpv6 (text : Text) : Prop := ∃ pieces, Ipv6Text (cString text) pieces

variable (core : MoeCore) {text : Text}

/-- A text that passes is parsed, -/
theorem parseIpv6_passes (passes : PassesIpv6 text) :
    ∃ v6, parseIpv6 core text = .ok (some v6) := by
  obtain ⟨pieces, denotes⟩ := passes
  rw [parseIpv6_cString]
  exact ⟨_, parseIpv6_accepted core cString_noNul denotes⟩

/-- and any other is refused, without a fault. -/
theorem parseIpv6_fails (fails : ¬ PassesIpv6 text) : parseIpv6 core text = .ok none := by
  rw [parseIpv6_cString]
  exact parseIpv6_refused core cString_noNul fails

/-- The same holds of an IPv4 address that passes. -/
theorem parseIpv4_passes (passes : PassesIpv4 text) : ∃ v4, parseIpv4 text = .ok (some v4) := by
  obtain ⟨last, numbers, form, inRange⟩ := passes
  rw [parseIpv4_nulsAsDots last, ((parseIpv4_form nulsAsDots_noNul form).1 inRange).2]
  exact ⟨_, rfl⟩

/-- Every other text is refused, or thrown out for its range. -/
theorem parseIpv4_fails (fails : ¬ PassesIpv4 text) :
    parseIpv4 text = .ok none ∨ ∃ exception, parseIpv4 text = .error exception := by
  by_cases last : text.getLast? = some 0
  · exact Or.inl (parseIpv4_final_nul last)
  · rw [parseIpv4_nulsAsDots last]
    by_cases formed : ∃ numbers, Ipv4Form (nulsAsDots text) numbers
    · obtain ⟨numbers, form⟩ := formed
      right
      rw [(parseIpv4_form nulsAsDots_noNul form).2 fun inRange =>
        fails ⟨last, numbers, form, inRange⟩]
      exact ⟨_, rfl⟩
    · left
      rw [parseIpv4_refused nulsAsDots_noNul formed]
      rfl

/-- A text with a colon is refused by `ParseIpv4` without an exception. -/
theorem parseIpv4_colon (colon : ascii ':' ∈ text) : parseIpv4 text = .ok none := by
  by_cases last : text.getLast? = some 0
  · exact parseIpv4_final_nul last
  · have kept : ascii ':' ∈ nulsAsDots text := List.mem_map.mpr ⟨ascii ':', colon, by decide⟩
    have formless : ¬ ∃ numbers, Ipv4Form (nulsAsDots text) numbers := by
      rintro ⟨numbers, form⟩
      exact (form.bytes (ascii ':') kept).2 rfl
    rw [parseIpv4_nulsAsDots last, parseIpv4_refused nulsAsDots_noNul formless]
    rfl

/-- So is every text that `ParseIpv6` accepts, even one with a hidden rest. -/
theorem parseIpv4_of_passesIpv6 (passes : PassesIpv6 text) : parseIpv4 text = .ok none := by
  obtain ⟨pieces, denotes⟩ := passes
  exact parseIpv4_colon ((List.takeWhile_prefix _).subset denotes.colon)

variable (e : EndPoint)

/-- `SetAddress` throws for no text that passes. -/
theorem setAddress_passes (passes : PassesIpv4 text ∨ PassesIpv6 text) :
    ∃ next, e.setAddress core text = .ok next := by
  rcases passes with ipv4 | ipv6
  · obtain ⟨v4, parsed⟩ := parseIpv4_passes ipv4
    exact ⟨e.setAddressIpv4 v4, by simp only [EndPoint.setAddress, parsed]⟩
  · obtain ⟨v6, parsed⟩ := parseIpv6_passes core ipv6
    refine ⟨e.setAddressIpv6 v6, ?_⟩
    simp only [EndPoint.setAddress, parseIpv4_of_passesIpv6 ipv6, parsed]

/-- A text that passes neither grammar makes the setter throw. -/
theorem setAddress_fails (fails : ¬ (PassesIpv4 text ∨ PassesIpv6 text)) :
    ∃ exception, e.setAddress core text = .error (.badFormat exception) := by
  have ipv6 := parseIpv6_fails core fun passes => fails (Or.inr passes)
  rcases parseIpv4_fails fun passes => fails (Or.inl passes) with refused | ⟨exception, thrown⟩
  · simp only [EndPoint.setAddress, refused, ipv6]
    exact ⟨_, rfl⟩
  · simp only [EndPoint.setAddress, thrown]
    exact ⟨_, rfl⟩

/-- Without NUL bytes, an accepted text consists of address bytes. -/
theorem addressBytes_of_passes (noNul : 0 ∉ text) (passes : PassesIpv4 text ∨ PassesIpv6 text) :
    ∀ byte ∈ text, AddressByte byte := by
  rcases passes with ipv4 | ipv6
  · obtain ⟨_, numbers, form, _⟩ := ipv4
    rw [nulsAsDots_of_noNul noNul] at form
    exact fun byte member => (form.bytes byte member).1
  · obtain ⟨pieces, denotes⟩ := ipv6
    rw [cString_of_noNul noNul] at denotes
    exact denotes.bytes

end Outcomes

section Calls

/-- The calls that take a text with its length: `SetAddress` with a view or with
a string, which passes its bytes and its length on, and the constructors with
the same arguments. -/
inductive TextCall where
  | setAddressView (e : EndPoint)
  | setAddressString (e : EndPoint)
  | constructView (uninitialized : SockaddrStorage) (port : BitVec 16)
  | constructString (uninitialized : SockaddrStorage) (port : BitVec 16)

/-- The call with a text. -/
def TextCall.run (core : MoeCore) (text : Text) : TextCall → Except EndPointFailure EndPoint
  | .setAddressView e => e.setAddress core text
  | .setAddressString e => e.setAddress core text
  | .constructView uninitialized port => EndPoint.ofText uninitialized core text port
  | .constructString uninitialized port => EndPoint.ofText uninitialized core text port

/-- The endpoint on which the call sets the address. -/
def TextCall.receiver : TextCall → EndPoint
  | .setAddressView e => e
  | .setAddressString e => e
  | .constructView uninitialized port => EndPoint.ofIpv4 uninitialized 0 port
  | .constructString uninitialized port => EndPoint.ofIpv4 uninitialized 0 port

/-- All calls with a text end in `SetAddress`. -/
theorem TextCall.run_eq (core : MoeCore) (text : Text) (call : TextCall) :
    call.run core text = call.receiver.setAddress core text := by
  cases call with
  | setAddressView e => rfl
  | setAddressString e => rfl
  | constructView uninitialized port => rfl
  | constructString uninitialized port => rfl

/-- An accepted text consists of address bytes, and a text with a NUL byte is
rejected by the exception. -/
def Validated (core : MoeCore) (call : TextCall) (text : Text) : Prop :=
  ((∃ e, call.run core text = .ok e) → ∀ byte ∈ text, AddressByte byte) ∧
    (0 ∈ text → ∃ exception, call.run core text = .error (.badFormat exception))

/-- A buffer is validated as a whole exactly when it has no NUL byte or passes
neither grammar. One with a NUL byte is accepted as an IPv4 address if its NUL
bytes stand where dots may, the last byte excepted, and as an IPv6 address if
the bytes before the first NUL are one. -/
theorem validated_iff (core : MoeCore) (call : TextCall) (text : Text) :
    Validated core call text ↔ (0 ∈ text → ¬ PassesIpv4 text ∧ ¬ PassesIpv6 text) := by
  simp only [Validated, call.run_eq, ← not_or]
  by_cases passes : PassesIpv4 text ∨ PassesIpv6 text
  · have accepted := setAddress_passes core call.receiver passes
    constructor
    · rintro ⟨valid, _⟩ member
      exact absurd (valid accepted 0 member) not_addressByte_nul
    · intro unhidden
      have noNul : 0 ∉ text := fun member => unhidden member passes
      exact ⟨fun _ => addressBytes_of_passes noNul passes, fun member => absurd member noNul⟩
  · obtain ⟨exception, thrown⟩ := setAddress_fails core call.receiver passes
    refine iff_of_true ⟨?_, fun _ => ⟨exception, thrown⟩⟩ fun _ => passes
    rintro ⟨next, returned⟩
    rw [thrown] at returned
    cases returned

/-- The loopback address hides six bytes behind a NUL. -/
theorem validated_false_hidden :
    ¬ Validated MoeCore.standard
      (.setAddressString (EndPoint.ofDefault ⟨List.replicate 128 0, rfl⟩))
      ("::1".toList.map ascii ++ 0 :: "hidden".toList.map ascii) := by
  intro valid
  have bytes := valid.1 ⟨EndPoint.ofDefault ⟨List.replicate 128 0, rfl⟩, by decide⟩ 0
    (by decide)
  exact not_addressByte_nul bytes

end Calls

end MoeUV
