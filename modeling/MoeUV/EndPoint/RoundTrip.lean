import MoeUV.EndPoint.Format

/-!
# The address text round trip

`GetAddress` writes a text and `SetAddress` and the text constructors read one.
Every IPv4 text is recovered by `ParseIpv4`: each dotted part is a decimal
numeral below 256. An IPv6 text begins with a bracket, which no rule of either
grammar accepts, so `SetAddress` throws on every address of that family. The
round trip therefore holds of exactly the IPv4 endpoints.
-/

namespace MoeUV

open Foundation.Loop Foundation.Memory

section DottedText

/-- Four numerals separated by dots. -/
def dotted (a b c d : Nat) : Text :=
  decimal a ++ ascii '.' :: (decimal b ++ ascii '.' :: (decimal c ++ ascii '.' :: decimal d))

/-- The digits of a number are no dots. -/
theorem noDot_decimal (n : Nat) : ascii '.' ∉ decimal n :=
  fun member => (plain_decimal n _ member).1 rfl

/-- The digits of a number are no NUL bytes. -/
theorem noNul_decimal (n : Nat) : 0 ∉ decimal n := fun member => (plain_decimal n _ member).2 rfl

/-- The last byte of a dotted text is a digit. -/
theorem dotted_getLast (a b c d : Nat) : (dotted a b c d).getLast? ≠ some (ascii '.') := by
  intro last
  have nonempty : decimal d ≠ [] := numeral_ne_nil (by decide) d
  have text : dotted a b c d = (decimal a ++ ascii '.' :: (decimal b ++ ascii '.' ::
      (decimal c ++ [ascii '.']))) ++ decimal d := by
    simp [dotted]
  rw [text, List.getLast?_append_of_ne_nil _ nonempty] at last
  exact noDot_decimal d (List.mem_of_getLast? last)

/-- The parts of a dotted text are its four numerals. -/
theorem ipv4Form_dotted (a b c d : Nat) : Ipv4Form (dotted a b c d) [a, b, c, d] := by
  have parts : ipv4Parts (dotted a b c d) = [decimal a, decimal b, decimal c, decimal d] := by
    rw [ipv4Parts, dropTrailingDot, if_neg (dotted_getLast a b c d), dotted,
      List.splitOn_append_cons_self_of_not_mem (noDot_decimal a),
      List.splitOn_append_cons_self_of_not_mem (noDot_decimal b),
      List.splitOn_append_cons_self_of_not_mem (noDot_decimal c),
      List.splitOn_eq_singleton (noDot_decimal d)]
  refine ⟨Nat.le_refl 4, ?_⟩
  rw [parts]
  exact .cons (ipv4Number_decimal a) (.cons (ipv4Number_decimal b)
    (.cons (ipv4Number_decimal c) (.cons (ipv4Number_decimal d) .nil)))

/-- `ParseIpv4` recovers an address from its four bytes. -/
theorem parseIpv4_dotted (a b c d : Nat) (fitsA : a < 256) (fitsB : b < 256) (fitsC : c < 256)
    (fitsD : d < 256) :
    parseIpv4 (dotted a b c d) =
      .ok (some (BitVec.ofNat 32 (d + a * 256 ^ 3 + b * 256 ^ 2 + c * 256))) := by
  have noNul : 0 ∉ dotted a b c d := by
    have notNul : ¬ (0 : Octet) = ascii '.' := by decide
    simp only [dotted, List.mem_append, List.mem_cons, noNul_decimal, notNul, or_self,
      not_false_eq_true]
  have inRange : Ipv4InRange [a, b, c, d] := by
    simp [Ipv4InRange]
    omega
  have sum : ipv4Sum [a, b, c, d] = d + a * 256 ^ 3 + b * 256 ^ 2 + c * 256 := by
    simp [ipv4Sum, Finset.sum_range_succ, Nat.add_assoc]
  rw [((parseIpv4_form noNul (ipv4Form_dotted a b c d)).1 inRange).2, sum]

end DottedText

section Ipv4

variable (core : MoeCore) (e : EndPoint)

/-- The digit conversion writes the decimal numeral of a byte. -/
theorem toDecimalString_octet (value : BitVec 32) :
    core.toDecimalString ((value % 256).setWidth 8) = decimal (value.toNat % 256) := by
  have octet : ((value % 256).setWidth 8).toNat = value.toNat % 256 := by
    simp
  rw [core.toDecimalString_eq, octet, decimal]

/-- The four rounds write the four bytes, most significant first. -/
theorem formatIpv4_dotted (v4 : BitVec 32) :
    formatIpv4 core 4 v4 [] =
      dotted (v4.toNat / 256 ^ 3 % 256) (v4.toNat / 256 ^ 2 % 256) (v4.toNat / 256 % 256)
        (v4.toNat % 256) := by
  have byte : (256 : BitVec 32).toNat = 256 := rfl
  have second : v4.toNat / 256 / 256 = v4.toNat / 256 ^ 2 := by omega
  have third : v4.toNat / 256 ^ 2 / 256 = v4.toNat / 256 ^ 3 := by omega
  simp only [formatIpv4, toDecimalString_octet, BitVec.toNat_udiv, byte, second, third, dotted]
  simp

/-- `ParseIpv4` recovers every address from its text. -/
theorem parseIpv4_formatIpv4 (v4 : BitVec 32) :
    parseIpv4 (formatIpv4 core 4 v4 []) = .ok (some v4) := by
  have bounded : v4.toNat < 2 ^ 32 := v4.isLt
  rw [formatIpv4_dotted, parseIpv4_dotted _ _ _ _ (Nat.mod_lt _ (by decide))
    (Nat.mod_lt _ (by decide)) (Nat.mod_lt _ (by decide)) (Nat.mod_lt _ (by decide))]
  have joined : v4.toNat % 256 + v4.toNat / 256 ^ 3 % 256 * 256 ^ 3 +
      v4.toNat / 256 ^ 2 % 256 * 256 ^ 2 + v4.toNat / 256 % 256 * 256 = v4.toNat := by omega
  rw [joined, BitVec.ofNat_toNat, BitVec.setWidth_eq]

end Ipv4

section Bracket

variable (core : MoeCore) (rest : Text)

/-- A part that begins with a bracket is no number. -/
theorem parseIpv4Number_bracket : parseIpv4Number (ascii '[' :: rest) = none := by
  have radix : numberRadix (ascii '[' :: rest) = (10, ascii '[' :: rest) := by
    have notZero : ¬ ascii '[' = ascii '0' := by decide
    cases rest with
    | nil => rfl
    | cons second others => simp only [numberRadix, notZero, false_and, if_false]
  have lower : ¬ (ascii 'a' ≤ ascii '[' ∧ ascii '[' ≤ ascii 'f') := by decide
  have upper : ¬ (ascii 'A' ≤ ascii '[' ∧ ascii '[' ≤ ascii 'F') := by decide
  have digit : ¬ (ascii '0' ≤ ascii '[' ∧ ascii '[' ≤ ascii '9') := by decide
  rw [parseIpv4Number, radix]
  simp only [parseDigits, lower, upper, digit, if_false]

/-- Inside the first part the loop goes on, and at its end it returns false. -/
theorem ipv4Body_bracket (scan : Ipv4Scan) (marked : scan.mark = 0) (counted : scan.parts = 0)
    (inside : scan.start ≤ (ascii '[' :: rest).length) :
    ipv4Body (ascii '[' :: rest) scan = .leave none ∨
      scan.start < (ascii '[' :: rest).length ∧
        ipv4Body (ascii '[' :: rest) scan = .again { scan with start := scan.start + 1 } := by
  have notFull : ¬ scan.parts + 1 > 4 := by omega
  simp only [ipv4Body, inside, if_true, notFull, if_false]
  by_cases separator : peek (ascii '[' :: rest) scan.start = ascii '.' ∨
      peek (ascii '[' :: rest) scan.start = 0
  · left
    rw [if_pos separator]
    split
    · rfl
    · rename_i nonempty
      obtain ⟨length, same⟩ := Nat.exists_eq_succ_of_ne_zero (marked ▸ nonempty)
      simp only [Ipv4Scan.part, marked, same, List.drop_zero, Nat.sub_zero,
        List.take_succ_cons, parseIpv4Number_bracket]
  · right
    rw [if_neg separator]
    refine ⟨inside_of_peek_ne_nul ?_, rfl⟩
    intro nul
    exact separator (Or.inr nul)

/-- `ParseIpv4` returns false on a text that begins with a bracket. -/
theorem parseIpv4_bracket : parseIpv4 (ascii '[' :: rest) = .ok none := by
  have refused := (ipv4Loop (ascii '[' :: rest)).run_rule
    (fun scan => scan.mark = 0 ∧ scan.parts = 0 ∧ scan.start ≤ (ascii '[' :: rest).length)
    (fun result => result = none)
    (fun scan next invariant pass => by
      obtain ⟨marked, counted, inside⟩ := invariant
      rcases ipv4Body_bracket rest scan marked counted inside with left | ⟨before, again⟩
      · cases left.symm.trans pass
      · cases again.symm.trans pass
        exact ⟨marked, counted, before⟩)
    (fun scan result invariant pass => by
      obtain ⟨marked, counted, inside⟩ := invariant
      rcases ipv4Body_bracket rest scan marked counted inside with left | ⟨_, again⟩
      · cases left.symm.trans pass
        rfl
      · cases again.symm.trans pass)
    ⟨0, 0, 0, 0, Vector.replicate 4 0⟩ ⟨rfl, rfl, Nat.zero_le _⟩
  rw [parseIpv4, refused]

/-- `ParseIpv6` returns false on a text that begins with a bracket: the first
group has no digit and no separator follows it. -/
theorem parseIpv6_bracket : parseIpv6 core (ascii '[' :: rest) = .ok none := by
  have head : peek (ascii '[' :: rest) 0 = ascii '[' := rfl
  have notColon : ¬ ascii '[' = ascii ':' := by decide
  have initial : ipv6Start (ascii '[' :: rest) = some ⟨0, 0, none, Vector.replicate 8 0⟩ := by
    simp only [ipv6Start, head, notColon, if_false]
  have notHex : core.isHexDigit (ascii '[') = false := by
    have refused : ¬ core.isHexDigit (ascii '[') = true := by
      rw [core.isHexDigit_iff]
      decide
    simpa using refused
  have noDigits : hexDigits core (ascii '[' :: rest) 4 0 0 0 = (0, 0, 0) := by
    simp only [hexDigits, head, notHex, Bool.false_eq_true, if_false]
  have notDot : ¬ ascii '[' = ascii '.' := by decide
  have notNul : ¬ ascii '[' = 0 := by decide
  have refusedGroup : readGroup core (ascii '[' :: rest) ⟨0, 0, none, Vector.replicate 8 0⟩ =
      .ok none := by
    simp only [readGroup, noDigits, head, notDot, notColon, notNul, if_false]
  have pass : (ipv6Loop core (ascii '[' :: rest)).body ⟨0, 0, none, Vector.replicate 8 0⟩ =
      .leave (.ok none) := by
    have room : ¬ 0 ≥ 8 := by decide
    simp only [ipv6Loop, ipv6Body, head, ne_eq, notNul, not_false_eq_true, if_true, room, notColon,
      if_false, refusedGroup]
  rw [parseIpv6, initial]
  simp only [(ipv6Loop core (ascii '[' :: rest)).run_leave pass]
  rfl

/-- Neither grammar accepts a bracket, so the setter throws. -/
theorem setAddress_bracket (f : EndPoint) :
    f.setAddress core (ascii '[' :: rest) =
      .error (.badFormat ⟨"Bad address {0}", ascii '[' :: rest⟩) := by
  rw [EndPoint.setAddress, parseIpv4_bracket]
  simp only [parseIpv6_bracket]

end Bracket

section Ipv6

variable (core : MoeCore)

/-- A round only appends to the text. -/
theorem formatPiece_appends (v6 : Ipv6AddressType) (state : Text × Bool) (n : Fin 8) :
    ∃ written, (formatPiece core v6 state n).1 = state.1 ++ written := by
  obtain ⟨ret, ignore0⟩ := state
  simp only [formatPiece]
  split
  · exact ⟨[], (List.append_nil ret).symm⟩
  · split
    · exact ⟨_, rfl⟩
    · split
      · exact ⟨_, List.append_assoc _ _ _⟩
      · exact ⟨_, rfl⟩

/-- The formatting loop only appends to its output. -/
theorem foldl_formatPiece_appends (v6 : Ipv6AddressType) (indices : List (Fin 8))
    (state : Text × Bool) :
    ∃ written, (indices.foldl (formatPiece core v6) state).1 = state.1 ++ written := by
  induction indices generalizing state with
  | nil => exact ⟨[], (List.append_nil state.1).symm⟩
  | cons index others inductionHypothesis =>
    obtain ⟨first, here⟩ := formatPiece_appends core v6 state index
    obtain ⟨later, there⟩ := inductionHypothesis (formatPiece core v6 state index)
    exact ⟨first ++ later, by rw [List.foldl_cons, there, here, List.append_assoc]⟩

/-- Every IPv6 text begins with the opening bracket. -/
theorem formatIpv6_bracket (v6 : Ipv6AddressType) :
    ∃ rest, formatIpv6 core v6 = ascii '[' :: rest := by
  obtain ⟨written, appended⟩ :=
    foldl_formatPiece_appends core v6 (List.finRange 8) ([ascii '['], false)
  refine ⟨written ++ [ascii ']'], ?_⟩
  rw [formatIpv6, appended]
  rfl

end Ipv6

section RoundTrip

variable (core : MoeCore)

/-- Two endpoints report the same family and the same address. -/
structure SameAddress (left right : EndPoint) : Prop where
  isIpv4 : left.isIpv4 = right.isIpv4
  isIpv6 : left.isIpv6 = right.isIpv6
  addressIpv4 : left.getAddressIpv4 = right.getAddressIpv4
  addressIpv6 : left.getAddressIpv6 = right.getAddressIpv6

/-- The text of an endpoint restores its address in every other endpoint, which
keeps its port, and rebuilds the endpoint together with its port. -/
structure RoundTrips (e : EndPoint) : Prop where
  set : ∀ f : EndPoint, ∃ g, f.setAddress core (e.getAddress core) = .ok g ∧
    SameAddress g e ∧ g.getPort = f.getPort
  construct : ∀ uninitialized, ∃ g,
    EndPoint.ofText uninitialized core (e.getAddress core) e.getPort = .ok g ∧
      SameAddress g e ∧ g.getPort = e.getPort

/-- The IPv4 setter shows exactly the address it was given, and keeps the port. -/
theorem sameAddress_setAddressIpv4 (e f : EndPoint) (family : e.isIpv4 = true) :
    SameAddress (f.setAddressIpv4 e.getAddressIpv4) e ∧
      (f.setAddressIpv4 e.getAddressIpv4).getPort = f.getPort := by
  have own : e.storage.family = AF_INET := of_decide_eq_true family
  have distinct : AF_INET ≠ AF_INET6 := by decide
  constructor
  · constructor
    · simp [EndPoint.isIpv4, EndPoint.setAddressIpv4, sockaddrIn, own]
    · simp [EndPoint.isIpv6, EndPoint.setAddressIpv4, sockaddrIn, own]
    · simp [EndPoint.getAddressIpv4, EndPoint.setAddressIpv4, sockaddrIn, own]
    · simp [EndPoint.getAddressIpv6, EndPoint.setAddressIpv4, sockaddrIn, own, distinct]
  · simp [EndPoint.getPort, EndPoint.setAddressIpv4, sockaddrIn]

/-- The text of an IPv4 endpoint sets its address. -/
theorem setAddress_getAddress_ipv4 (e f : EndPoint) (family : e.isIpv4 = true) :
    f.setAddress core (e.getAddress core) = .ok (f.setAddressIpv4 e.getAddressIpv4) := by
  have own : e.storage.family = AF_INET := of_decide_eq_true family
  rw [EndPoint.setAddress, EndPoint.getAddress, if_pos own, parseIpv4_formatIpv4]

/-- The text of an IPv6 endpoint is refused. -/
theorem setAddress_getAddress_ipv6 (e f : EndPoint) (family : e.isIpv6 = true) :
    f.setAddress core (e.getAddress core) =
      .error (.badFormat ⟨"Bad address {0}", e.getAddress core⟩) := by
  have own : e.storage.family = AF_INET6 := of_decide_eq_true family
  have other : ¬ e.storage.family = AF_INET := by
    rw [own]
    decide
  obtain ⟨rest, written⟩ := formatIpv6_bracket core e.getAddressIpv6
  rw [EndPoint.getAddress, if_neg other, if_pos own, written, setAddress_bracket]

/-- An endpoint of either family survives the round trip through its text
exactly when it is an IPv4 endpoint. -/
theorem roundTrips_iff (e : EndPoint) (family : e.isIpv4 = true ∨ e.isIpv6 = true) :
    RoundTrips core e ↔ e.isIpv4 = true := by
  constructor
  · intro roundTrips
    by_contra notIpv4
    have ipv6 : e.isIpv6 = true := family.resolve_left notIpv4
    obtain ⟨g, set, _⟩ := roundTrips.set e
    rw [setAddress_getAddress_ipv6 core e e ipv6] at set
    cases set
  · intro ipv4
    constructor
    · intro f
      exact ⟨_, setAddress_getAddress_ipv4 core e f ipv4, sameAddress_setAddressIpv4 e f ipv4⟩
    · intro uninitialized
      have port : (EndPoint.ofIpv4 uninitialized 0 e.getPort).getPort = e.getPort := by
        simp [EndPoint.getPort, EndPoint.ofIpv4, sockaddrIn]
      obtain ⟨same, kept⟩ :=
        sameAddress_setAddressIpv4 e (EndPoint.ofIpv4 uninitialized 0 e.getPort) ipv4
      exact ⟨_, setAddress_getAddress_ipv4 core e _ ipv4, same, kept.trans port⟩

/-- The wildcard address with port 80 survives. -/
theorem roundTrips_wildcard :
    RoundTrips MoeCore.standard (EndPoint.ofIpv4 ⟨List.replicate 128 0, rfl⟩ 0 80) :=
  (roundTrips_iff MoeCore.standard (EndPoint.ofIpv4 ⟨List.replicate 128 0, rfl⟩ 0 80)
    (Or.inl (by simp [EndPoint.isIpv4, EndPoint.ofIpv4, sockaddrIn]))).mpr
    (by simp [EndPoint.isIpv4, EndPoint.ofIpv4, sockaddrIn])

/-- The IPv6 loopback address is written as `[::1]`, and that text is refused. -/
theorem roundTrips_false_loopback :
    let e := EndPoint.ofSockaddrIn6 ⟨List.replicate 128 0, rfl⟩
      (sockaddrIn6 #v[0, 0, 0, 0, 0, 0, 0, 1] 80)
    e.isIpv6 = true ∧ ¬ RoundTrips MoeCore.standard e := by
  have family : (EndPoint.ofSockaddrIn6 ⟨List.replicate 128 0, rfl⟩
      (sockaddrIn6 #v[0, 0, 0, 0, 0, 0, 0, 1] 80)).isIpv6 = true := by
    simp [EndPoint.isIpv6, EndPoint.ofSockaddrIn6, sockaddrIn6]
  refine ⟨family, ?_⟩
  intro roundTrips
  obtain ⟨g, set, _⟩ := roundTrips.set (EndPoint.ofDefault ⟨List.replicate 128 0, rfl⟩)
  rw [setAddress_getAddress_ipv6 _ _ _ family] at set
  cases set

end RoundTrip

end MoeUV
