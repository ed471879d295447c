import MoeUV.EndPoint.Reparse
import MoeUV.EndPoint.RoundTrip

/-!
# The text of an endpoint

`ToString` joins the address and the port by a colon. The port is a decimal
numeral and contains no colon, so the last colon of the text separates the two,
however many colons an IPv6 address has. An IPv6 address begins with a bracket,
which `ParseIpv4` refuses, and an IPv4 address is recovered by it. The text
therefore identifies the endpoint.
-/

namespace MoeUV

open Foundation.Memory

section Format

/-- The arguments of `StringUtils::Format`. -/
inductive FormatArgument where
  | text (content : Text)
  | unsigned16 (number : BitVec 16)
deriving DecidableEq

/-- A text is written verbatim, an integer as its shortest decimal numeral. -/
def FormatArgument.written : FormatArgument → Text
  | .text content => content
  | .unsigned16 number => decimal number.toNat

/-- The pattern with every place `{0}`, `{1}` and so on replaced by the argument
of that number. -/
def substitute (arguments : List Text) : List Char → Text
  | '{' :: number :: '}' :: rest =>
    arguments.getD (digitOf (ascii number)) [] ++ substitute arguments rest
  | character :: rest => ascii character :: substitute arguments rest
  | [] => []

/-- `StringUtils::Format` of Moe.Core with its documented behaviour. -/
structure MoeFormat where
  format : String → List FormatArgument → Text
  format_eq : ∀ pattern arguments,
    format pattern arguments = substitute (arguments.map FormatArgument.written) pattern.toList

/-- The formatter has a realization. -/
def MoeFormat.standard : MoeFormat where
  format pattern arguments :=
    substitute (arguments.map FormatArgument.written) pattern.toList
  format_eq _ _ := rfl

end Format

def EndPoint.toString (core : MoeCore) (utils : MoeFormat) (e : EndPoint) : Text :=
  utils.format "{0}:{1}" [.text (e.getAddress core), .unsigned16 e.getPort]

/-- Two endpoints have the same family, the same address of that family and the
same port. -/
structure SameEndPoint (e f : EndPoint) : Prop where
  family : e.storage.family = f.storage.family
  addressIpv4 : e.isIpv4 = true → e.getAddressIpv4 = f.getAddressIpv4
  addressIpv6 : e.isIpv6 = true → e.getAddressIpv6 = f.getAddressIpv6
  port : e.getPort = f.getPort

section Separator

/-- Only what follows the last separator is free of it. -/
theorem split_at_last {α : Type} {separator : α} {front other back rest : List α}
    (free : separator ∉ back) (otherFree : separator ∉ rest)
    (same : front ++ separator :: back = other ++ separator :: rest) :
    front = other ∧ back = rest := by
  rcases List.append_eq_append_iff.mp same with longer | shorter
  · obtain ⟨between, rfl, joined⟩ := longer
    cases between with
    | nil => exact ⟨(List.append_nil front).symm, (List.cons.inj joined).2⟩
    | cons first further =>
      have inside := (List.cons.inj joined).2
      rw [inside] at free
      exact absurd (by simp) free
  · obtain ⟨between, rfl, joined⟩ := shorter
    cases between with
    | nil => exact ⟨List.append_nil other, (List.cons.inj joined).2.symm⟩
    | cons first further =>
      have inside := (List.cons.inj joined).2
      rw [inside] at otherFree
      exact absurd (by simp) otherFree

/-- A decimal numeral contains no colon. -/
theorem noColon_decimal (n : Nat) : ascii ':' ∉ decimal n := by
  intro member
  have all : AllDigits 10 (decimal n) := allDigits_numeral (by decide) (by decide) n
  obtain ⟨digit, found, _⟩ := all (ascii ':') member
  exact (plain_of_hexValue found).2 rfl

/-- Different numbers have different numerals. -/
theorem decimal_injective {n other : Nat} (same : decimal n = decimal other) : n = other := by
  have value := congrArg (numeralValue 10) same
  rw [decimal_eq_numeral, decimal_eq_numeral, numeralValue_numeral (by decide) (by decide),
    numeralValue_numeral (by decide) (by decide)] at value
  exact value

end Separator

section Identity

variable (core : MoeCore) (utils : MoeFormat) (e f : EndPoint)

/-- The address, a colon and the port. -/
theorem toString_eq :
    e.toString core utils = e.getAddress core ++ ascii ':' :: decimal e.getPort.toNat := by
  rw [EndPoint.toString, utils.format_eq]
  have pattern : "{0}:{1}".toList = ['{', '0', '}', ':', '{', '1', '}'] := rfl
  rw [pattern]
  have first : digitOf (ascii '0') = 0 := by decide
  have second : digitOf (ascii '1') = 1 := by decide
  simp [substitute, FormatArgument.written, first, second]

variable {e f}

/-- Addresses of the two families are never written alike: `ParseIpv4` accepts
only one of them. -/
theorem getAddress_families (ipv4 : e.isIpv4 = true) (ipv6 : f.isIpv6 = true) :
    e.getAddress core ≠ f.getAddress core := by
  intro same
  have own : e.storage.family = AF_INET := of_decide_eq_true ipv4
  obtain ⟨text, written, _⟩ := formatIpv6_canonical core f.getAddressIpv6
  have holds : HoldsIpv6 f f.getAddressIpv6 := ⟨ipv6, rfl⟩
  have refused := parseIpv4_bracket (text ++ [ascii ']'])
  rw [← written, ← holds.getAddress core, ← same, EndPoint.getAddress, if_pos own,
    parseIpv4_formatIpv4] at refused
  cases refused

/-- An IPv4 address is recovered from its text. -/
theorem getAddress_ipv4 (first : e.isIpv4 = true) (second : f.isIpv4 = true)
    (same : e.getAddress core = f.getAddress core) : e.getAddressIpv4 = f.getAddressIpv4 := by
  have own : e.storage.family = AF_INET := of_decide_eq_true first
  have other : f.storage.family = AF_INET := of_decide_eq_true second
  rw [EndPoint.getAddress, EndPoint.getAddress, if_pos own, if_pos other] at same
  have parsed := parseIpv4_formatIpv4 core e.getAddressIpv4
  rw [same, parseIpv4_formatIpv4] at parsed
  exact (Option.some.inj (Except.ok.inj parsed)).symm

/-- The pieces of an IPv6 address are recovered from its text. -/
theorem getAddress_ipv6 (first : e.isIpv6 = true) (second : f.isIpv6 = true)
    (same : e.getAddress core = f.getAddress core) : e.getAddressIpv6 = f.getAddressIpv6 := by
  have holds : HoldsIpv6 e e.getAddressIpv6 := ⟨first, rfl⟩
  have others : HoldsIpv6 f f.getAddressIpv6 := ⟨second, rfl⟩
  rw [holds.getAddress core, others.getAddress core] at same
  exact formatIpv6_injective core same

/-- The text of an address shows its family. -/
theorem family_of_getAddress (known : e.isIpv4 = true ∨ e.isIpv6 = true)
    (otherKnown : f.isIpv4 = true ∨ f.isIpv6 = true)
    (same : e.getAddress core = f.getAddress core) :
    e.isIpv4 = true ∧ f.isIpv4 = true ∨ e.isIpv6 = true ∧ f.isIpv6 = true := by
  rcases known with ipv4 | ipv6
  · rcases otherKnown with also | ipv6
    · exact Or.inl ⟨ipv4, also⟩
    · exact absurd same (getAddress_families core ipv4 ipv6)
  · rcases otherKnown with ipv4 | also
    · exact absurd same.symm (getAddress_families core ipv4 ipv6)
    · exact Or.inr ⟨ipv6, also⟩

/-- An endpoint of one family is not of the other. -/
theorem notIpv6_of_ipv4 (ipv4 : e.isIpv4 = true) : ¬ e.isIpv6 = true := by
  intro ipv6
  have own : e.storage.family = AF_INET := of_decide_eq_true ipv4
  have other : e.storage.family = AF_INET6 := of_decide_eq_true ipv6
  rw [own] at other
  cases other

/-- The text depends on the family, the address and the port only. -/
theorem SameEndPoint.toString (known : e.isIpv4 = true ∨ e.isIpv6 = true)
    (same : SameEndPoint e f) : e.toString core utils = f.toString core utils := by
  have address : e.getAddress core = f.getAddress core := by
    rcases known with ipv4 | ipv6
    · have own : e.storage.family = AF_INET := of_decide_eq_true ipv4
      have other : f.storage.family = AF_INET := same.family ▸ own
      rw [EndPoint.getAddress, EndPoint.getAddress, if_pos own, if_pos other,
        same.addressIpv4 ipv4]
    · have holds : HoldsIpv6 e e.getAddressIpv6 := ⟨ipv6, rfl⟩
      have otherIpv6 : f.isIpv6 = true := by
        rw [EndPoint.isIpv6, ← same.family]
        exact ipv6
      have others : HoldsIpv6 f e.getAddressIpv6 := ⟨otherIpv6, (same.addressIpv6 ipv6).symm⟩
      rw [holds.getAddress core, others.getAddress core]
  rw [toString_eq, toString_eq, address, same.port]

/-- Two endpoints of either family have the same text exactly when they have the
same family, the same address and the same port. -/
theorem toString_identifies (known : e.isIpv4 = true ∨ e.isIpv6 = true)
    (otherKnown : f.isIpv4 = true ∨ f.isIpv6 = true) :
    e.toString core utils = f.toString core utils ↔ SameEndPoint e f := by
  constructor
  · intro same
    rw [toString_eq, toString_eq] at same
    obtain ⟨address, numeral⟩ := split_at_last (noColon_decimal _) (noColon_decimal _) same
    have port : e.getPort = f.getPort := BitVec.eq_of_toNat_eq (decimal_injective numeral)
    rcases family_of_getAddress core known otherKnown address with both | both
    · obtain ⟨first, second⟩ := both
      have own : e.storage.family = AF_INET := of_decide_eq_true first
      have other : f.storage.family = AF_INET := of_decide_eq_true second
      exact ⟨own.trans other.symm, fun _ => getAddress_ipv4 core first second address,
        fun ipv6 => absurd ipv6 (notIpv6_of_ipv4 first), port⟩
    · obtain ⟨first, second⟩ := both
      have own : e.storage.family = AF_INET6 := of_decide_eq_true first
      have other : f.storage.family = AF_INET6 := of_decide_eq_true second
      exact ⟨own.trans other.symm, fun ipv4 => absurd first (notIpv6_of_ipv4 ipv4),
        fun _ => getAddress_ipv6 core first second address, port⟩
  · exact SameEndPoint.toString core utils known

end Identity

/-- The wildcard address and the IPv6 loopback address, both with port 80. -/
theorem toString_identifies_wildcard :
    let e := EndPoint.ofIpv4 ⟨List.replicate 128 0, rfl⟩ 0 80
    let f := EndPoint.ofSockaddrIn6 ⟨List.replicate 128 0, rfl⟩
      (sockaddrIn6 #v[0, 0, 0, 0, 0, 0, 0, 1] 80)
    e.toString MoeCore.standard MoeFormat.standard = "0.0.0.0:80".toList.map ascii ∧
      f.toString MoeCore.standard MoeFormat.standard = "[::1]:80".toList.map ascii ∧
      ¬ SameEndPoint e f := by
  intro e f
  have wildcard : e.toString MoeCore.standard MoeFormat.standard =
      "0.0.0.0:80".toList.map ascii := by
    rw [toString_eq]
    decide
  have loopback : f.toString MoeCore.standard MoeFormat.standard =
      "[::1]:80".toList.map ascii := by
    rw [toString_eq]
    decide
  refine ⟨wildcard, loopback, ?_⟩
  intro same
  have texts := (toString_identifies MoeCore.standard MoeFormat.standard
    (Or.inl (by decide)) (Or.inr (by decide))).mpr same
  rw [wildcard, loopback] at texts
  revert texts
  decide

end MoeUV
