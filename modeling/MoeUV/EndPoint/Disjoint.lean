import MoeUV.EndPoint.Validation

/-!
# One outcome for every text

`SetAddress` tries the IPv4 grammar and then the IPv6 grammar on the same text.
Of three outcomes every text has exactly one: it is an IPv4 address and no IPv6
address, it is an IPv6 address that `ParseIpv4` refuses without an exception, or
the setter throws and the endpoint keeps its storage.

The setter is stated once more as a computation on the object, so that the
endpoint which a thrown exception leaves behind is part of the result.
-/

namespace MoeUV

open Foundation.Memory Foundation.Loop Foundation.Execution

/-- `SetAddress(ArrayView<char>)` on the object `*this`. -/
def setAddressOn (core : MoeCore) (addr : Text) : ExceptT EndPointFailure (StateM EndPoint) Unit :=
  match parseIpv4 addr with
  | .error exception => throw (.badFormat exception)
  | .ok (some v4) => modify fun e => e.setAddressIpv4 v4
  | .ok none =>
    match parseIpv6 core addr with
    | .error fault => throw (.fault fault)
    | .ok none => throw (.badFormat ⟨"Bad address {0}", addr⟩)
    | .ok (some v6) => modify fun e => e.setAddressIpv6 v6

section

variable (core : MoeCore) (e : EndPoint) (text : Text)

/-- The object after a call that returns is the endpoint which the setter
returns; after a call that throws it is the object from before. -/
theorem setAddressOn_run : (setAddressOn core text).run.run e =
    match e.setAddress core text with
    | .ok next => (.ok (), next)
    | .error failure => (.error failure, e) := by
  unfold setAddressOn EndPoint.setAddress
  cases parseIpv4 text with
  | error exception => rfl
  | ok value =>
    cases value with
    | some v4 => rfl
    | none =>
      cases parseIpv6 core text with
      | error fault => rfl
      | ok result =>
        cases result with
        | none => rfl
        | some v6 => rfl

/-- The text is an IPv4 address and no IPv6 address. -/
def OnlyIpv4 : Prop := (∃ v4, parseIpv4 text = .ok (some v4)) ∧ parseIpv6 core text = .ok none

/-- The text is an IPv6 address, and `ParseIpv4` returns false on it. -/
def OnlyIpv6 : Prop := parseIpv4 text = .ok none ∧ ∃ v6, parseIpv6 core text = .ok (some v6)

/-- `ParseIpv6` returns false, and the setter throws and changes nothing. -/
def Rejected : Prop :=
  parseIpv6 core text = .ok none ∧
    ∃ exception, (setAddressOn core text).run.run e = (.error (.badFormat exception), e)

variable {core e text}

/-- A text that only `ParseIpv4` accepts passes its grammar and not the other. -/
theorem OnlyIpv4.passes (only : OnlyIpv4 core text) : PassesIpv4 text ∧ ¬ PassesIpv6 text := by
  obtain ⟨⟨v4, parsed⟩, refused⟩ := only
  constructor
  · by_contra fails
    rcases parseIpv4_fails fails with none | ⟨exception, thrown⟩
    · rw [parsed] at none
      cases none
    · rw [parsed] at thrown
      cases thrown
  · intro passes
    obtain ⟨v6, accepted⟩ := parseIpv6_passes core passes
    rw [refused] at accepted
    cases accepted

/-- A text that only `ParseIpv6` accepts passes its grammar. -/
theorem OnlyIpv6.passes (only : OnlyIpv6 core text) : PassesIpv6 text := by
  obtain ⟨_, v6, parsed⟩ := only
  by_contra fails
  rw [parseIpv6_fails core fails] at parsed
  cases parsed

/-- A rejected text passes neither grammar. -/
theorem Rejected.fails (rejected : Rejected core e text) :
    ¬ (PassesIpv4 text ∨ PassesIpv6 text) := by
  obtain ⟨_, exception, thrown⟩ := rejected
  intro passes
  obtain ⟨next, returned⟩ := setAddress_passes core e passes
  rw [setAddressOn_run, returned] at thrown
  cases thrown

/-- An IPv4 text and an IPv6 text are never the same. -/
theorem not_passes_both (ipv4 : PassesIpv4 text) : ¬ PassesIpv6 text := by
  intro ipv6
  obtain ⟨v4, parsed⟩ := parseIpv4_passes ipv4
  rw [parseIpv4_of_passesIpv6 ipv6] at parsed
  cases parsed

/-- The IPv4 setter carries the port across from either family, and the port of
an endpoint of no family is zero before and after. -/
@[simp] theorem getPort_setAddressIpv4 (v4 : BitVec 32) :
    (e.setAddressIpv4 v4).getPort = e.getPort := by
  simp only [EndPoint.setAddressIpv4, EndPoint.getPort, SockaddrStorage.family_copyIn,
    SockaddrStorage.port_copyIn, sockaddrIn, ntohs_htons, if_true]

/-- A setter that returns keeps the port. -/
theorem getPort_setAddress {next : EndPoint} (returned : e.setAddress core text = .ok next) :
    next.getPort = e.getPort := by
  simp only [EndPoint.setAddress] at returned
  split at returned
  · cases returned
  · cases returned
    exact getPort_setAddressIpv4 _
  · split at returned
    · cases returned
    · cases returned
    · cases returned
      rfl

/-- No call of the setter changes the port, whether it returns or throws. -/
theorem getPort_setAddressOn : ((setAddressOn core text).run.run e).2.getPort = e.getPort := by
  rw [setAddressOn_run]
  cases returned : e.setAddress core text with
  | error failure => rfl
  | ok next => exact getPort_setAddress returned

end

/-- For every endpoint and every text, NUL bytes included, exactly one of the
three outcomes holds, and the port is the same afterwards. -/
theorem setAddress_outcome (core : MoeCore) (e : EndPoint) (text : Text) :
    (OnlyIpv4 core text ∧ ¬ OnlyIpv6 core text ∧ ¬ Rejected core e text ∨
      ¬ OnlyIpv4 core text ∧ OnlyIpv6 core text ∧ ¬ Rejected core e text ∨
      ¬ OnlyIpv4 core text ∧ ¬ OnlyIpv6 core text ∧ Rejected core e text) ∧
    ((setAddressOn core text).run.run e).2.getPort = e.getPort := by
  refine ⟨?_, getPort_setAddressOn⟩
  by_cases ipv4 : PassesIpv4 text
  · left
    have only := parseIpv6_fails core (not_passes_both ipv4)
    exact ⟨⟨parseIpv4_passes ipv4, only⟩, fun six => not_passes_both ipv4 six.passes,
      fun rejected => rejected.fails (Or.inl ipv4)⟩
  · right
    by_cases ipv6 : PassesIpv6 text
    · left
      exact ⟨fun four => ipv4 four.passes.1,
        ⟨parseIpv4_of_passesIpv6 ipv6, parseIpv6_passes core ipv6⟩,
        fun rejected => rejected.fails (Or.inr ipv6)⟩
    · right
      have fails : ¬ (PassesIpv4 text ∨ PassesIpv6 text) := not_or.mpr ⟨ipv4, ipv6⟩
      obtain ⟨exception, thrown⟩ := setAddress_fails core e fails
      refine ⟨fun four => ipv4 four.passes.1, fun six => ipv6 six.passes,
        parseIpv6_fails core ipv6, exception, ?_⟩
      rw [setAddressOn_run, thrown]

end MoeUV
