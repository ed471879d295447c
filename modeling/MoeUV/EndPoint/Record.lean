import MoeUV.EndPoint.Operations
import MoeUV.Foundation.Execution

/-!
# The endpoint as an abstract record

An endpoint stands for a family, an address of that family and a port. The
record is built from the arguments of a construction and updated by the
arguments of each operation; it never looks at the storage. An endpoint agrees
with a record when its observers report exactly the record's contents.

Running both side by side shows where the code keeps the record and where it
does not: an IPv6 address given as pieces or as text is not copied into the
storage, so agreement survives such a step only when that address is already the
one in force.
-/

namespace MoeUV

open Foundation.Memory Foundation.Execution

inductive Address where
  | ipv4 (v4 : BitVec 32)
  | ipv6 (v6 : Ipv6AddressType)
deriving DecidableEq

def Address.isIpv4 : Address → Bool
  | .ipv4 _ => true
  | .ipv6 _ => false

def Address.isIpv6 : Address → Bool
  | .ipv4 _ => false
  | .ipv6 _ => true

structure EndPointRecord where
  address : Address
  port : BitVec 16
deriving DecidableEq

/-- The address that the parsers produce for a text, if they accept it. -/
def parsedAddress (core : MoeCore) (text : Text) : Option Address :=
  match parseIpv4 text with
  | .error _ => none
  | .ok (some v4) => some (.ipv4 v4)
  | .ok none =>
    match parseIpv6 core text with
    | .ok (some v6) => some (.ipv6 v6)
    | _ => none

/-- The constructors of an endpoint, with their arguments. -/
inductive Construction where
  | wildcard
  | ipv4 (addr : BitVec 32) (port : BitVec 16)
  | ipv4Array (addr : Ipv4AddressType) (port : BitVec 16)
  | ipv6Array (addr : Ipv6AddressType) (port : BitVec 16)
  | text (addr : Text) (port : BitVec 16)
  | sockaddrIn (raw : SockaddrIn)
  | sockaddrIn6 (raw : SockaddrIn6)
  | sockaddrStorage (raw : SockaddrStorage)

/-- The setters of an endpoint, with their arguments. -/
inductive EndPointOperation where
  | setAddress (addr : Text)
  | setAddressIpv4 (addr : BitVec 32)
  | setAddressIpv4Array (addr : Ipv4AddressType)
  | setAddressIpv6 (addr : Ipv6AddressType)
  | setPort (port : BitVec 16)

section Code

variable (core : MoeCore)

/-- What the constructor leaves in an object whose storage was uninitialized. -/
def Construction.run (uninitialized : SockaddrStorage) :
    Construction → Except EndPointFailure EndPoint
  | .wildcard => .ok (EndPoint.ofDefault uninitialized)
  | .ipv4 addr port => .ok (EndPoint.ofIpv4 uninitialized addr port)
  | .ipv4Array addr port => .ok (EndPoint.ofIpv4Array uninitialized addr port)
  | .ipv6Array addr port => .ok (EndPoint.ofIpv6Array uninitialized addr port)
  | .text addr port => EndPoint.ofText uninitialized core addr port
  | .sockaddrIn raw => .ok (EndPoint.ofSockaddrIn uninitialized raw)
  | .sockaddrIn6 raw => .ok (EndPoint.ofSockaddrIn6 uninitialized raw)
  | .sockaddrStorage raw => .ok (EndPoint.ofSockaddrStorage raw)

def EndPointOperation.run (e : EndPoint) : EndPointOperation → Except EndPointFailure EndPoint
  | .setAddress addr => e.setAddress core addr
  | .setAddressIpv4 addr => .ok (e.setAddressIpv4 addr)
  | .setAddressIpv4Array addr => .ok (e.setAddressIpv4Array addr)
  | .setAddressIpv6 addr => .ok (e.setAddressIpv6 addr)
  | .setPort port => .ok (e.setPort port)

end Code

section Abstract

variable (core : MoeCore)

/-- The record a constructor is asked for. There is none for a text that the
parsers refuse, or for a system structure of another family. -/
def Construction.record : Construction → Option EndPointRecord
  | .wildcard => some ⟨.ipv4 0, 0⟩
  | .ipv4 addr port => some ⟨.ipv4 addr, port⟩
  | .ipv4Array addr port => some ⟨.ipv4 (ipv4OfOctets addr), port⟩
  | .ipv6Array addr port => some ⟨.ipv6 addr, port⟩
  | .text addr port => (parsedAddress core addr).map (⟨·, port⟩)
  | .sockaddrIn raw =>
    if raw.family = AF_INET then some ⟨.ipv4 (ntohl raw.addr), ntohs raw.port⟩ else none
  | .sockaddrIn6 raw =>
    if raw.family = AF_INET6 then some ⟨.ipv6 (ipv6Pieces raw.addr.read), ntohs raw.port⟩
    else none
  | .sockaddrStorage raw =>
    if raw.family = AF_INET then some ⟨.ipv4 (ntohl raw.sinAddr), ntohs raw.port⟩
    else if raw.family = AF_INET6 then some ⟨.ipv6 (ipv6Pieces raw.sin6Addr), ntohs raw.port⟩
    else none

/-- The address an operation sets, if it is an address setter with an accepted
argument. -/
def EndPointOperation.address : EndPointOperation → Option Address
  | .setAddress text => parsedAddress core text
  | .setAddressIpv4 addr => some (.ipv4 addr)
  | .setAddressIpv4Array addr => some (.ipv4 (ipv4OfOctets addr))
  | .setAddressIpv6 addr => some (.ipv6 addr)
  | .setPort _ => none

/-- The text setter is called with a text that the parsers accept. -/
def EndPointOperation.Accepted : EndPointOperation → Prop
  | .setAddress text => (parsedAddress core text).isSome = true
  | _ => True

/-- The record after an operation: only what the operation sets is replaced. -/
def EndPointOperation.record (record : EndPointRecord) (operation : EndPointOperation) :
    EndPointRecord :=
  match operation with
  | .setPort port => { record with port := port }
  | _ => { record with address := (operation.address core).getD record.address }

/-- The abstract record alone, as a system that takes the same operations. -/
def recordSystem : System EndPointRecord EndPointOperation EndPointFailure where
  enabled _ operation := operation.Accepted core
  step record operation := .ok (operation.record core record)

/-- The endpoint and the record side by side. -/
def endPointSystem : System (EndPoint × EndPointRecord) EndPointOperation EndPointFailure where
  enabled _ operation := operation.Accepted core
  step state operation := do
    let next ← operation.run core state.1
    pure (next, operation.record core state.2)

end Abstract

/-- Every observer of the endpoint reports the contents of the record. -/
structure Agrees (e : EndPoint) (record : EndPointRecord) : Prop where
  isIpv4 : e.isIpv4 = record.address.isIpv4
  isIpv6 : e.isIpv6 = record.address.isIpv6
  addressIpv4 : ∀ v4, record.address = .ipv4 v4 →
    e.getAddressIpv4 = v4 ∧ e.getAddressIpv4Array = ipv4Octets v4
  addressIpv6 : ∀ v6, record.address = .ipv6 v6 → e.getAddressIpv6 = v6
  port : e.getPort = record.port

/-- After the construction and after every operation, whatever the storage held
before, the endpoint agrees with the record. -/
def Refines (core : MoeCore) (construction : Construction) (record : EndPointRecord)
    (operations : List EndPointOperation) : Prop :=
  ∀ uninitialized,
    ∃ e, construction.run core uninitialized = .ok e ∧
      (endPointSystem core).Throughout (fun state => Agrees state.1 state.2) (e, record) operations

/-- A constructor whose address reaches the storage: not one that is given an
IPv6 address as pieces or as text. -/
def Construction.Commits (core : MoeCore) : Construction → Prop
  | .ipv6Array _ _ => False
  | .text addr _ => ∀ v6, parsedAddress core addr ≠ some (.ipv6 v6)
  | _ => True

/-- An operation that sets no IPv6 address, or the one already in force. -/
def EndPointOperation.Commits (core : MoeCore) (record : EndPointRecord)
    (operation : EndPointOperation) : Prop :=
  ∀ v6, operation.address core = some (.ipv6 v6) → record.address = .ipv6 v6

/-- `PackIpv4` is the number that the octets stand for in network order. -/
theorem packIpv4_eq_ofOctets (addr : Ipv4AddressType) : packIpv4 addr = ipv4OfOctets addr :=
  packIpv4_eq addr

section Storage

variable (storage : SockaddrStorage)

/-- A storage of the IPv4 family shows the bytes of its IPv4 structure. -/
theorem agrees_ipv4 (family : storage.family = AF_INET) :
    Agrees ⟨storage⟩ ⟨.ipv4 (ntohl storage.sinAddr), ntohs storage.port⟩ where
  isIpv4 := by simp [EndPoint.isIpv4, family, Address.isIpv4]
  isIpv6 := by
    have other : ¬ AF_INET = AF_INET6 := by decide
    simp [EndPoint.isIpv6, family, Address.isIpv6, other]
  addressIpv4 v4 same := by
    have address : (EndPoint.mk storage).getAddressIpv4 = ntohl storage.sinAddr := by
      simp [EndPoint.getAddressIpv4, family]
    obtain rfl := Address.ipv4.inj same
    refine ⟨address, ?_⟩
    rw [EndPoint.getAddressIpv4Array, address, unpackIpv4_eq]
    rfl
  addressIpv6 v6 same := by cases same
  port := by simp [EndPoint.getPort, family]

/-- Two stored bytes are read as one piece in network order. -/
theorem storedPiece_eq (e : EndPoint) (index : Fin 8) :
    e.storedPiece index = (ipv6Pieces e.storage.sin6Addr)[index.val] := by
  simp only [ipv6Pieces, Vector.getElem_ofFn, EndPoint.storedPiece]
  exact shift_or_eq_word16 _ _

/-- A storage of the IPv6 family shows the bytes of its IPv6 structure. -/
theorem agrees_ipv6 (family : storage.family = AF_INET6) :
    Agrees ⟨storage⟩ ⟨.ipv6 (ipv6Pieces storage.sin6Addr), ntohs storage.port⟩ where
  isIpv4 := by
    have other : ¬ AF_INET6 = AF_INET := by decide
    simp [EndPoint.isIpv4, family, Address.isIpv4, other]
  isIpv6 := by simp [EndPoint.isIpv6, family, Address.isIpv6]
  addressIpv4 v4 same := by cases same
  addressIpv6 v6 same := by
    obtain rfl := Address.ipv6.inj same
    apply Vector.ext
    intro index inside
    have here := storedPiece_eq ⟨storage⟩ ⟨index, inside⟩
    simpa [EndPoint.getAddressIpv6, family] using here
  port := by
    have other : ¬ AF_INET6 = AF_INET := by decide
    simp [EndPoint.getPort, family, other]

/-- A storage that received an IPv4 structure shows exactly that structure. -/
theorem agrees_copyIn (v4 : SockaddrIn) (family : v4.family = AF_INET) :
    Agrees ⟨storage.copyIn v4⟩ ⟨.ipv4 (ntohl v4.addr), ntohs v4.port⟩ := by
  have shown := agrees_ipv4 (storage.copyIn v4) (by rw [SockaddrStorage.family_copyIn, family])
  simpa using shown

/-- The structure of the IPv4 constructors and setters, read back. -/
theorem agrees_sockaddrIn (addr : BitVec 32) (port : BitVec 16) :
    Agrees ⟨storage.copyIn (sockaddrIn addr port)⟩ ⟨.ipv4 addr, port⟩ := by
  have shown := agrees_copyIn storage (sockaddrIn addr port) rfl
  simpa [sockaddrIn] using shown

/-- A storage that received an IPv6 structure shows exactly that structure. -/
theorem agrees_copyIn6 (v6 : SockaddrIn6) (family : v6.family = AF_INET6) :
    Agrees ⟨storage.copyIn6 v6⟩ ⟨.ipv6 (ipv6Pieces v6.addr.read), ntohs v6.port⟩ := by
  have shown := agrees_ipv6 (storage.copyIn6 v6) (by rw [SockaddrStorage.family_copyIn6, family])
  have bytes : (storage.copyIn6 v6).sin6Addr = v6.addr.read := by
    funext index
    exact storage.sin6Addr_copyIn6 v6 index
  simpa [bytes] using shown

end Storage

section Operations

variable {core : MoeCore} {e : EndPoint} {record : EndPointRecord}

/-- The storage of a record with an IPv4 address carries the family of IPv4. -/
theorem Agrees.family_ipv4 (agrees : Agrees e record) {v4 : BitVec 32}
    (address : record.address = .ipv4 v4) : e.storage.family = AF_INET := by
  have reported := agrees.isIpv4
  rw [address] at reported
  exact of_decide_eq_true reported

/-- The storage of a record with an IPv6 address carries the family of IPv6. -/
theorem Agrees.family_ipv6 (agrees : Agrees e record) {v6 : Ipv6AddressType}
    (address : record.address = .ipv6 v6) : e.storage.family = AF_INET6 := by
  have reported := agrees.isIpv6
  rw [address] at reported
  exact of_decide_eq_true reported

/-- Two records that an endpoint agrees with are the same record. -/
theorem Agrees.unique {other : EndPointRecord} (agrees : Agrees e record)
    (again : Agrees e other) : record = other := by
  obtain ⟨address, port⟩ := record
  obtain ⟨address', port'⟩ := other
  obtain rfl : port = port' := agrees.port.symm.trans again.port
  have families : address.isIpv4 = address'.isIpv4 := agrees.isIpv4.symm.trans again.isIpv4
  cases address with
  | ipv4 v4 =>
    cases address' with
    | ipv4 v4' =>
      have same : v4 = v4' :=
        (agrees.addressIpv4 v4 rfl).1.symm.trans (again.addressIpv4 v4' rfl).1
      rw [same]
    | ipv6 v6' => cases families
  | ipv6 v6 =>
    cases address' with
    | ipv4 v4' => cases families
    | ipv6 v6' =>
      have same : v6 = v6' :=
        (agrees.addressIpv6 v6 rfl).symm.trans (again.addressIpv6 v6' rfl)
      rw [same]

/-- The IPv4 setter replaces the address and carries the port across, whatever
the family was before. -/
theorem Agrees.setAddressIpv4 (agrees : Agrees e record) (v4 : BitVec 32) :
    Agrees (e.setAddressIpv4 v4) { record with address := .ipv4 v4 } := by
  have shown := agrees_sockaddrIn e.storage v4 record.port
  simpa only [EndPoint.setAddressIpv4, agrees.port] using shown

/-- The port setter writes the port field of either family and nothing else. The port stands at
the same place in both structures, so the address is read as before. -/
theorem Agrees.setPort (agrees : Agrees e record) (port : BitVec 16) :
    Agrees (e.setPort port) { record with port := port } := by
  obtain ⟨address, oldPort⟩ := record
  cases address with
  | ipv4 v4 =>
    have family := agrees.family_ipv4 rfl
    have written : e.setPort port = ⟨e.storage.setPort (htons port)⟩ := by
      simp [EndPoint.setPort, family]
    have shown := agrees_ipv4 (e.storage.setPort (htons port)) (by simp [family])
    have address : ntohl e.storage.sinAddr = v4 := by
      simpa [EndPoint.getAddressIpv4, family] using (agrees.addressIpv4 v4 rfl).1
    rw [written]
    simpa [address] using shown
  | ipv6 v6 =>
    have family := agrees.family_ipv6 rfl
    have other : ¬ AF_INET6 = AF_INET := by decide
    have written : e.setPort port = ⟨e.storage.setPort (htons port)⟩ := by
      simp [EndPoint.setPort, family]
    have shown := agrees_ipv6 (e.storage.setPort (htons port)) (by simp [family])
    have bytes : (e.storage.setPort (htons port)).sin6Addr = e.storage.sin6Addr := by
      funext index
      exact e.storage.sin6Addr_setPort _ index
    have address : ipv6Pieces e.storage.sin6Addr = v6 :=
      Address.ipv6.inj (congrArg EndPointRecord.address
        ((agrees_ipv6 e.storage family).unique agrees))
    rw [written]
    simpa [bytes, address] using shown

/-- The IPv6 setter leaves the endpoint as it was, so it keeps agreement exactly
when the record already has the new address. -/
theorem Agrees.setAddressIpv6_iff (agrees : Agrees e record) (v6 : Ipv6AddressType) :
    Agrees (e.setAddressIpv6 v6) { record with address := .ipv6 v6 } ↔
      record.address = .ipv6 v6 := by
  have unchanged : e.setAddressIpv6 v6 = e := rfl
  rw [unchanged]
  constructor
  · intro again
    exact congrArg EndPointRecord.address (agrees.unique again)
  · intro same
    obtain ⟨address, port⟩ := record
    obtain rfl : address = .ipv6 v6 := same
    exact agrees

/-- A text accepted as IPv4 is passed to the IPv4 setter. -/
theorem setAddress_ipv4 {text : Text} {v4 : BitVec 32}
    (parsed : parsedAddress core text = some (.ipv4 v4)) :
    e.setAddress core text = .ok (e.setAddressIpv4 v4) := by
  simp only [parsedAddress] at parsed
  split at parsed
  · cases parsed
  · rename_i value accepted
    cases parsed
    simp only [EndPoint.setAddress, accepted]
  · split at parsed <;> cases parsed

/-- A text accepted as IPv6 is passed to the IPv6 setter. -/
theorem setAddress_ipv6 {text : Text} {v6 : Ipv6AddressType}
    (parsed : parsedAddress core text = some (.ipv6 v6)) :
    e.setAddress core text = .ok (e.setAddressIpv6 v6) := by
  simp only [parsedAddress] at parsed
  split at parsed
  · cases parsed
  · cases parsed
  · rename_i refused
    split at parsed
    · rename_i value accepted
      cases parsed
      simp only [EndPoint.setAddress, refused, accepted]
    · cases parsed

/-- An operation keeps agreement exactly when it sets no IPv6 address other than
the one in force. -/
theorem Agrees.run_iff (agrees : Agrees e record) {operation : EndPointOperation}
    (accepted : operation.Accepted core) :
    operation.Commits core record ↔
      ∃ next, operation.run core e = .ok next ∧ Agrees next (operation.record core record) := by
  cases operation with
  | setAddress text =>
    obtain ⟨address, parsed⟩ := Option.isSome_iff_exists.mp accepted
    cases address with
    | ipv4 v4 =>
      refine iff_of_true ?_ ⟨_, setAddress_ipv4 parsed, ?_⟩
      · intro v6 other
        simp [EndPointOperation.address, parsed] at other
      · simpa [EndPointOperation.record, EndPointOperation.address, parsed] using
          agrees.setAddressIpv4 v4
    | ipv6 v6 =>
      have exact := agrees.setAddressIpv6_iff v6
      simp only [EndPointOperation.Commits, EndPointOperation.run, EndPointOperation.record,
        EndPointOperation.address, setAddress_ipv6 parsed, parsed, Option.getD_some]
      constructor
      · intro commits
        exact ⟨_, rfl, exact.mpr (commits v6 rfl)⟩
      · rintro ⟨next, returned, again⟩ v6' same
        cases returned
        cases same
        exact exact.mp again
  | setAddressIpv4 addr =>
    refine iff_of_true ?_ ⟨_, rfl, agrees.setAddressIpv4 addr⟩
    intro v6 other
    cases other
  | setAddressIpv4Array addr =>
    refine iff_of_true ?_ ⟨_, rfl, ?_⟩
    · intro v6 other
      cases other
    · have shown := agrees.setAddressIpv4 (packIpv4 addr)
      rw [packIpv4_eq_ofOctets] at shown
      simpa only [EndPointOperation.record, EndPointOperation.address, Option.getD_some,
        EndPoint.setAddressIpv4Array, EndPoint.setAddressIpv4, packIpv4_eq_ofOctets] using shown
  | setAddressIpv6 addr =>
    have exact := agrees.setAddressIpv6_iff addr
    constructor
    · intro commits
      exact ⟨_, rfl, exact.mpr (commits addr rfl)⟩
    · rintro ⟨next, returned, again⟩ v6 same
      cases returned
      cases same
      exact exact.mp again
  | setPort port =>
    refine iff_of_true ?_ ⟨_, rfl, agrees.setPort port⟩
    intro v6 other
    cases other

end Operations

section Constructions

variable {core : MoeCore} {record : EndPointRecord}

/-- A storage of no address family agrees with no record. -/
theorem not_agrees_zero : ¬ Agrees ⟨⟨List.replicate 128 0, rfl⟩⟩ record := by
  intro agrees
  cases address : record.address with
  | ipv4 v4 => exact absurd (agrees.family_ipv4 address) (by decide)
  | ipv6 v6 => exact absurd (agrees.family_ipv6 address) (by decide)

/-- A construction agrees with its record over every uninitialized storage
exactly when its address reaches the storage. -/
theorem construction_agrees_iff {construction : Construction}
    (asked : construction.record core = some record) :
    construction.Commits core ↔
      ∀ uninitialized, ∃ e, construction.run core uninitialized = .ok e ∧ Agrees e record := by
  cases construction with
  | wildcard =>
    cases asked
    exact iff_of_true trivial fun storage => ⟨_, rfl, agrees_sockaddrIn storage 0 0⟩
  | ipv4 addr port =>
    cases asked
    exact iff_of_true trivial fun storage => ⟨_, rfl, agrees_sockaddrIn storage addr port⟩
  | ipv4Array addr port =>
    cases asked
    refine iff_of_true trivial fun storage => ⟨_, rfl, ?_⟩
    rw [EndPoint.ofIpv4Array, packIpv4_eq_ofOctets]
    exact agrees_sockaddrIn storage (ipv4OfOctets addr) port
  | ipv6Array addr port =>
    refine iff_of_false id ?_
    intro everywhere
    obtain ⟨e, returned, agrees⟩ := everywhere ⟨List.replicate 128 0, rfl⟩
    cases returned
    exact not_agrees_zero agrees
  | text addr port =>
    obtain ⟨address, parsed, same⟩ := Option.map_eq_some_iff.mp asked
    subst same
    cases address with
    | ipv4 v4 =>
      refine iff_of_true ?_ fun storage => ⟨_, setAddress_ipv4 parsed, ?_⟩
      · intro v6 other
        rw [parsed] at other
        cases other
      · exact (agrees_sockaddrIn storage 0 port).setAddressIpv4 v4
    | ipv6 v6 =>
      refine iff_of_false (fun commits => commits v6 parsed) ?_
      intro everywhere
      obtain ⟨e, returned, agrees⟩ := everywhere ⟨List.replicate 128 0, rfl⟩
      have unchanged : EndPoint.ofIpv4 ⟨List.replicate 128 0, rfl⟩ 0 port = e :=
        Except.ok.inj ((setAddress_ipv6 parsed).symm.trans returned)
      have wildcard := agrees_sockaddrIn ⟨List.replicate 128 0, rfl⟩ 0 port
      rw [← unchanged] at agrees
      exact absurd (wildcard.unique agrees) (by simp)
  | sockaddrIn raw =>
    simp only [Construction.record] at asked
    split at asked
    · rename_i family
      cases asked
      exact iff_of_true trivial fun storage => ⟨_, rfl, agrees_copyIn storage raw family⟩
    · cases asked
  | sockaddrIn6 raw =>
    simp only [Construction.record] at asked
    split at asked
    · rename_i family
      cases asked
      exact iff_of_true trivial fun storage => ⟨_, rfl, agrees_copyIn6 storage raw family⟩
    · cases asked
  | sockaddrStorage raw =>
    simp only [Construction.record] at asked
    split at asked
    · rename_i family
      cases asked
      exact iff_of_true trivial fun _ => ⟨_, rfl, agrees_ipv4 raw family⟩
    · split at asked
      · rename_i family
        cases asked
        exact iff_of_true trivial fun _ => ⟨_, rfl, agrees_ipv6 raw family⟩
      · cases asked

end Constructions

/-- An accepted operation returns, in whatever state it is called. -/
theorem run_total {core : MoeCore} {operation : EndPointOperation}
    (accepted : operation.Accepted core) (e : EndPoint) :
    ∃ next, operation.run core e = .ok next := by
  cases operation with
  | setAddress text =>
    obtain ⟨address, parsed⟩ := Option.isSome_iff_exists.mp accepted
    cases address with
    | ipv4 v4 => exact ⟨_, setAddress_ipv4 parsed⟩
    | ipv6 v6 => exact ⟨_, setAddress_ipv6 parsed⟩
  | setAddressIpv4 addr => exact ⟨_, rfl⟩
  | setAddressIpv4Array addr => exact ⟨_, rfl⟩
  | setAddressIpv6 addr => exact ⟨_, rfl⟩
  | setPort port => exact ⟨_, rfl⟩

/-- An operation that returns is a step of both levels at once. -/
theorem endPointSystem_step {core : MoeCore} {operation : EndPointOperation} {e next : EndPoint}
    (record : EndPointRecord) (returned : operation.run core e = .ok next) :
    (endPointSystem core).step (e, record) operation =
      .ok (next, operation.record core record) := by
  simp only [endPointSystem, returned]
  rfl

/-- From an endpoint that agrees with the record, a whole run keeps agreement
exactly when every operation commits. -/
theorem throughout_agrees_iff {core : MoeCore} {e : EndPoint} {record : EndPointRecord}
    {operations : List EndPointOperation}
    (accepted : ∀ operation ∈ operations, operation.Accepted core) (agrees : Agrees e record) :
    (endPointSystem core).Throughout (fun state => Agrees state.1 state.2) (e, record)
        operations ↔
      (recordSystem core).Guarded (fun record operation => operation.Commits core record)
        record operations := by
  have legal : (endPointSystem core).Legal (e, record) operations :=
    (endPointSystem core).legal_of_always fun operation member _ => accepted operation member
  have exact := (endPointSystem core).throughout_iff_guarded (fun _ => True)
    (fun state => Agrees state.1 state.2)
    (fun state operation => operation.Commits core state.2)
    (fun state operation _ here permitted => by
      rw [here.run_iff permitted]
      constructor
      · rintro ⟨next, returned, again⟩
        exact ⟨(next, _), endPointSystem_step state.2 returned, again⟩
      · rintro ⟨next, stepped, again⟩
        obtain ⟨after, returned⟩ := run_total permitted state.1
        obtain rfl := Except.ok.inj ((endPointSystem_step state.2 returned).symm.trans stepped)
        exact ⟨after, returned, again⟩)
    (fun _ _ _ _ _ _ _ _ => trivial) trivial agrees legal
  rw [exact]
  refine (endPointSystem core).guarded_project (recordSystem core) Prod.snd _ ?_ legal
  intro state operation permitted
  obtain ⟨after, returned⟩ := run_total permitted state.1
  exact ⟨_, endPointSystem_step state.2 returned, rfl⟩

/-- For every construction and every list of accepted operations, the endpoint
agrees with the record after every step exactly when the construction commits
its address and every operation of the abstract run sets no IPv6 address other
than the one already in force. -/
theorem refines_iff (core : MoeCore) (construction : Construction) (record : EndPointRecord)
    (operations : List EndPointOperation) (asked : construction.record core = some record)
    (accepted : ∀ operation ∈ operations, operation.Accepted core) :
    Refines core construction record operations ↔
      construction.Commits core ∧
        (recordSystem core).Guarded (fun record operation => operation.Commits core record)
          record operations := by
  rw [construction_agrees_iff asked]
  constructor
  · intro refines
    have initially (storage : SockaddrStorage) :
        ∃ e, construction.run core storage = .ok e ∧ Agrees e record := by
      obtain ⟨e, returned, throughout⟩ := refines storage
      exact ⟨e, returned, throughout.2 (e, record) ⟨[], List.nil_prefix, rfl⟩⟩
    obtain ⟨e, returned, throughout⟩ := refines ⟨List.replicate 128 0, rfl⟩
    obtain ⟨e', returned', agrees⟩ := initially ⟨List.replicate 128 0, rfl⟩
    obtain rfl : e = e' := Except.ok.inj (returned.symm.trans returned')
    exact ⟨initially, (throughout_agrees_iff accepted agrees).mp throughout⟩
  · rintro ⟨initially, guarded⟩ storage
    obtain ⟨e, returned, agrees⟩ := initially storage
    exact ⟨e, returned, (throughout_agrees_iff accepted agrees).mpr guarded⟩

/-- An endpoint of an accepted IPv4 text keeps the port and the address that are set
afterwards. -/
theorem refines_text_port :
    Refines MoeCore.standard (.text ("127.0.0.1".toList.map ascii) 80) ⟨.ipv4 0x7F000001, 80⟩
      [.setPort 8080, .setAddressIpv4 0x0A000001] := by
  refine (refines_iff _ _ _ _ (by decide) ?_).mpr ⟨?_, ?_⟩
  · intro operation member
    simp only [List.mem_cons, List.not_mem_nil, or_false] at member
    rcases member with rfl | rfl <;> trivial
  · intro v6 other
    have parsed : parsedAddress MoeCore.standard ("127.0.0.1".toList.map ascii) =
        some (.ipv4 0x7F000001) := by decide
    rw [parsed] at other
    cases other
  · simp only [System.guarded_cons, System.guarded_nil, implies_true, and_true,
      EndPointOperation.Commits, EndPointOperation.address]
    simp

/-- Setting `::1` on a default endpoint leaves the IPv4 wildcard in force. -/
theorem refines_false_loopback :
    ¬ Refines MoeCore.standard .wildcard ⟨.ipv4 0, 0⟩
      [.setAddressIpv6 #v[0, 0, 0, 0, 0, 0, 0, 1]] := by
  intro refines
  obtain ⟨e, returned, throughout⟩ := refines ⟨List.replicate 128 0, rfl⟩
  have before : Agrees e ⟨.ipv4 0, 0⟩ := throughout.2 _ ⟨[], List.nil_prefix, rfl⟩
  have after : Agrees e ⟨.ipv6 #v[0, 0, 0, 0, 0, 0, 0, 1], 0⟩ :=
    throughout.2 _ ⟨_, List.prefix_refl _, rfl⟩
  exact absurd (before.unique after) (by simp)

end MoeUV
