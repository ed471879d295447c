import MoeUV.EndPoint.Equality

/-!
# What the comparison of endpoints compares

An endpoint denotes a family with an address and a port and, for IPv6, the flow
information and the scope. The comparison of the leading bytes looks at more: an
IPv4 structure ends with eight bytes that belong to no field. They are cleared
by the constructors and setters that build the structure, but a structure of the
system, or the memory that the constructor from IPv6 pieces never writes, brings
its own.

The meaning and these hidden bytes are followed through a history of a
constructor and setters, beside the storage. Two endpoints are compared as what
they denote unless they denote the same and hide different bytes.
-/

namespace MoeUV

open Foundation.Memory Foundation.Execution

namespace SockaddrStorage

variable (storage other : SockaddrStorage)

/-- `sin_zero[index]`. -/
def sinZero (index : Fin 8) : Octet := storage.read ⟨8 + index.val, by omega⟩

/-- The bytes of an IPv4 structure are its three fields and `sin_zero`. Each field is made of
some of the sixteen bytes, and each of these belongs to one field. -/
theorem take_sockaddrIn :
    storage.cells.take 16 = other.cells.take 16 ↔
      storage.family = other.family ∧ storage.port = other.port ∧
        storage.sinAddr = other.sinAddr ∧ storage.sinZero = other.sinZero := by
  rw [storage.take_eq_iff other 16]
  constructor
  · intro same
    refine ⟨?_, ?_, ?_, ?_⟩
    · rw [family, family, same 0 (by decide), same 1 (by decide)]
    · rw [port, port, same 2 (by decide), same 3 (by decide)]
    · rw [sinAddr, sinAddr, same 4 (by decide), same 5 (by decide), same 6 (by decide),
        same 7 (by decide)]
    · funext index
      exact same _ (by simp only; omega)
  · rintro ⟨families, ports, addresses, zeros⟩ ⟨index, bounded⟩ inside
    obtain ⟨zero, one⟩ := word16_inj.mp families
    obtain ⟨two, three⟩ := word16_inj.mp ports
    obtain ⟨four, five, six, seven⟩ := word32_inj.mp addresses
    by_cases tail : 8 ≤ index
    · obtain ⟨offset, rfl⟩ := Nat.exists_eq_add_of_le tail
      exact congrFun zeros ⟨offset, by simp only at inside; omega⟩
    · have head : index = 0 ∨ index = 1 ∨ index = 2 ∨ index = 3 ∨ index = 4 ∨ index = 5 ∨
          index = 6 ∨ index = 7 := by omega
      rcases head with rfl | rfl | rfl | rfl | rfl | rfl | rfl | rfl
      · exact zero
      · exact one
      · exact two
      · exact three
      · exact four
      · exact five
      · exact six
      · exact seven

/-- The bytes of an IPv6 structure are its five fields. Each field is made of some of the 28
bytes, and each of these belongs to one field. -/
theorem take_sockaddrIn6 :
    storage.cells.take 28 = other.cells.take 28 ↔
      storage.family = other.family ∧ storage.port = other.port ∧
        storage.sin6Flowinfo = other.sin6Flowinfo ∧ storage.sin6Addr = other.sin6Addr ∧
        storage.sin6ScopeId = other.sin6ScopeId := by
  rw [storage.take_eq_iff other 28]
  constructor
  · intro same
    refine ⟨?_, ?_, ?_, ?_, ?_⟩
    · rw [family, family, same 0 (by decide), same 1 (by decide)]
    · rw [port, port, same 2 (by decide), same 3 (by decide)]
    · rw [sin6Flowinfo, sin6Flowinfo, same 4 (by decide), same 5 (by decide),
        same 6 (by decide), same 7 (by decide)]
    · funext index
      exact same _ (by simp only; omega)
    · rw [sin6ScopeId, sin6ScopeId, same 24 (by decide), same 25 (by decide),
        same 26 (by decide), same 27 (by decide)]
  · rintro ⟨families, ports, flows, addresses, scopes⟩ ⟨index, bounded⟩ inside
    obtain ⟨zero, one⟩ := word16_inj.mp families
    obtain ⟨two, three⟩ := word16_inj.mp ports
    obtain ⟨four, five, six, seven⟩ := word32_inj.mp flows
    obtain ⟨first, second, third, fourth⟩ := word32_inj.mp scopes
    by_cases middle : 8 ≤ index ∧ index < 24
    · obtain ⟨offset, rfl⟩ := Nat.exists_eq_add_of_le middle.1
      exact congrFun addresses ⟨offset, by omega⟩
    · simp only at inside
      have outer : index = 0 ∨ index = 1 ∨ index = 2 ∨ index = 3 ∨ index = 4 ∨ index = 5 ∨
          index = 6 ∨ index = 7 ∨ index = 24 ∨ index = 25 ∨ index = 26 ∨ index = 27 := by omega
      rcases outer with rfl | rfl | rfl | rfl | rfl | rfl | rfl | rfl | rfl | rfl | rfl | rfl
      · exact zero
      · exact one
      · exact two
      · exact three
      · exact four
      · exact five
      · exact six
      · exact seven
      · exact first
      · exact second
      · exact third
      · exact fourth

end SockaddrStorage

/-- What an endpoint denotes. Storage of another family denotes no address. -/
inductive Meaning where
  | ipv4 (addr : BitVec 32) (port : BitVec 16)
  | ipv6 (addr : Ipv6AddressType) (port : BitVec 16) (flowinfo scopeId : BitVec 32)
  | neither (family : BitVec 16)
deriving DecidableEq

/-- The port; without an address it is zero. -/
def Meaning.port : Meaning → BitVec 16
  | .ipv4 _ port => port
  | .ipv6 _ port _ _ => port
  | .neither _ => 0

namespace EndPoint

/-- `operator!=`. -/
def notEquals (e rhs : EndPoint) : Bool := !e.equals rhs

/-- The meaning as the observers report it. -/
def meaning (e : EndPoint) : Meaning :=
  if e.isIpv4 then .ipv4 e.getAddressIpv4 e.getPort
  else if e.isIpv6 then
    .ipv6 e.getAddressIpv6 e.getPort e.storage.sin6Flowinfo e.storage.sin6ScopeId
  else .neither e.storage.family

/-- A system structure of the family AF_INET means its address and its port, in the order of the
host. -/
theorem meaning_ipv4 {e : EndPoint} (family : e.storage.family = AF_INET) :
    e.meaning = .ipv4 (ntohl e.storage.sinAddr) (ntohs e.storage.port) := by
  simp [meaning, isIpv4, getAddressIpv4, getPort, family]

/-- One of the family AF_INET6 means its pieces, its port, its flow information and its scope. -/
theorem meaning_ipv6 {e : EndPoint} (family : e.storage.family = AF_INET6) :
    e.meaning = .ipv6 (ipv6Pieces e.storage.sin6Addr) (ntohs e.storage.port)
      e.storage.sin6Flowinfo e.storage.sin6ScopeId := by
  have other : ¬ AF_INET6 = AF_INET := by decide
  have shown := agrees_ipv6 e.storage family
  simp only [meaning, isIpv4, isIpv6, family, other, decide_false, decide_true,
    Bool.false_eq_true, if_false, if_true]
  rw [shown.addressIpv6 _ rfl, shown.port]

/-- One of another family means nothing but the family. -/
theorem meaning_neither {e : EndPoint} (notIpv4 : e.storage.family ≠ AF_INET)
    (notIpv6 : e.storage.family ≠ AF_INET6) : e.meaning = .neither e.storage.family := by
  simp [meaning, isIpv4, isIpv6, notIpv4, notIpv6]

end EndPoint

/-- The comparison is the comparison of what is denoted, and its negation. -/
structure ComparesMeanings (e rhs : EndPoint) : Prop where
  equal : e.equals rhs = true ↔ e.meaning = rhs.meaning
  unequal : e.notEquals rhs = true ↔ e.meaning ≠ rhs.meaning

/-- The pieces of an IPv6 address determine its bytes. -/
theorem ipv6Pieces_inj {octet octet' : Fin 16 → Octet} :
    ipv6Pieces octet = ipv6Pieces octet' ↔ octet = octet' := by
  constructor
  · intro same
    have pair (index : Fin 8) :
        octet ⟨2 * index.val + 1, by omega⟩ = octet' ⟨2 * index.val + 1, by omega⟩ ∧
          octet ⟨2 * index.val, by omega⟩ = octet' ⟨2 * index.val, by omega⟩ := by
      have piece := congrArg (fun pieces : Ipv6AddressType => pieces[index.val]) same
      simp only [ipv6Pieces, Vector.getElem_ofFn] at piece
      exact word16_inj.mp piece
    funext place
    obtain ⟨index, bounded⟩ := place
    rcases Nat.even_or_odd' index with ⟨half, rfl | rfl⟩
    · exact (pair ⟨half, by omega⟩).2
    · exact (pair ⟨half, by omega⟩).1
  · rintro rfl
    rfl

/-- No port is lost when its bytes are swapped, -/
theorem ntohs_inj {network network' : BitVec 16} :
    ntohs network = ntohs network' ↔ network = network' := by
  constructor
  · intro same
    rw [← swap16_swap16 network, ← swap16_swap16 network']
    exact congrArg swap16 same
  · rintro rfl
    rfl

/-- and no address. -/
theorem ntohl_inj {network network' : BitVec 32} :
    ntohl network = ntohl network' ↔ network = network' := by
  constructor
  · intro same
    rw [← swap32_swap32 network, ← swap32_swap32 network']
    exact congrArg swap32 same
  · rintro rfl
    rfl

section Comparison

/-- The address family of a meaning. -/
def Meaning.family : Meaning → BitVec 16
  | .ipv4 _ _ => AF_INET
  | .ipv6 _ _ _ _ => AF_INET6
  | .neither family => family

/-- The meaning tells the family. -/
theorem EndPoint.family_meaning (e : EndPoint) : e.meaning.family = e.storage.family := by
  by_cases ipv4 : e.storage.family = AF_INET
  · rw [EndPoint.meaning_ipv4 ipv4, ipv4]
    rfl
  · by_cases ipv6 : e.storage.family = AF_INET6
    · rw [EndPoint.meaning_ipv6 ipv6, ipv6]
      rfl
    · rw [EndPoint.meaning_neither ipv4 ipv6]
      rfl

/-- The bytes outside the meaning that the comparison looks at are the same. -/
def HidesSame (e rhs : EndPoint) : Prop :=
  match e.meaning with
  | .ipv4 _ _ => e.storage.sinZero = rhs.storage.sinZero
  | .ipv6 _ _ _ _ => True
  | .neither _ => e.storage = rhs.storage

variable {e rhs : EndPoint}

/-- Equal endpoints denote the same and hide the same bytes, and conversely. The family decides
which fields count; of an unknown family nothing is denoted, and all its bytes are hidden. -/
theorem equals_iff_meaning :
    e.equals rhs = true ↔ e.meaning = rhs.meaning ∧ HidesSame e rhs := by
  rw [e.equals_iff]
  by_cases families : e.storage.family = rhs.storage.family
  · by_cases ipv4 : e.storage.family = AF_INET
    · have ipv4' := families.symm.trans ipv4
      rw [EndPoint.key, EndPoint.key, EndPoint.extent_ipv4 ipv4, EndPoint.extent_ipv4 ipv4',
        SockaddrStorage.take_sockaddrIn, HidesSame, EndPoint.meaning_ipv4 ipv4,
        EndPoint.meaning_ipv4 ipv4', Meaning.ipv4.injEq, ntohl_inj, ntohs_inj]
      constructor
      · rintro ⟨_, port, addr, zero⟩
        exact ⟨⟨addr, port⟩, zero⟩
      · rintro ⟨⟨addr, port⟩, zero⟩
        exact ⟨families, port, addr, zero⟩
    · by_cases ipv6 : e.storage.family = AF_INET6
      · have ipv6' := families.symm.trans ipv6
        rw [EndPoint.key, EndPoint.key, EndPoint.extent_ipv6 ipv6, EndPoint.extent_ipv6 ipv6',
          SockaddrStorage.take_sockaddrIn6, HidesSame, EndPoint.meaning_ipv6 ipv6,
          EndPoint.meaning_ipv6 ipv6', Meaning.ipv6.injEq, ipv6Pieces_inj, ntohs_inj]
        constructor
        · rintro ⟨_, port, flow, addr, scope⟩
          exact ⟨⟨addr, port, flow, scope⟩, trivial⟩
        · rintro ⟨⟨addr, port, flow, scope⟩, _⟩
          exact ⟨families, port, flow, addr, scope⟩
      · have whole (storage : SockaddrStorage) : storage.cells.take 128 = storage.cells :=
          List.take_of_length_le (Nat.le_of_eq storage.sized)
        have extent : e.extent = 128 := by simp [EndPoint.extent, ipv4, ipv6]
        have extent' : rhs.extent = 128 := by simp [EndPoint.extent, ← families, ipv4, ipv6]
        rw [EndPoint.key, EndPoint.key, extent, extent', whole, whole, HidesSame,
          EndPoint.meaning_neither ipv4 ipv6, EndPoint.meaning_neither
            (families ▸ ipv4) (families ▸ ipv6), ← families]
        constructor
        · intro same
          refine ⟨rfl, ?_⟩
          obtain ⟨⟨cells, sized⟩⟩ := e
          obtain ⟨⟨cells', sized'⟩⟩ := rhs
          obtain rfl : cells = cells' := same
          rfl
        · rintro ⟨_, same⟩
          exact congrArg Region.cells same
  · refine iff_of_false (fun same => families (EndPoint.family_of_key same)) ?_
    rintro ⟨same, _⟩
    apply families
    rw [← e.family_meaning, ← rhs.family_meaning, same]

/-- The comparison is right unless the endpoints denote the same and hide
different bytes. -/
theorem comparesMeanings_iff :
    ComparesMeanings e rhs ↔ (e.meaning = rhs.meaning → HidesSame e rhs) := by
  constructor
  · intro compares same
    exact (equals_iff_meaning.mp (compares.equal.mpr same)).2
  · intro hides
    have equal : e.equals rhs = true ↔ e.meaning = rhs.meaning := by
      rw [equals_iff_meaning]
      exact ⟨fun both => both.1, fun same => ⟨same, hides same⟩⟩
    refine ⟨equal, ?_⟩
    rw [EndPoint.notEquals, Bool.not_eq_true', ← Bool.not_eq_true, equal]

end Comparison

section History

/-- The setters for an IPv4 address and for the port. -/
inductive EndPointSetter where
  | setAddressIpv4 (addr : BitVec 32)
  | setAddressIpv4Array (addr : Ipv4AddressType)
  | setPort (port : BitVec 16)

def EndPointSetter.run (e : EndPoint) : EndPointSetter → EndPoint
  | .setAddressIpv4 addr => e.setAddressIpv4 addr
  | .setAddressIpv4Array addr => e.setAddressIpv4Array addr
  | .setPort port => e.setPort port

/-- What the setter makes of a meaning. -/
def EndPointSetter.meaning (before : Meaning) : EndPointSetter → Meaning
  | .setAddressIpv4 addr => .ipv4 addr before.port
  | .setAddressIpv4Array addr => .ipv4 (ipv4OfOctets addr) before.port
  | .setPort port =>
    match before with
    | .ipv4 addr _ => .ipv4 addr port
    | .ipv6 addr _ flowinfo scopeId => .ipv6 addr port flowinfo scopeId
    | .neither family => .neither family

/-- The IPv4 setters build a cleared structure. -/
def EndPointSetter.clears : EndPointSetter → Bool
  | .setAddressIpv4 _ => true
  | .setAddressIpv4Array _ => true
  | .setPort _ => false

/-- What the constructed endpoint denotes. The constructor from IPv6 pieces
leaves the uninitialized storage to be read, and an IPv6 text leaves the IPv4
wildcard. There is nothing for a text that the parsers refuse, or for a system
structure of another family. -/
def Construction.meaning (core : MoeCore) (uninitialized : SockaddrStorage) :
    Construction → Option Meaning
  | .wildcard => some (.ipv4 0 0)
  | .ipv4 addr port => some (.ipv4 addr port)
  | .ipv4Array addr port => some (.ipv4 (ipv4OfOctets addr) port)
  | .ipv6Array _ _ => some (EndPoint.mk uninitialized).meaning
  | .text addr port =>
    match parsedAddress core addr with
    | none => none
    | some (.ipv4 v4) => some (.ipv4 v4 port)
    | some (.ipv6 _) => some (.ipv4 0 port)
  | .sockaddrIn raw =>
    if raw.family = AF_INET then some (.ipv4 (ntohl raw.addr) (ntohs raw.port)) else none
  | .sockaddrIn6 raw =>
    if raw.family = AF_INET6 then
      some (.ipv6 (ipv6Pieces raw.addr.read) (ntohs raw.port) raw.flowinfo raw.scopeId)
    else none
  | .sockaddrStorage raw =>
    if raw.family = AF_INET ∨ raw.family = AF_INET6 then some (EndPoint.mk raw).meaning
    else none

/-- The bytes at the place of `sin_zero` that the construction brings in. -/
def Construction.sinZero (uninitialized : SockaddrStorage) : Construction → Fin 8 → Octet
  | .ipv6Array _ _ => uninitialized.sinZero
  | .sockaddrIn raw => raw.zero.read
  | .sockaddrIn6 raw => fun index => raw.addr.read ⟨index.val, by omega⟩
  | .sockaddrStorage raw => raw.sinZero
  | _ => fun _ => 0

/-- A constructor and the setters called on the object since. -/
structure EndPointHistory where
  construction : Construction
  setters : List EndPointSetter

namespace EndPointHistory

variable (core : MoeCore) (uninitialized : SockaddrStorage) (history : EndPointHistory)

/-- The endpoint that the history leaves. -/
def run : Except EndPointFailure EndPoint := do
  let e ← history.construction.run core uninitialized
  pure (history.setters.foldl EndPointSetter.run e)

/-- What it denotes. -/
def meaning : Option Meaning :=
  (history.construction.meaning core uninitialized).map fun initial =>
    history.setters.foldl EndPointSetter.meaning initial

/-- The bytes of `sin_zero`: those the construction brought in, unless an IPv4
setter has cleared them. -/
def sinZero : Fin 8 → Octet :=
  if history.setters.any EndPointSetter.clears then fun _ => 0
  else history.construction.sinZero uninitialized

end EndPointHistory

end History

section Following

variable {e : EndPoint}

/-- The meaning tells what `GetPort` returns. -/
theorem port_meaning (e : EndPoint) : e.meaning.port = e.getPort := by
  by_cases ipv4 : e.storage.family = AF_INET
  · simp [EndPoint.meaning_ipv4 ipv4, Meaning.port, EndPoint.getPort, ipv4]
  · by_cases ipv6 : e.storage.family = AF_INET6
    · have other : ¬ AF_INET6 = AF_INET := by decide
      simp [EndPoint.meaning_ipv6 ipv6, Meaning.port, EndPoint.getPort, ipv6, other]
    · simp [EndPoint.meaning_neither ipv4 ipv6, Meaning.port, EndPoint.getPort, ipv4, ipv6]

section Copies

variable (storage : SockaddrStorage)

/-- The padding is that of the structure that was copied in, whatever that was. -/
theorem sinZero_copyIn (v4 : SockaddrIn) : (storage.copyIn v4).sinZero = v4.zero.read := by
  funext index
  have sized := v4.zero.sized
  have inside : 8 + index.val < v4.bytes.length := by
    rw [v4.bytes_length]
    omega
  rw [SockaddrStorage.sinZero, SockaddrStorage.copyIn,
    storage.read_store_inside 0 v4.bytes (by rw [v4.bytes_length]; decide) ⟨8 + index.val, by omega⟩
      (Nat.zero_le _) inside]
  simp only [SockaddrIn.bytes, octets16, octets32, Region.read, List.cons_append, List.nil_append,
    Nat.add_comm 8, Nat.sub_zero, List.getElem_cons_succ, List.get_eq_getElem]

/-- Where an IPv4 address has its padding, an IPv6 address has the first half of its own. -/
theorem sinZero_copyIn6 (v6 : SockaddrIn6) (index : Fin 8) :
    (storage.copyIn6 v6).sinZero index = v6.addr.read ⟨index.val, by omega⟩ :=
  storage.sin6Addr_copyIn6 v6 ⟨index.val, by omega⟩

/-- A cleared structure leaves no trace of what the storage held. -/
theorem sinZero_sockaddrIn (addr : BitVec 32) (port : BitVec 16) :
    (storage.copyIn (sockaddrIn addr port)).sinZero = fun _ => 0 := by
  rw [sinZero_copyIn]
  funext index
  simp only [sockaddrIn, Region.read, List.get_eq_getElem, List.getElem_replicate]

/-- A structure of the family AF_INET means itself when it has been copied in, -/
theorem meaning_copyIn {v4 : SockaddrIn} (family : v4.family = AF_INET) :
    (EndPoint.mk (storage.copyIn v4)).meaning = .ipv4 (ntohl v4.addr) (ntohs v4.port) := by
  rw [EndPoint.meaning_ipv4 (by rw [SockaddrStorage.family_copyIn, family]),
    SockaddrStorage.sinAddr_copyIn, SockaddrStorage.port_copyIn]

/-- in particular one that the constructors make from an address and a port. -/
theorem meaning_sockaddrIn (addr : BitVec 32) (port : BitVec 16) :
    (EndPoint.mk (storage.copyIn (sockaddrIn addr port))).meaning = .ipv4 addr port := by
  rw [meaning_copyIn storage rfl, sockaddrIn, ntohl_htonl, ntohs_htons]

/-- So does one of the family AF_INET6. -/
theorem meaning_copyIn6 {v6 : SockaddrIn6} (family : v6.family = AF_INET6) :
    (EndPoint.mk (storage.copyIn6 v6)).meaning =
      .ipv6 (ipv6Pieces v6.addr.read) (ntohs v6.port) v6.flowinfo v6.scopeId := by
  have read := storage.read_copyIn6 v6
  have length := v6.bytes_length
  have bytes : (storage.copyIn6 v6).sin6Addr = v6.addr.read := by
    funext index
    exact storage.sin6Addr_copyIn6 v6 index
  have flowinfo : (storage.copyIn6 v6).sin6Flowinfo = v6.flowinfo := by
    rw [SockaddrStorage.sin6Flowinfo, read 4 (by rw [length]; decide),
      read 5 (by rw [length]; decide), read 6 (by rw [length]; decide),
      read 7 (by rw [length]; decide)]
    exact word32_extract v6.flowinfo
  have scopeId : (storage.copyIn6 v6).sin6ScopeId = v6.scopeId := by
    have front : (octets16 v6.family ++ octets16 v6.port ++ octets32 v6.flowinfo ++
        v6.addr.cells).length = 24 := by
      simp [octets16, octets32, v6.addr.sized]
    have last (index : Fin 128) (above : 24 ≤ index.val) (below : index.val < 28) :
        (storage.copyIn6 v6).read index =
          (octets32 v6.scopeId).get ⟨index.val - 24, by simp [octets32]; omega⟩ := by
      rw [read index (by omega), List.get_eq_getElem]
      simp only [SockaddrIn6.bytes]
      rw [List.getElem_append_right (by omega)]
      congr 1
      omega
    rw [SockaddrStorage.sin6ScopeId, last 24 (by decide) (by decide),
      last 25 (by decide) (by decide), last 26 (by decide) (by decide),
      last 27 (by decide) (by decide)]
    exact word32_extract v6.scopeId
  rw [EndPoint.meaning_ipv6 (by rw [SockaddrStorage.family_copyIn6, family]), bytes, flowinfo,
    scopeId, SockaddrStorage.port_copyIn6]

/-- Writing the port changes no other field. -/
theorem read_setPort_after {index : Fin 128} (port : BitVec 16) (after : 4 ≤ index.val) :
    (storage.setPort port).read index = storage.read index :=
  storage.read_setPort port index (Or.inr after)

/-- A port that is written does not touch the padding. -/
theorem sinZero_setPort (port : BitVec 16) : (storage.setPort port).sinZero = storage.sinZero := by
  funext index
  exact read_setPort_after storage port (by simp only; omega)

end Copies

/-- The IPv4 setter carries the port across. -/
theorem meaning_setAddressIpv4 (v4 : BitVec 32) :
    (e.setAddressIpv4 v4).meaning = .ipv4 v4 e.meaning.port := by
  rw [EndPoint.setAddressIpv4, meaning_sockaddrIn, port_meaning]

/-- `SetPort` does to the meaning what it says. -/
theorem meaning_setPort (port : BitVec 16) :
    (e.setPort port).meaning = (EndPointSetter.setPort port).meaning e.meaning := by
  by_cases ipv4 : e.storage.family = AF_INET
  · have written : e.setPort port = ⟨e.storage.setPort (htons port)⟩ := by
      simp [EndPoint.setPort, ipv4]
    rw [written, EndPoint.meaning_ipv4 (by simpa using ipv4), EndPoint.meaning_ipv4 ipv4]
    simp [EndPointSetter.meaning]
  · by_cases ipv6 : e.storage.family = AF_INET6
    · have written : e.setPort port = ⟨e.storage.setPort (htons port)⟩ := by
        simp [EndPoint.setPort, ipv6]
      have bytes : (e.storage.setPort (htons port)).sin6Addr = e.storage.sin6Addr := by
        funext index
        exact e.storage.sin6Addr_setPort _ index
      have flowinfo : (e.storage.setPort (htons port)).sin6Flowinfo = e.storage.sin6Flowinfo :=
        e.storage.sinAddr_setPort _
      have scopeId : (e.storage.setPort (htons port)).sin6ScopeId = e.storage.sin6ScopeId := by
        simp only [SockaddrStorage.sin6ScopeId]
        rw [read_setPort_after e.storage _ (by decide), read_setPort_after e.storage _ (by decide),
          read_setPort_after e.storage _ (by decide), read_setPort_after e.storage _ (by decide)]
      rw [written, EndPoint.meaning_ipv6 (by simpa using ipv6), EndPoint.meaning_ipv6 ipv6]
      simp [EndPointSetter.meaning, bytes, flowinfo, scopeId]
    · have unwritten : e.setPort port = e := by simp [EndPoint.setPort, ipv4, ipv6]
      rw [unwritten, EndPoint.meaning_neither ipv4 ipv6]
      rfl

/-- It leaves the padding as it was, be it zero or not. -/
theorem sinZero_setPort_run (port : BitVec 16) :
    (e.setPort port).storage.sinZero = e.storage.sinZero := by
  simp only [EndPoint.setPort]
  split
  · exact sinZero_setPort e.storage _
  · split
    · exact sinZero_setPort e.storage _
    · rfl

/-- Storage of no address family is left alone by the port setter. -/
theorem setPort_neither {port : BitVec 16} {family : BitVec 16}
    (neither : e.meaning = .neither family) : e.setPort port = e := by
  by_cases ipv4 : e.storage.family = AF_INET
  · rw [EndPoint.meaning_ipv4 ipv4] at neither
    cases neither
  · by_cases ipv6 : e.storage.family = AF_INET6
    · rw [EndPoint.meaning_ipv6 ipv6] at neither
      cases neither
    · simp [EndPoint.setPort, ipv4, ipv6]

variable (setter : EndPointSetter)

/-- Each of the setters does to the meaning what it says. -/
theorem EndPointSetter.meaning_run :
    (setter.run e).meaning = setter.meaning e.meaning := by
  cases setter with
  | setAddressIpv4 addr => exact meaning_setAddressIpv4 addr
  | setAddressIpv4Array addr =>
    have shown := meaning_setAddressIpv4 (e := e) (packIpv4 addr)
    rw [packIpv4_eq_ofOctets] at shown
    simpa only [EndPointSetter.run, EndPoint.setAddressIpv4Array, EndPointSetter.meaning,
      EndPoint.setAddressIpv4, packIpv4_eq_ofOctets] using shown
  | setPort port => exact meaning_setPort port

/-- The padding is zero behind those that write the whole structure, and stays behind the others.
-/
theorem EndPointSetter.sinZero_run :
    (setter.run e).storage.sinZero =
      if setter.clears then fun _ => 0 else e.storage.sinZero := by
  cases setter with
  | setAddressIpv4 addr => exact sinZero_sockaddrIn e.storage addr e.getPort
  | setAddressIpv4Array addr => exact sinZero_sockaddrIn e.storage (packIpv4 addr) e.getPort
  | setPort port => exact sinZero_setPort_run port

/-- What the run leads to no address family began there, and nothing was written. -/
theorem EndPointSetter.run_neither {family : BitVec 16}
    (neither : (setter.run e).meaning = .neither family) :
    setter.run e = e := by
  rw [setter.meaning_run] at neither
  cases setter with
  | setAddressIpv4 addr => cases neither
  | setAddressIpv4Array addr => cases neither
  | setPort port =>
    cases before : e.meaning with
    | ipv4 addr old =>
      rw [before] at neither
      cases neither
    | ipv6 addr old flowinfo scopeId =>
      rw [before] at neither
      cases neither
    | neither other => exact setPort_neither before

variable (setters : List EndPointSetter)

/-- The setters of a history act on the meaning and on the hidden bytes as
they act on the storage. -/
theorem setters_run :
    (setters.foldl EndPointSetter.run e).meaning =
        setters.foldl EndPointSetter.meaning e.meaning ∧
      (setters.foldl EndPointSetter.run e).storage.sinZero =
        (if setters.any EndPointSetter.clears then fun _ => 0 else e.storage.sinZero) ∧
      ∀ family, (setters.foldl EndPointSetter.run e).meaning = .neither family →
        setters.foldl EndPointSetter.run e = e := by
  induction setters generalizing e with
  | nil => exact ⟨rfl, rfl, fun _ _ => rfl⟩
  | cons setter rest inductionHypothesis =>
    obtain ⟨denotes, hides, unwritten⟩ := inductionHypothesis (e := setter.run e)
    simp only [List.foldl_cons, List.any_cons]
    refine ⟨?_, ?_, ?_⟩
    · rw [denotes, setter.meaning_run]
    · rw [hides, setter.sinZero_run]
      by_cases cleared : setter.clears = true
      · simp [cleared]
      · simp [cleared]
    · intro family neither
      have rested := unwritten family neither
      rw [rested] at neither ⊢
      exact setter.run_neither neither

end Following

section Histories

variable {core : MoeCore} {uninitialized : SockaddrStorage}

/-- A constructor leaves the meaning and the hidden bytes stated for it; an
endpoint of no address family is the uninitialized storage. -/
theorem construction_denotes {construction : Construction} {meaning : Meaning}
    (denotes : construction.meaning core uninitialized = some meaning) :
    ∃ e, construction.run core uninitialized = .ok e ∧ e.meaning = meaning ∧
      e.storage.sinZero = construction.sinZero uninitialized ∧
      ∀ family, meaning = .neither family → e = ⟨uninitialized⟩ := by
  cases construction with
  | wildcard =>
    cases denotes
    exact ⟨_, rfl, meaning_sockaddrIn uninitialized 0 0, sinZero_sockaddrIn uninitialized 0 0,
      fun _ neither => by cases neither⟩
  | ipv4 addr port =>
    cases denotes
    exact ⟨_, rfl, meaning_sockaddrIn uninitialized addr port,
      sinZero_sockaddrIn uninitialized addr port, fun _ neither => by cases neither⟩
  | ipv4Array addr port =>
    cases denotes
    have shown := meaning_sockaddrIn uninitialized (packIpv4 addr) port
    rw [packIpv4_eq_ofOctets] at shown
    refine ⟨_, rfl, ?_, sinZero_sockaddrIn uninitialized (packIpv4 addr) port,
      fun _ neither => by cases neither⟩
    rw [EndPoint.ofIpv4Array, packIpv4_eq_ofOctets]
    exact shown
  | ipv6Array addr port =>
    cases denotes
    exact ⟨_, rfl, rfl, rfl, fun _ _ => rfl⟩
  | text addr port =>
    simp only [Construction.meaning] at denotes
    split at denotes
    · cases denotes
    · rename_i v4 parsed
      cases denotes
      refine ⟨_, setAddress_ipv4 parsed, ?_, sinZero_sockaddrIn _ v4 _,
        fun _ neither => by cases neither⟩
      rw [meaning_setAddressIpv4, EndPoint.ofIpv4, meaning_sockaddrIn]
      rfl
    · rename_i v6 parsed
      cases denotes
      exact ⟨_, setAddress_ipv6 parsed, meaning_sockaddrIn uninitialized 0 port,
        sinZero_sockaddrIn uninitialized 0 port, fun _ neither => by cases neither⟩
  | sockaddrIn raw =>
    simp only [Construction.meaning] at denotes
    split at denotes
    · rename_i family
      cases denotes
      exact ⟨_, rfl, meaning_copyIn uninitialized family, sinZero_copyIn uninitialized raw,
        fun _ neither => by cases neither⟩
    · cases denotes
  | sockaddrIn6 raw =>
    simp only [Construction.meaning] at denotes
    split at denotes
    · rename_i family
      cases denotes
      refine ⟨_, rfl, meaning_copyIn6 uninitialized family, ?_, fun _ neither => by cases neither⟩
      funext index
      exact sinZero_copyIn6 uninitialized raw index
    · cases denotes
  | sockaddrStorage raw =>
    simp only [Construction.meaning] at denotes
    split at denotes
    · rename_i families
      refine ⟨_, rfl, Option.some.inj denotes, rfl, ?_⟩
      rintro family rfl
      have shown := (EndPoint.mk raw).family_meaning
      rcases families with ipv4 | ipv6
      · rw [EndPoint.meaning_ipv4 ipv4] at denotes
        cases denotes
      · rw [EndPoint.meaning_ipv6 ipv6] at denotes
        cases denotes
    · cases denotes

namespace EndPointHistory

/-- A history whose construction denotes something returns an endpoint with the
meaning and the hidden bytes of the history. -/
theorem run_denotes {history : EndPointHistory}
    (proper : (history.meaning core uninitialized).isSome = true) :
    ∃ e, history.run core uninitialized = .ok e ∧
      history.meaning core uninitialized = some e.meaning ∧
      e.storage.sinZero = history.sinZero uninitialized ∧
      ∀ family, e.meaning = .neither family → e = ⟨uninitialized⟩ := by
  obtain ⟨meaning, denotes⟩ := Option.isSome_iff_exists.mp proper
  obtain ⟨initial, begins, same⟩ := Option.map_eq_some_iff.mp denotes
  obtain ⟨e, constructed, shown, hidden, untouched⟩ := construction_denotes begins
  obtain ⟨after, hides, unwritten⟩ := setters_run (e := e) history.setters
  refine ⟨history.setters.foldl EndPointSetter.run e, ?_, ?_, ?_, ?_⟩
  · rw [run, constructed]
    rfl
  · rw [denotes, after, shown, same]
  · rw [hides, hidden, sinZero]
  · intro family neither
    have kept := unwritten family neither
    rw [kept] at neither ⊢
    exact untouched family (shown.symm.trans neither)

end EndPointHistory

end Histories

/-- Both histories return, and the endpoints are compared as what they denote. -/
def ComparesHistories (core : MoeCore) (first second : EndPointHistory)
    (uninitialized uninitialized' : SockaddrStorage) : Prop :=
  ∃ e rhs, first.run core uninitialized = .ok e ∧ second.run core uninitialized' = .ok rhs ∧
    ComparesMeanings e rhs

/-- The endpoints of two histories are compared as what they denote exactly when
these two cases are excluded: the same IPv4 address and port with different
bytes of `sin_zero`, and two uninitialized storages of the same unknown family
with different contents. -/
theorem compares_iff (core : MoeCore) (first second : EndPointHistory)
    (uninitialized uninitialized' : SockaddrStorage)
    (proper : (first.meaning core uninitialized).isSome = true)
    (proper' : (second.meaning core uninitialized').isSome = true) :
    ComparesHistories core first second uninitialized uninitialized' ↔
      (∀ addr port, first.meaning core uninitialized = some (.ipv4 addr port) →
        second.meaning core uninitialized' = some (.ipv4 addr port) →
        first.sinZero uninitialized = second.sinZero uninitialized') ∧
      ∀ family, first.meaning core uninitialized = some (.neither family) →
        second.meaning core uninitialized' = some (.neither family) →
        uninitialized = uninitialized' := by
  obtain ⟨e, returned, denotes, hidden, untouched⟩ := EndPointHistory.run_denotes proper
  obtain ⟨rhs, returned', denotes', hidden', untouched'⟩ := EndPointHistory.run_denotes proper'
  have objects : ComparesHistories core first second uninitialized uninitialized' ↔
      ComparesMeanings e rhs := by
    constructor
    · rintro ⟨other, other', again, again', compares⟩
      obtain rfl := Except.ok.inj (returned.symm.trans again)
      obtain rfl := Except.ok.inj (returned'.symm.trans again')
      exact compares
    · exact fun compares => ⟨e, rhs, returned, returned', compares⟩
  rw [objects, comparesMeanings_iff, denotes, denotes', ← hidden, ← hidden']
  simp only [Option.some.injEq]
  constructor
  · intro hides
    constructor
    · intro addr port same same'
      have hides := hides (same.trans same'.symm)
      rw [HidesSame, same] at hides
      exact hides
    · intro family same same'
      have hides := hides (same.trans same'.symm)
      rw [HidesSame, same, untouched family same, untouched' family same'] at hides
      exact hides
  · rintro ⟨cleared, whole⟩ same
    rw [HidesSame]
    cases shown : e.meaning with
    | ipv4 addr port => exact cleared addr port shown (same.symm.trans shown)
    | ipv6 addr port flowinfo scopeId => trivial
    | neither family =>
      have shown' := same.symm.trans shown
      simp only
      rw [untouched family shown, untouched' family shown', whole family shown shown']

/-- A system structure with cleared padding equals the endpoint of the same
address and port. -/
theorem compares_cleared :
    ComparesHistories MoeCore.standard ⟨.ipv4 0x7F000001 80, []⟩
      ⟨.sockaddrIn (sockaddrIn 0x7F000001 80), [.setPort 80]⟩
      ⟨List.replicate 128 0, rfl⟩ ⟨List.replicate 128 0, rfl⟩ := by
  refine (compares_iff _ _ _ _ _ (by decide) (by decide)).mpr ⟨?_, ?_⟩
  · intro addr port _ _
    funext index
    revert index
    decide
  · rintro family ⟨⟩

/-- A structure with one byte set behind the address differs from the endpoint
of the same address and port. -/
theorem compares_false_padding :
    ¬ ComparesHistories MoeCore.standard ⟨.ipv4 0x7F000001 80, []⟩
      ⟨.sockaddrIn { sockaddrIn 0x7F000001 80 with zero := ⟨[1, 0, 0, 0, 0, 0, 0, 0], rfl⟩ }, []⟩
      ⟨List.replicate 128 0, rfl⟩ ⟨List.replicate 128 0, rfl⟩ := by
  rintro ⟨e, rhs, returned, returned', compares⟩
  cases returned
  cases returned'
  have different := compares.equal.mpr (by decide)
  exact absurd different (by decide)

end MoeUV
