import MoeUV.EndPoint.Sockaddr
import MoeUV.EndPoint.ParseIpv4
import MoeUV.EndPoint.ParseIpv6

/-!
# Endpoint operations

The constructors, setters and getters of `EndPoint`, on the raw storage that
they share. A constructor receives the uninitialized storage of the object it
builds. Where the source builds a structure without copying it into the storage,
the definition does the same. The assertions on the address family guard no
behaviour of a release build and are left to the callers.
-/

namespace MoeUV

open Foundation.Memory

abbrev Ipv4AddressType := Vector (BitVec 8) 4

structure EndPoint where
  storage : SockaddrStorage
deriving DecidableEq

/-- How an operation on an endpoint ends when it does not return. -/
inductive EndPointFailure where
  | badFormat (exception : BadFormatException)
  | fault (fault : ParseFault)
deriving DecidableEq

/-- `(addr[0] << 24) | (addr[1] << 16) | (addr[2] << 8) | addr[3]`. -/
def packIpv4 (addr : Ipv4AddressType) : BitVec 32 :=
  (addr[0].setWidth 32 <<< 24) ||| (addr[1].setWidth 32 <<< 16) |||
    (addr[2].setWidth 32 <<< 8) ||| addr[3].setWidth 32

/-- The four masked and shifted bytes of an address. -/
def unpackIpv4 (v4 : BitVec 32) : Ipv4AddressType :=
  #v[((v4 &&& 0xFF000000) >>> 24).setWidth 8, ((v4 &&& 0xFF0000) >>> 16).setWidth 8,
    ((v4 &&& 0xFF00) >>> 8).setWidth 8, (v4 &&& 0xFF).setWidth 8]

/-- The cleared `sockaddr_in` that every IPv4 constructor and setter fills in. -/
def sockaddrIn (addr : BitVec 32) (port : BitVec 16) : SockaddrIn where
  family := AF_INET
  port := htons port
  addr := htonl addr
  zero := ⟨List.replicate 8 0, rfl⟩

/-- The high and the low byte of every piece, in order. -/
def pieceOctets (addr : Ipv6AddressType) : Region Octet 16 where
  cells := addr.toList.flatMap (fun s : BitVec 16 =>
    [((s >>> 8) &&& 0xFF).setWidth 8, (s &&& 0xFF).setWidth 8])
  sized := by simp [List.length_flatMap]

/-- The cleared `sockaddr_in6` that the IPv6 constructor and setter fill in. -/
def sockaddrIn6 (addr : Ipv6AddressType) (port : BitVec 16) : SockaddrIn6 where
  family := AF_INET6
  port := htons port
  flowinfo := 0
  addr := pieceOctets addr
  scopeId := 0

namespace EndPoint

section Getters

variable (e : EndPoint)

def isIpv4 : Bool := decide (e.storage.family = AF_INET)

def isIpv6 : Bool := decide (e.storage.family = AF_INET6)

def getAddressIpv4 : BitVec 32 :=
  if e.storage.family ≠ AF_INET then 0 else ntohl e.storage.sinAddr

def getAddressIpv4Array : Ipv4AddressType := unpackIpv4 e.getAddressIpv4

/-- Two consecutive bytes of the address as one piece. -/
def storedPiece (index : Fin 8) : BitVec 16 :=
  ((e.storage.sin6Addr ⟨2 * index.val, by omega⟩).setWidth 16 <<< 8) |||
    (e.storage.sin6Addr ⟨2 * index.val + 1, by omega⟩).setWidth 16

def getAddressIpv6 : Ipv6AddressType :=
  if e.storage.family ≠ AF_INET6 then Vector.replicate 8 0 else Vector.ofFn e.storedPiece

def getPort : BitVec 16 :=
  if e.storage.family = AF_INET then ntohs e.storage.port
  else if e.storage.family = AF_INET6 then ntohs e.storage.port
  else 0

end Getters

section Setters

variable (e : EndPoint)

def setAddressIpv4 (addr : BitVec 32) : EndPoint :=
  ⟨e.storage.copyIn (sockaddrIn addr e.getPort)⟩

def setAddressIpv4Array (addr : Ipv4AddressType) : EndPoint :=
  ⟨e.storage.copyIn (sockaddrIn (packIpv4 addr) e.getPort)⟩

/-- The structure is filled in and then dropped: the setter has no copy into
`Storage`. -/
def setAddressIpv6 (addr : Ipv6AddressType) : EndPoint :=
  let _v6 := sockaddrIn6 addr e.getPort
  e

def setPort (port : BitVec 16) : EndPoint :=
  if e.storage.family = AF_INET then ⟨e.storage.setPort (htons port)⟩
  else if e.storage.family = AF_INET6 then ⟨e.storage.setPort (htons port)⟩
  else e

/-- `SetAddress(ArrayView<char>)`: the IPv4 grammar first, then IPv6. -/
def setAddress (core : MoeCore) (addr : Text) : Except EndPointFailure EndPoint :=
  match parseIpv4 addr with
  | .error exception => .error (.badFormat exception)
  | .ok (some v4) => .ok (e.setAddressIpv4 v4)
  | .ok none =>
    match parseIpv6 core addr with
    | .error fault => .error (.fault fault)
    | .ok none => .error (.badFormat ⟨"Bad address {0}", addr⟩)
    | .ok (some v6) => .ok (e.setAddressIpv6 v6)

/-- `SetAddress(const char*)`, which stops at the first NUL of the memory. -/
def setAddressCString (core : MoeCore) (memory : Text) : Except EndPointFailure EndPoint :=
  e.setAddress core (cString memory)

end Setters

section Constructors

variable (uninitialized : SockaddrStorage)

/-- `EndPoint()`: the IPv4 wildcard address and port zero. -/
def ofDefault : EndPoint := ⟨uninitialized.copyIn (sockaddrIn 0 0)⟩

def ofSockaddrIn (ipv4 : SockaddrIn) : EndPoint := ⟨uninitialized.copyIn ipv4⟩

def ofSockaddrIn6 (ipv6 : SockaddrIn6) : EndPoint := ⟨uninitialized.copyIn6 ipv6⟩

def ofSockaddrStorage (storage : SockaddrStorage) : EndPoint := ⟨storage⟩

def ofIpv4 (addr : BitVec 32) (port : BitVec 16) : EndPoint :=
  ⟨uninitialized.copyIn (sockaddrIn addr port)⟩

def ofIpv4Array (addr : Ipv4AddressType) (port : BitVec 16) : EndPoint :=
  ⟨uninitialized.copyIn (sockaddrIn (packIpv4 addr) port)⟩

/-- As in the setter, the structure never reaches `Storage`, which stays
uninitialized. -/
def ofIpv6Array (addr : Ipv6AddressType) (port : BitVec 16) : EndPoint :=
  let _v6 := sockaddrIn6 addr port
  ⟨uninitialized⟩

/-- The text constructors: the IPv4 wildcard with the port, then `SetAddress`. -/
def ofText (core : MoeCore) (addr : Text) (port : BitVec 16) :
    Except EndPointFailure EndPoint :=
  (ofIpv4 uninitialized 0 port).setAddress core addr

end Constructors

end EndPoint

/-- The bytes of an IPv4 address, most significant first. -/
def ipv4Octets (v4 : BitVec 32) : Ipv4AddressType :=
  #v[v4.extractLsb' 24 8, v4.extractLsb' 16 8, v4.extractLsb' 8 8, v4.extractLsb' 0 8]

/-- The IPv4 address with the given bytes, most significant first. -/
def ipv4OfOctets (octets : Ipv4AddressType) : BitVec 32 :=
  word32 octets[3] octets[2] octets[1] octets[0]

/-- The pieces of a network-order IPv6 address. -/
def ipv6Pieces (octet : Fin 16 → Octet) : Ipv6AddressType :=
  Vector.ofFn fun index : Fin 8 =>
    word16 (octet ⟨2 * index.val + 1, by omega⟩) (octet ⟨2 * index.val, by omega⟩)

/-- The joined bytes are the address in big-endian order. -/
theorem packIpv4_eq (addr : Ipv4AddressType) :
    packIpv4 addr = word32 addr[3] addr[2] addr[1] addr[0] := by
  apply BitVec.eq_of_getLsbD_eq
  intro index inside
  simp only [packIpv4, word32, BitVec.getLsbD_or, BitVec.getLsbD_shiftLeft,
    BitVec.getLsbD_setWidth, BitVec.getLsbD_append]
  grind

/-- Masking, shifting and narrowing select the eight bits at a position. -/
theorem masked_octet (word mask : BitVec 32) (position : Nat)
    (selects : ∀ index < 8, mask.getLsbD (position + index) = true) :
    ((word &&& mask) >>> position).setWidth 8 = word.extractLsb' position 8 := by
  apply BitVec.eq_of_getLsbD_eq
  intro index inside
  simp only [BitVec.getLsbD_setWidth, BitVec.getLsbD_ushiftRight, BitVec.getLsbD_and,
    BitVec.getLsbD_extractLsb', selects index inside, Bool.and_true]

/-- The octets of an address, from the highest byte to the lowest. -/
theorem unpackIpv4_eq (v4 : BitVec 32) :
    unpackIpv4 v4 = #v[v4.extractLsb' 24 8, v4.extractLsb' 16 8, v4.extractLsb' 8 8,
      v4.extractLsb' 0 8] := by
  have last : (v4 &&& 0xFF).setWidth 8 = v4.extractLsb' 0 8 := by
    simpa using masked_octet v4 0xFF 0 (by decide)
  simp only [unpackIpv4, masked_octet v4 0xFF000000 24 (by decide),
    masked_octet v4 0xFF0000 16 (by decide), masked_octet v4 0xFF00 8 (by decide), last]

end MoeUV
