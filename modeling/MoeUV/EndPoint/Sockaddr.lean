import MoeUV.Foundation.Memory

/-!
# Socket address layouts

The structures `sockaddr_in` and `sockaddr_in6` overlay the first bytes of a
`sockaddr_storage`. Multi-byte fields are kept in the byte order of the host,
which is little-endian; ports and IPv4 addresses are stored in network order,
so they pass through the byte-swapping `htons` and `htonl`. A structure is
written by copying all its bytes and read field by field at its offsets.
-/

namespace MoeUV

open Foundation.Memory

def AF_INET : BitVec 16 := 2
def AF_INET6 : BitVec 16 := 10

def htons (host : BitVec 16) : BitVec 16 := swap16 host
def ntohs (network : BitVec 16) : BitVec 16 := swap16 network
def htonl (host : BitVec 32) : BitVec 32 := swap32 host
def ntohl (network : BitVec 32) : BitVec 32 := swap32 network

/-- A port is swapped there and back, -/
@[simp] theorem ntohs_htons (host : BitVec 16) : ntohs (htons host) = host := swap16_swap16 host

/-- and so is an address. -/
@[simp] theorem ntohl_htonl (host : BitVec 32) : ntohl (htonl host) = host := swap32_swap32 host

/-- `sockaddr_in`; `port` and `addr` hold what the structure holds, in network
order. -/
structure SockaddrIn where
  family : BitVec 16
  port : BitVec 16
  addr : BitVec 32
  zero : Region Octet 8
deriving DecidableEq

/-- `sockaddr_in6`; `addr` is the byte array `s6_addr`. -/
structure SockaddrIn6 where
  family : BitVec 16
  port : BitVec 16
  flowinfo : BitVec 32
  addr : Region Octet 16
  scopeId : BitVec 32
deriving DecidableEq

abbrev SockaddrStorage := Region Octet 128

def SockaddrIn.bytes (v4 : SockaddrIn) : List Octet :=
  octets16 v4.family ++ octets16 v4.port ++ octets32 v4.addr ++ v4.zero.cells

def SockaddrIn6.bytes (v6 : SockaddrIn6) : List Octet :=
  octets16 v6.family ++ octets16 v6.port ++ octets32 v6.flowinfo ++ v6.addr.cells ++
    octets32 v6.scopeId

/-- `sockaddr_in` has 16 bytes, -/
theorem SockaddrIn.bytes_length (v4 : SockaddrIn) : v4.bytes.length = 16 := by
  simp [SockaddrIn.bytes, octets16, octets32, v4.zero.sized]

/-- and `sockaddr_in6` has 28. -/
theorem SockaddrIn6.bytes_length (v6 : SockaddrIn6) : v6.bytes.length = 28 := by
  simp [SockaddrIn6.bytes, octets16, octets32, v6.addr.sized]

namespace SockaddrStorage

/-- `memcpy(&Storage, &v4, sizeof(v4))`. -/
def copyIn (storage : SockaddrStorage) (v4 : SockaddrIn) : SockaddrStorage :=
  storage.store 0 v4.bytes (by rw [v4.bytes_length]; decide)

/-- `memcpy(&Storage, &v6, sizeof(v6))`. -/
def copyIn6 (storage : SockaddrStorage) (v6 : SockaddrIn6) : SockaddrStorage :=
  storage.store 0 v6.bytes (by rw [v6.bytes_length]; decide)

/-- `ss_family`, `sin_family` and `sin6_family` share their place. -/
def family (storage : SockaddrStorage) : BitVec 16 :=
  word16 (storage.read 0) (storage.read 1)

/-- `sin_port` and `sin6_port` share their place. -/
def port (storage : SockaddrStorage) : BitVec 16 :=
  word16 (storage.read 2) (storage.read 3)

/-- `sin_addr.s_addr`. -/
def sinAddr (storage : SockaddrStorage) : BitVec 32 :=
  word32 (storage.read 4) (storage.read 5) (storage.read 6) (storage.read 7)

/-- `sin6_addr.s6_addr[index]`. -/
def sin6Addr (storage : SockaddrStorage) (index : Fin 16) : Octet :=
  storage.read ⟨8 + index.val, by omega⟩

/-- `sin6_flowinfo`. -/
def sin6Flowinfo (storage : SockaddrStorage) : BitVec 32 :=
  word32 (storage.read 4) (storage.read 5) (storage.read 6) (storage.read 7)

/-- `sin6_scope_id`. -/
def sin6ScopeId (storage : SockaddrStorage) : BitVec 32 :=
  word32 (storage.read 24) (storage.read 25) (storage.read 26) (storage.read 27)

/-- `real->sin_port = port` through a cast pointer. -/
def setPort (storage : SockaddrStorage) (port : BitVec 16) : SockaddrStorage :=
  storage.store 2 (octets16 port) (by simp [octets16])

variable (storage : SockaddrStorage)

section CopyIn

variable (v4 : SockaddrIn)

/-- The family that is read behind a copy is that of the IPv4 structure, -/
@[simp] theorem family_copyIn : (storage.copyIn v4).family = v4.family := by
  have low := storage.read_store_inside 0 v4.bytes (by rw [v4.bytes_length]; decide) 0
    (by decide) (by rw [v4.bytes_length]; decide)
  have high := storage.read_store_inside 0 v4.bytes (by rw [v4.bytes_length]; decide) 1
    (by decide) (by rw [v4.bytes_length]; decide)
  rw [family, copyIn, low, high]
  exact word16_extract v4.family

/-- and so are the port -/
@[simp] theorem port_copyIn : (storage.copyIn v4).port = v4.port := by
  have low := storage.read_store_inside 0 v4.bytes (by rw [v4.bytes_length]; decide) 2
    (by decide) (by rw [v4.bytes_length]; decide)
  have high := storage.read_store_inside 0 v4.bytes (by rw [v4.bytes_length]; decide) 3
    (by decide) (by rw [v4.bytes_length]; decide)
  rw [port, copyIn, low, high]
  exact word16_extract v4.port

/-- and the address. -/
@[simp] theorem sinAddr_copyIn : (storage.copyIn v4).sinAddr = v4.addr := by
  have read (index : Fin 128) (inside : index.val < 16) :=
    storage.read_store_inside 0 v4.bytes (by rw [v4.bytes_length]; decide) index
      (Nat.zero_le _) (by rw [v4.bytes_length]; omega)
  rw [sinAddr, copyIn, read 4 (by decide), read 5 (by decide), read 6 (by decide),
    read 7 (by decide)]
  exact word32_extract v4.addr

end CopyIn

section CopyIn6

variable (v6 : SockaddrIn6)

/-- The bytes of an IPv6 structure are those at the front of the storage. -/
theorem read_copyIn6 (index : Fin 128) (inside : index.val < v6.bytes.length) :
    (storage.copyIn6 v6).read index = v6.bytes[index.val] :=
  storage.read_store_inside 0 v6.bytes (by rw [v6.bytes_length]; decide) index
    (Nat.zero_le _) inside

/-- The family that is read behind a copy is that of the IPv6 structure, -/
@[simp] theorem family_copyIn6 : (storage.copyIn6 v6).family = v6.family := by
  have inside (index : Fin 128) (small : index.val < 28) : index.val < v6.bytes.length := by
    rw [v6.bytes_length]
    exact small
  rw [family, read_copyIn6 storage v6 0 (inside 0 (by decide)),
    read_copyIn6 storage v6 1 (inside 1 (by decide))]
  exact word16_extract v6.family

/-- and so are the port -/
@[simp] theorem port_copyIn6 : (storage.copyIn6 v6).port = v6.port := by
  have inside (index : Fin 128) (small : index.val < 28) : index.val < v6.bytes.length := by
    rw [v6.bytes_length]
    exact small
  rw [port, read_copyIn6 storage v6 2 (inside 2 (by decide)),
    read_copyIn6 storage v6 3 (inside 3 (by decide))]
  exact word16_extract v6.port

/-- and each byte of the address. -/
@[simp] theorem sin6Addr_copyIn6 (index : Fin 16) :
    (storage.copyIn6 v6).sin6Addr index = v6.addr.read index := by
  have sized := v6.addr.sized
  have inside : 8 + index.val < v6.bytes.length := by
    rw [v6.bytes_length]
    omega
  rw [sin6Addr, read_copyIn6 storage v6 ⟨8 + index.val, by omega⟩ inside]
  simp only [SockaddrIn6.bytes, octets16, octets32, Region.read, List.cons_append,
    List.nil_append, Nat.add_comm 8, List.getElem_cons_succ, List.get_eq_getElem]
  rw [List.getElem_append_left (by omega)]

end CopyIn6

section SetPort

variable (value : BitVec 16)

/-- Only the two bytes of the port are written by `SetPort`, -/
theorem read_setPort (index : Fin 128) (outside : index.val < 2 ∨ 4 ≤ index.val) :
    (storage.setPort value).read index = storage.read index :=
  storage.read_store_outside 2 (octets16 value) (by simp [octets16]) index
    (by simpa [octets16] using outside)

/-- which leaves the family, -/
@[simp] theorem family_setPort : (storage.setPort value).family = storage.family := by
  rw [family, read_setPort storage value 0 (by decide), read_setPort storage value 1 (by decide),
    family]

/-- sets the port, -/
@[simp] theorem port_setPort : (storage.setPort value).port = value := by
  have low := storage.read_store_inside 2 (octets16 value) (by simp [octets16]) 2
    (by decide) (by simp [octets16])
  have high := storage.read_store_inside 2 (octets16 value) (by simp [octets16]) 3
    (by decide) (by simp only [octets16, List.length_cons, List.length_nil]; decide)
  rw [port, setPort, low, high]
  exact word16_extract value

/-- and leaves the IPv4 address -/
@[simp] theorem sinAddr_setPort : (storage.setPort value).sinAddr = storage.sinAddr := by
  rw [sinAddr, read_setPort storage value 4 (by decide), read_setPort storage value 5 (by decide),
    read_setPort storage value 6 (by decide), read_setPort storage value 7 (by decide), sinAddr]

/-- and the IPv6 address. -/
@[simp] theorem sin6Addr_setPort (index : Fin 16) :
    (storage.setPort value).sin6Addr index = storage.sin6Addr index := by
  rw [sin6Addr, read_setPort storage value ⟨8 + index.val, by omega⟩ (Or.inr (by simp; omega)),
    sin6Addr]

end SetPort

end SockaddrStorage

end MoeUV
