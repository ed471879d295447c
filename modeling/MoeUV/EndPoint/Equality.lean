import MoeUV.EndPoint.Record

/-!
# Equality of endpoints

`operator==` compares as many bytes as the structure of the common family has.
Two endpoints are equal exactly when these leading bytes agree, so the bytes
serve as the key of an endpoint. A copied structure is the key of its endpoint.
An IPv6 structure that is read as `sockaddr_in` supplies only its first sixteen
bytes; the rest of the key is what the storage held before.

Endpoints that are equal stand for the same record, since the family, the port
and the address lie among the bytes of the key.
-/

namespace MoeUV

open Foundation.Memory

/-- `memcmp` finds no difference between the leading bytes. -/
def SockaddrStorage.sameBytes (storage other : SockaddrStorage) (count : Nat) : Bool :=
  storage.cells.take count == other.cells.take count

/-- `*reinterpret_cast<sockaddr_in*>(&v6)`: the bytes of the flow information
are taken for the address. -/
def SockaddrIn6.asSockaddrIn (v6 : SockaddrIn6) : SockaddrIn where
  family := v6.family
  port := v6.port
  addr := v6.flowinfo
  zero := ⟨v6.addr.cells.take 8, by simp [v6.addr.sized]⟩

namespace EndPoint

/-- `operator==`. -/
def equals (e rhs : EndPoint) : Bool :=
  if e.storage.family ≠ rhs.storage.family then false
  else if e.storage.family = AF_INET then e.storage.sameBytes rhs.storage 16
  else if e.storage.family = AF_INET6 then e.storage.sameBytes rhs.storage 28
  else e.storage.sameBytes rhs.storage 128

/-- How many bytes the comparison looks at. -/
def extent (e : EndPoint) : Nat :=
  if e.storage.family = AF_INET then 16 else if e.storage.family = AF_INET6 then 28 else 128

/-- The bytes that the comparison looks at. -/
def key (e : EndPoint) : List Octet := e.storage.cells.take e.extent

/-- An IPv4 address is compared over 16 bytes, -/
theorem extent_ipv4 {e : EndPoint} (family : e.storage.family = AF_INET) : e.extent = 16 :=
  if_pos family

/-- and an IPv6 address over 28. -/
theorem extent_ipv6 {e : EndPoint} (family : e.storage.family = AF_INET6) : e.extent = 28 := by
  have other : ¬ AF_INET6 = AF_INET := by decide
  simp [extent, family, other]

/-- What is compared is as long as that. -/
theorem key_length (e : EndPoint) : e.key.length = e.extent := by
  have fits : e.extent ≤ 128 := by
    unfold extent
    split
    · decide
    · split
      · decide
      · exact Nat.le_refl 128
  rw [key, List.length_take, e.storage.sized, Nat.min_eq_left fits]

/-- Storages with the same leading bytes are read alike there. -/
theorem read_of_prefix {storage other : SockaddrStorage} {count : Nat}
    (same : storage.cells.take count = other.cells.take count) (index : Fin 128)
    (inside : index.val < count) : storage.read index = other.read index := by
  have agrees := congrArg (fun cells => cells[index.val]?) same
  have stored : index.val < storage.cells.length := by rw [storage.sized]; exact index.isLt
  have stored' : index.val < other.cells.length := by rw [other.sized]; exact index.isLt
  rw [List.getElem?_take_of_lt inside, List.getElem?_take_of_lt inside,
    List.getElem?_eq_getElem stored, List.getElem?_eq_getElem stored'] at agrees
  exact Option.some.inj agrees

/-- The family stands in the leading bytes. -/
theorem family_of_prefix {storage other : SockaddrStorage} {count : Nat} (enough : 2 ≤ count)
    (same : storage.cells.take count = other.cells.take count) :
    storage.family = other.family := by
  rw [SockaddrStorage.family, SockaddrStorage.family, read_of_prefix same 0 (by simp; omega),
    read_of_prefix same 1 (by simp; omega)]

/-- Endpoints that compare equal have the same family. -/
theorem family_of_key {e rhs : EndPoint} (same : e.key = rhs.key) :
    e.storage.family = rhs.storage.family := by
  have extents : e.extent = rhs.extent := by rw [← e.key_length, ← rhs.key_length, same]
  have enough : 2 ≤ e.extent := by
    unfold extent
    split
    · decide
    · split <;> decide
  apply family_of_prefix enough
  rw [key, key, ← extents] at same
  exact same

/-- Endpoints are equal when the bytes that count are. -/
theorem equals_eq (e rhs : EndPoint) : e.equals rhs = (e.key == rhs.key) := by
  by_cases families : e.storage.family = rhs.storage.family
  · have extents : e.extent = rhs.extent := by rw [extent, extent, families]
    rw [equals, if_neg (not_not_intro families), key, key, ← extents, extent]
    split
    · rfl
    · split
      · rfl
      · rfl
  · have different : ¬ e.key = rhs.key := fun same => families (family_of_key same)
    rw [equals, if_pos families, beq_eq_false_iff_ne.mpr different]

/-- `operator==` compares the bytes up to the extent. -/
theorem equals_iff (e rhs : EndPoint) : e.equals rhs = true ↔ e.key = rhs.key := by
  rw [equals_eq, beq_iff_eq]

end EndPoint

/-- Equal endpoints stand for the same family, address and port. The family is the same because
the extents are, and the port and the address are read from the bytes before the extent. -/
theorem Agrees.of_equals {e rhs : EndPoint} {record : EndPointRecord}
    (agrees : Agrees e record) (equal : e.equals rhs = true) : Agrees rhs record := by
  have same := (e.equals_iff rhs).mp equal
  have families := EndPoint.family_of_key same
  have extents : e.extent = rhs.extent := by rw [← e.key_length, ← rhs.key_length, same]
  rw [EndPoint.key, EndPoint.key, ← extents] at same
  have enough : 16 ≤ e.extent := by
    unfold EndPoint.extent
    split
    · decide
    · split <;> decide
  have read := EndPoint.read_of_prefix same
  have leading (index : Fin 128) (inside : index.val < 16) :
      e.storage.read index = rhs.storage.read index :=
    read index (Nat.lt_of_lt_of_le inside enough)
  have port : e.storage.port = rhs.storage.port := by
    rw [SockaddrStorage.port, SockaddrStorage.port, leading 2 (by decide), leading 3 (by decide)]
  cases address : record.address with
  | ipv4 v4 =>
    have family := agrees.family_ipv4 address
    have sinAddr : e.storage.sinAddr = rhs.storage.sinAddr := by
      rw [SockaddrStorage.sinAddr, SockaddrStorage.sinAddr, leading 4 (by decide),
        leading 5 (by decide), leading 6 (by decide), leading 7 (by decide)]
    have own := agrees.unique (agrees_ipv4 e.storage family)
    rw [own, sinAddr, port]
    exact agrees_ipv4 rhs.storage (families.symm.trans family)
  | ipv6 v6 =>
    have family := agrees.family_ipv6 address
    have sin6Addr : e.storage.sin6Addr = rhs.storage.sin6Addr := by
      funext index
      apply read
      rw [EndPoint.extent_ipv6 family]
      simp only
      omega
    have own := agrees.unique (agrees_ipv6 e.storage family)
    rw [own, sin6Addr, port]
    exact agrees_ipv6 rhs.storage (families.symm.trans family)

section CopiedKeys

variable (storage : SockaddrStorage)

/-- A structure that is copied in stands at the front, before what was there, -/
theorem SockaddrStorage.cells_copyIn (v4 : SockaddrIn) :
    (storage.copyIn v4).cells = v4.bytes ++ storage.cells.drop 16 := by
  simp [SockaddrStorage.copyIn, Region.store, v4.bytes_length]

/-- be it of 16 bytes or of 28. -/
theorem SockaddrStorage.cells_copyIn6 (v6 : SockaddrIn6) :
    (storage.copyIn6 v6).cells = v6.bytes ++ storage.cells.drop 28 := by
  simp [SockaddrStorage.copyIn6, Region.store, v6.bytes_length]

/-- A `sockaddr_in6` that is read as `sockaddr_in` is its first 16 bytes. -/
theorem SockaddrIn6.bytes_asSockaddrIn (v6 : SockaddrIn6) :
    v6.asSockaddrIn.bytes = v6.bytes.take 16 := by
  simp [SockaddrIn.bytes, SockaddrIn6.bytes, SockaddrIn6.asSockaddrIn, octets16, octets32,
    List.take_append, v6.addr.sized]

/-- An endpoint that is made from a structure is compared by the bytes of that structure, -/
theorem EndPoint.key_ofSockaddrIn {v4 : SockaddrIn} (family : v4.family = AF_INET) :
    (EndPoint.ofSockaddrIn storage v4).key = v4.bytes := by
  have extent : (EndPoint.ofSockaddrIn storage v4).extent = 16 :=
    EndPoint.extent_ipv4 (by rw [EndPoint.ofSockaddrIn, SockaddrStorage.family_copyIn, family])
  rw [EndPoint.key, extent, EndPoint.ofSockaddrIn, SockaddrStorage.cells_copyIn]
  exact List.take_left' v4.bytes_length

/-- in both families. -/
theorem EndPoint.key_ofSockaddrIn6 {v6 : SockaddrIn6} (family : v6.family = AF_INET6) :
    (EndPoint.ofSockaddrIn6 storage v6).key = v6.bytes := by
  have extent : (EndPoint.ofSockaddrIn6 storage v6).extent = 28 :=
    EndPoint.extent_ipv6 (by rw [EndPoint.ofSockaddrIn6, SockaddrStorage.family_copyIn6, family])
  rw [EndPoint.key, extent, EndPoint.ofSockaddrIn6, SockaddrStorage.cells_copyIn6]
  exact List.take_left' v6.bytes_length

/-- Twelve bytes of an IPv6 endpoint that was read as an IPv4 structure were in
the storage before. -/
theorem EndPoint.key_reinterpreted {v6 : SockaddrIn6} (family : v6.family = AF_INET6) :
    (EndPoint.ofSockaddrIn storage v6.asSockaddrIn).key =
      v6.bytes.take 16 ++ (storage.cells.drop 16).take 12 := by
  have kept : (storage.copyIn v6.asSockaddrIn).family = AF_INET6 := by
    rw [SockaddrStorage.family_copyIn]
    exact family
  have extent : (EndPoint.ofSockaddrIn storage v6.asSockaddrIn).extent = 28 :=
    EndPoint.extent_ipv6 kept
  have length : (v6.bytes.take 16).length = 16 := by simp [v6.bytes_length]
  rw [EndPoint.key, extent, EndPoint.ofSockaddrIn, SockaddrStorage.cells_copyIn,
    v6.bytes_asSockaddrIn, List.take_append, length, List.take_of_length_le (by omega)]

end CopiedKeys

end MoeUV
