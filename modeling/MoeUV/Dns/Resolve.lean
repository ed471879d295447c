import MoeUV.EndPoint.Equality
import MoeUV.Failure
import MoeUV.Foundation.Distinct
import Mathlib.Data.List.Forall2

/-!
# Address resolution

The completion of `uv_getaddrinfo` walks through the nodes that the resolver
found. One endpoint is carried through the loop and assigned at every node of a
known family. `Resolve` leaves the loop at the first node; `ResolveAll` appends
the carried endpoint to the result unless an equal one is there.

Every temporary endpoint is built in uninitialized memory, and appending to the
result may fail for want of memory. Both are supplied from outside: what the
temporary's storage held, by the nodes that were left when it was built, and
whether there was room, by the result so far.

A resolution is faithful when it reports the endpoints of the nodes, converted
completely. The IPv6 branch converts only sixteen bytes, and a node of another
family does not assign the carried endpoint, which at the beginning is the IPv4
wildcard. The theorem says for which lists neither can be seen.
-/

namespace MoeUV

open Foundation.Memory Foundation.Distinct

/-- A node of the resolver's list. Its `ai_addr` is a complete structure of the
family `ai_family`. -/
inductive AddrInfo where
  | inet (addr : SockaddrIn) (family : addr.family = AF_INET)
  | inet6 (addr : SockaddrIn6) (family : addr.family = AF_INET6)
  | other
deriving DecidableEq

/-- Which of the two callbacks a request carries. -/
inductive ResolveMode where
  | one
  | all
deriving DecidableEq

/-- The arguments of the callback; an `EmptyRefOf` refers to no value. -/
inductive Resolution where
  | one (status : Int) (endPoint : Option EndPoint)
  | all (status : Int) (endPoints : Option (List EndPoint))
deriving DecidableEq

/-- The uninitialized memory and the allocator. -/
structure ResolveMemory where
  ep : SockaddrStorage
  temporary : List AddrInfo → SockaddrStorage
  room : List EndPoint → Bool

namespace UVGetAddrInfoReq

section Code

variable (memory : ResolveMemory)

/-- The carried endpoint after the branches on `ai_family`. -/
def assign (uninitialized : SockaddrStorage) (ep : EndPoint) : AddrInfo → EndPoint
  | .inet addr _ => .ofSockaddrIn uninitialized addr
  | .inet6 addr _ => .ofSockaddrIn uninitialized addr.asSockaddrIn
  | .other => ep

/-- The report after the loop. -/
def finish (ep : EndPoint) (result : List EndPoint) : ResolveMode → Resolution
  | .one => .one 0 (some ep)
  | .all => .all 0 (some result)

/-- The loop over the nodes. -/
def scan (mode : ResolveMode) (ep : EndPoint) (result : List EndPoint) :
    List AddrInfo → Resolution
  | [] => finish ep result mode
  | node :: next =>
    let ep := assign (memory.temporary (node :: next)) ep node
    match mode with
    | .one => finish ep result .one
    | .all =>
      if result.any (·.equals ep) then scan .all ep result next
      else if memory.room result then scan .all ep (result ++ [ep]) next
      else .all UV_ENOMEM none

/-- `UVGetAddrInfoReq::Callback`. -/
def callback (mode : ResolveMode) (status : Int) (res : List AddrInfo) : Resolution :=
  if status ≠ 0 then
    match mode with
    | .one => .one status none
    | .all => .all status none
  else scan memory mode (EndPoint.ofDefault memory.ep) [] res

end Code

end UVGetAddrInfoReq

section Specification

/-- Storage of which every byte is zero. -/
def blankStorage : SockaddrStorage := ⟨List.replicate 128 0, List.length_replicate⟩

/-- The endpoint of a node: its whole structure, for the two known families. -/
def AddrInfo.endPoint? : AddrInfo → Option EndPoint
  | .inet addr _ => some (.ofSockaddrIn blankStorage addr)
  | .inet6 addr _ => some (.ofSockaddrIn6 blankStorage addr)
  | .other => none

/-- The endpoints of a list, in its order and with its repetitions. -/
def endPoints (nodes : List AddrInfo) : List EndPoint := nodes.filterMap AddrInfo.endPoint?

/-- Endpoint by endpoint, the two lists are equal under `operator==`. -/
def SameEndPoints : List EndPoint → List EndPoint → Prop :=
  List.Forall₂ fun reported expected => reported.equals expected = true

/-- What a resolution of status zero promises: with `Resolve` the first endpoint
of the list, with `ResolveAll` every endpoint once, in order of first appearance.
Only a failed allocation is an excuse, and it is reported as one. -/
def Faithful (memory : ResolveMemory) (nodes : List AddrInfo) : Resolution → Prop
  | .one status reported =>
    status = 0 ∧
      ∃ ep first, reported = some ep ∧ (endPoints nodes).head? = some first ∧
        ep.equals first = true
  | .all status reported =>
    (status = 0 ∧
      ∃ result, reported = some result ∧
        SameEndPoints result ((endPoints nodes).eraseDupsBy EndPoint.equals)) ∨
    (status = UV_ENOMEM ∧ reported = none ∧ ∃ result, memory.room result = false)

/-- The list begins with an IPv4 node. -/
def StartsWithInet (nodes : List AddrInfo) : Prop :=
  ∃ addr family rest, nodes = .inet addr family :: rest

/-- The first endpoint of the list is the IPv4 wildcard with port zero. -/
def StartsWithWildcard (nodes : List AddrInfo) : Prop :=
  ∃ first, (endPoints nodes).head? = some first ∧
    first.equals (EndPoint.ofDefault blankStorage) = true

/-- `Resolve` shows neither the short copy nor the initial value of the carried
endpoint; `ResolveAll` must convert every node, and has nothing to show for the
empty list. -/
def Harmless (nodes : List AddrInfo) : ResolveMode → Prop
  | .one => StartsWithInet nodes ∨ StartsWithWildcard nodes
  | .all =>
    (∀ addr family, AddrInfo.inet6 addr family ∉ nodes) ∧
      (nodes = [] ∨ StartsWithInet nodes ∨ StartsWithWildcard nodes)

end Specification

section Keys

/-- An endpoint that is default-constructed is 0.0.0.0:0, whatever was in its storage. -/
theorem key_ofDefault (uninitialized : SockaddrStorage) :
    (EndPoint.ofDefault uninitialized).key = (sockaddrIn 0 0).bytes :=
  EndPoint.key_ofSockaddrIn uninitialized rfl

/-- The search for an endpoint in the list compares what `operator==` compares. -/
theorem any_equals (result : List EndPoint) (ep : EndPoint) :
    result.any (·.equals ep) = decide (ep.key ∈ result.map EndPoint.key) := by
  rw [Bool.eq_iff_iff, List.any_eq_true, decide_eq_true_iff, List.mem_map]
  simp only [EndPoint.equals_iff]

/-- Two lists are the same when their endpoints compare equal one by one. -/
theorem sameEndPoints_iff (reported expected : List EndPoint) :
    SameEndPoints reported expected ↔ reported.map EndPoint.key = expected.map EndPoint.key := by
  have equality : reported.map EndPoint.key = expected.map EndPoint.key ↔
      List.Forall₂ (· = ·) (reported.map EndPoint.key) (expected.map EndPoint.key) := by
    rw [List.forall₂_eq_eq_eq]
  rw [equality, List.forall₂_map_left_iff, List.forall₂_map_right_iff]
  simp only [SameEndPoints, EndPoint.equals_iff]

/-- The endpoints that `ResolveAll` owes, by their keys. -/
theorem expected_keys (nodes : List AddrInfo) :
    ((endPoints nodes).eraseDupsBy EndPoint.equals).map EndPoint.key =
      ((endPoints nodes).map EndPoint.key).eraseDups :=
  map_eraseDupsBy EndPoint.key EndPoint.equals EndPoint.equals_eq (endPoints nodes)

end Keys

namespace UVGetAddrInfoReq

section Loop

variable (memory : ResolveMemory)

/-- The carried endpoint after each node. -/
def carried (ep : EndPoint) : List AddrInfo → List EndPoint
  | [] => []
  | node :: next =>
    let ep := assign (memory.temporary (node :: next)) ep node
    ep :: carried ep next

/-- The result collects the carried endpoints, each key once. -/
theorem scan_all (ep : EndPoint) (result : List EndPoint) (nodes : List AddrInfo) :
    (∃ collected, scan memory .all ep result nodes = .all 0 (some collected) ∧
      collected.map EndPoint.key =
        ((carried memory ep nodes).map EndPoint.key).foldl keep (result.map EndPoint.key)) ∨
    (scan memory .all ep result nodes = .all UV_ENOMEM none ∧
      ∃ collected, memory.room collected = false) := by
  induction nodes generalizing ep result with
  | nil => exact Or.inl ⟨result, rfl, rfl⟩
  | cons node next inductionHypothesis =>
    simp only [scan, carried, List.map_cons, List.foldl_cons, any_equals, decide_eq_true_eq]
    generalize assign (memory.temporary (node :: next)) ep node = after
    by_cases met : after.key ∈ result.map EndPoint.key
    · rw [if_pos met, keep_of_mem met]
      exact inductionHypothesis after result
    · rw [if_neg met]
      cases room : memory.room result with
      | true =>
        have step := inductionHypothesis after (result ++ [after])
        rw [List.map_append, List.map_singleton] at step
        rw [keep, if_neg met]
        simpa using step
      | false => exact Or.inr ⟨by simp, result, room⟩

/-- Without IPv6 nodes the carried endpoints have the keys of the list, besides
the key that is carried already. -/
theorem carried_keep (ep : EndPoint) (kept : List (List Octet)) (nodes : List AddrInfo)
    (narrow : ∀ addr family, AddrInfo.inet6 addr family ∉ nodes) (met : ep.key ∈ kept) :
    ((carried memory ep nodes).map EndPoint.key).foldl keep kept =
      ((endPoints nodes).map EndPoint.key).foldl keep kept := by
  induction nodes generalizing ep kept with
  | nil => rfl
  | cons node next inductionHypothesis =>
    have narrowNext : ∀ addr family, AddrInfo.inet6 addr family ∉ next := by
      intro addr family member
      exact narrow addr family (List.mem_cons_of_mem node member)
    cases node with
    | inet addr family =>
      simp only [carried, assign, endPoints, List.filterMap_cons, AddrInfo.endPoint?,
        List.map_cons, List.foldl_cons, EndPoint.key_ofSockaddrIn _ family]
      apply inductionHypothesis _ _ narrowNext
      rw [EndPoint.key_ofSockaddrIn _ family]
      exact mem_keep kept addr.bytes
    | inet6 addr family => exact absurd List.mem_cons_self (narrow addr family)
    | other =>
      simp only [carried, assign, endPoints, List.filterMap_cons, AddrInfo.endPoint?,
        List.map_cons, List.foldl_cons, keep_of_mem met]
      exact inductionHypothesis ep kept narrowNext met

/-- The key of an IPv6 endpoint. -/
def wide (key : List Octet) : Bool := decide (key.length = 28)

/-- A `sockaddr_in6` does not fit into the storage of a `sockaddr_in`, -/
theorem wide_bytes (v6 : SockaddrIn6) : wide v6.bytes = true := by
  simp [wide, v6.bytes_length]

/-- and a `sockaddr_in` does. -/
theorem narrow_bytes (v4 : SockaddrIn) : wide v4.bytes = false := by
  simp [wide, v4.bytes_length]

/-- The first IPv6 node: the list shows its whole structure, the carried
endpoints its first sixteen bytes and what the temporary held before. -/
theorem first_inet6 (nodes : List AddrInfo)
    (present : ∃ addr family, AddrInfo.inet6 addr family ∈ nodes) :
    ∃ v6 : SockaddrIn6, ∃ left,
      ((endPoints nodes).map EndPoint.key).find? wide = some v6.bytes ∧
      ∀ memory ep, wide ep.key = false →
        ((carried memory ep nodes).map EndPoint.key).find? wide =
          some (v6.bytes.take 16 ++ ((memory.temporary left).cells.drop 16).take 12) := by
  obtain ⟨addr, family, member⟩ := present
  induction nodes with
  | nil => cases member
  | cons node next inductionHypothesis =>
    cases node with
    | inet here own =>
      have later : AddrInfo.inet6 addr family ∈ next := by simpa using member
      obtain ⟨v6, left, expected, reported⟩ := inductionHypothesis later
      refine ⟨v6, left, ?_, ?_⟩
      · simpa [endPoints, AddrInfo.endPoint?, EndPoint.key_ofSockaddrIn _ own,
          narrow_bytes here] using expected
      · intro memory ep narrow
        have narrowHere (storage : SockaddrStorage) :
            wide (EndPoint.ofSockaddrIn storage here).key = false := by
          rw [EndPoint.key_ofSockaddrIn storage own, narrow_bytes here]
        rw [carried, List.map_cons, List.find?_cons_of_neg (by simp [assign, narrowHere])]
        exact reported memory _ (narrowHere _)
    | inet6 here own =>
      refine ⟨here, .inet6 here own :: next, ?_, ?_⟩
      · simp [endPoints, AddrInfo.endPoint?, EndPoint.key_ofSockaddrIn6 _ own, wide_bytes here]
      · intro memory ep narrow
        have length (storage : SockaddrStorage) :
            wide (EndPoint.ofSockaddrIn storage here.asSockaddrIn).key = true := by
          simp [EndPoint.key_reinterpreted storage own, wide, here.bytes_length, storage.sized]
        rw [carried, List.map_cons, assign, List.find?_cons_of_pos (length _),
          EndPoint.key_reinterpreted _ own]
    | other =>
      have later : AddrInfo.inet6 addr family ∈ next := by simpa using member
      obtain ⟨v6, left, expected, reported⟩ := inductionHypothesis later
      refine ⟨v6, left, ?_, ?_⟩
      · simpa [endPoints, AddrInfo.endPoint?] using expected
      · intro memory ep narrow
        rw [carried, List.map_cons, List.find?_cons_of_neg (by simp [assign, narrow])]
        exact reported memory ep narrow

end Loop

section Garbage

/-- Memory filled with one byte, and an allocator that never fails. -/
def filledMemory (byte : Octet) : ResolveMemory where
  ep := ⟨List.replicate 128 byte, List.length_replicate⟩
  temporary _ := ⟨List.replicate 128 byte, List.length_replicate⟩
  room _ := true

/-- A byte of the IPv6 address that the copy leaves out. -/
def leftOut (v6 : SockaddrIn6) : Octet := v6.addr.read 8

/-- The first byte that is not copied is one of the address. -/
theorem bytes_leftOut (v6 : SockaddrIn6) : v6.bytes[16]? = some (leftOut v6) := by
  have sized := v6.addr.sized
  simp only [SockaddrIn6.bytes, octets16, octets32, List.cons_append, List.nil_append,
    List.getElem?_cons_succ]
  rw [List.getElem?_append_left (by omega), List.getElem?_eq_getElem (by omega)]
  rfl

/-- Other memory than the missing byte shows in the key. -/
theorem filled_ne (v6 : SockaddrIn6) (byte : Octet) (other : byte ≠ leftOut v6)
    (left : List AddrInfo) :
    v6.bytes.take 16 ++ (((filledMemory byte).temporary left).cells.drop 16).take 12 ≠
      v6.bytes := by
  intro same
  have there := congrArg (fun key => key[16]?) same
  rw [bytes_leftOut] at there
  have here : (v6.bytes.take 16 ++
      (((filledMemory byte).temporary left).cells.drop 16).take 12)[16]? = some byte := by
    simp [v6.bytes_length, filledMemory]
  exact other (Option.some.inj (here.symm.trans there))

/-- Any byte has another that differs from it. -/
theorem successor_ne (byte : Octet) : byte + 1 ≠ byte := by
  intro same
  have value := congrArg BitVec.toNat same
  simp only [BitVec.toNat_add] at value
  have bounded := byte.isLt
  have one : (1 : Octet).toNat = 1 := rfl
  omega

end Garbage

end UVGetAddrInfoReq

section Reports

open UVGetAddrInfoReq

/-- A faithful `ResolveAll` has met the keys of the list in their order. -/
theorem faithful_all_iff (memory : ResolveMemory) (nodes : List AddrInfo)
    (room : ∀ result, memory.room result = true) :
    Faithful memory nodes (callback memory .all 0 nodes) ↔
      ((carried memory (EndPoint.ofDefault memory.ep) nodes).map EndPoint.key).eraseDups =
        ((endPoints nodes).map EndPoint.key).eraseDups := by
  rcases scan_all memory (EndPoint.ofDefault memory.ep) [] nodes with collected | failed
  · obtain ⟨result, scanned, keys⟩ := collected
    have report : callback memory .all 0 nodes = .all 0 (some result) := scanned
    rw [List.map_nil, foldl_keep_nil] at keys
    rw [report, ← keys, ← expected_keys, ← sameEndPoints_iff]
    simp [Faithful, UV_ENOMEM]
  · obtain ⟨result, none⟩ := failed.2
    rw [room result] at none
    cases none

/-- The loop of `ResolveAll` starts with the wildcard in hand. A first node of another family
leaves it there, and it is then the first endpoint of the list as well, so that both loops keep
the same keys. -/
theorem carried_keys (memory : ResolveMemory) (nodes : List AddrInfo)
    (harmless : Harmless nodes .all) :
    ((carried memory (EndPoint.ofDefault memory.ep) nodes).map EndPoint.key).foldl keep [] =
      ((endPoints nodes).map EndPoint.key).foldl keep [] := by
  obtain ⟨narrow, start⟩ := harmless
  cases nodes with
  | nil => rfl
  | cons node next =>
    have narrowNext : ∀ addr family, AddrInfo.inet6 addr family ∉ next := by
      intro addr family member
      exact narrow addr family (List.mem_cons_of_mem node member)
    cases node with
    | inet addr family =>
      simp only [carried, assign, endPoints, List.filterMap_cons, AddrInfo.endPoint?,
        List.map_cons, List.foldl_cons, EndPoint.key_ofSockaddrIn _ family]
      apply carried_keep memory _ _ next narrowNext
      rw [EndPoint.key_ofSockaddrIn _ family]
      exact mem_keep [] addr.bytes
    | inet6 addr family => exact absurd List.mem_cons_self (narrow addr family)
    | other =>
      have wildcard : StartsWithWildcard (.other :: next) := by
        rcases start with empty | inet | wildcard
        · cases empty
        · obtain ⟨addr, family, rest, same⟩ := inet
          cases same
        · exact wildcard
      obtain ⟨first, head, equal⟩ := wildcard
      have own := mem_keep [] (sockaddrIn 0 0).bytes
      have expected : endPoints (.other :: next) = endPoints next := rfl
      rw [expected] at head ⊢
      obtain ⟨rest, shape⟩ := List.head?_eq_some_iff.mp head
      rw [EndPoint.equals_iff, key_ofDefault] at equal
      simp only [carried, assign, List.map_cons, List.foldl_cons, key_ofDefault]
      rw [carried_keep memory _ _ next narrowNext (by rw [key_ofDefault]; exact own), shape,
        List.map_cons, List.foldl_cons, List.foldl_cons, equal, keep_of_mem own]

/-- What `Resolve` reports. -/
theorem callback_one (memory : ResolveMemory) (nodes : List AddrInfo) :
    callback memory .one 0 nodes =
      .one 0 (some ((carried memory (EndPoint.ofDefault memory.ep) nodes).headD
        (EndPoint.ofDefault memory.ep))) := by
  cases nodes with
  | nil => rfl
  | cons node next => rfl

/-- `Resolve` reports the first address exactly when what was carried to the callback compares
equal to it. -/
theorem faithful_one_iff (memory : ResolveMemory) (nodes : List AddrInfo) :
    Faithful memory nodes (callback memory .one 0 nodes) ↔
      ∃ first, (endPoints nodes).head? = some first ∧
        ((carried memory (EndPoint.ofDefault memory.ep) nodes).headD
          (EndPoint.ofDefault memory.ep)).key = first.key := by
  rw [callback_one]
  simp [Faithful, EndPoint.equals_iff]

/-- The first endpoint is the wildcard when it has the key of the default. -/
theorem startsWithWildcard_iff (nodes : List AddrInfo) :
    StartsWithWildcard nodes ↔
      ∃ first, (endPoints nodes).head? = some first ∧ first.key = (sockaddrIn 0 0).bytes := by
  simp only [StartsWithWildcard, EndPoint.equals_iff, key_ofDefault]

/-- If it is right for whatever is in memory, no byte of the address was left to chance.
Memory whose bytes differ from those of an IPv6 address that the short copy leaves out shows
the loss. After a node of another family the wildcard is reported, which must be the first
endpoint then. -/
theorem resolve_harmless (nodes : List AddrInfo)
    (faithful : ∀ memory, Faithful memory nodes (callback memory .one 0 nodes)) :
    Harmless nodes .one := by
  cases nodes with
  | nil =>
    obtain ⟨first, head, same⟩ := (faithful_one_iff (filledMemory 0) []).mp (faithful _)
    cases head
  | cons node next =>
    cases node with
    | inet addr family => exact Or.inl ⟨addr, family, next, rfl⟩
    | inet6 addr family =>
      have reported := (faithful_one_iff (filledMemory (leftOut addr + 1)) _).mp (faithful _)
      obtain ⟨first, head, same⟩ := reported
      obtain rfl := Option.some.inj head
      have shown : (EndPoint.ofSockaddrIn _ addr.asSockaddrIn).key =
          (EndPoint.ofSockaddrIn6 blankStorage addr).key := same
      rw [EndPoint.key_reinterpreted _ family, EndPoint.key_ofSockaddrIn6 _ family] at shown
      exact absurd shown (filled_ne addr _ (successor_ne _) (.inet6 addr family :: next))
    | other =>
      obtain ⟨first, head, same⟩ := (faithful_one_iff (filledMemory 0) _).mp (faithful _)
      right
      rw [startsWithWildcard_iff]
      refine ⟨first, head, ?_⟩
      rw [← same]
      exact key_ofDefault _

/-- And if none was, it is right for whatever is in memory. An IPv4 node at the beginning is
copied in full. Otherwise the wildcard is what is still carried, since an IPv6 address never
compares equal to it. -/
theorem resolve_faithful (nodes : List AddrInfo) (harmless : Harmless nodes .one)
    (memory : ResolveMemory) : Faithful memory nodes (callback memory .one 0 nodes) := by
  rw [faithful_one_iff]
  rcases harmless with inet | wildcard
  · obtain ⟨addr, family, rest, rfl⟩ := inet
    refine ⟨EndPoint.ofSockaddrIn blankStorage addr, rfl, ?_⟩
    rw [EndPoint.key_ofSockaddrIn _ family]
    exact EndPoint.key_ofSockaddrIn _ family
  · obtain ⟨first, head, equal⟩ := (startsWithWildcard_iff nodes).mp wildcard
    refine ⟨first, head, ?_⟩
    cases nodes with
    | nil => cases head
    | cons node next =>
      cases node with
      | inet addr family =>
        obtain rfl := Option.some.inj head
        rw [EndPoint.key_ofSockaddrIn _ family]
        exact EndPoint.key_ofSockaddrIn _ family
      | inet6 addr family =>
        obtain rfl := Option.some.inj head
        rw [EndPoint.key_ofSockaddrIn6 _ family] at equal
        have lengths := congrArg List.length equal
        rw [addr.bytes_length, SockaddrIn.bytes_length] at lengths
        cases lengths
      | other =>
        rw [equal]
        exact key_ofDefault memory.ep

/-- The same for `ResolveAll`, whose list has no endpoint twice, -/
theorem resolveAll_harmless (nodes : List AddrInfo)
    (faithful : ∀ memory, Faithful memory nodes (callback memory .all 0 nodes)) :
    Harmless nodes .all := by
  have keys (byte : Octet) :=
    (faithful_all_iff (filledMemory byte) nodes (fun _ => rfl)).mp (faithful (filledMemory byte))
  have narrow : ∀ addr family, AddrInfo.inet6 addr family ∉ nodes := by
    intro addr family member
    obtain ⟨v6, left, expected, reported⟩ := first_inet6 nodes ⟨addr, family, member⟩
    have found := congrArg (List.find? wide) (keys (leftOut v6 + 1))
    rw [find_eraseDups, find_eraseDups, expected,
      reported _ _ (by rw [key_ofDefault, narrow_bytes])] at found
    exact filled_ne v6 _ (successor_ne _) left (Option.some.inj found)
  refine ⟨narrow, ?_⟩
  cases nodes with
  | nil => exact Or.inl rfl
  | cons node next =>
    right
    cases node with
    | inet addr family => exact Or.inl ⟨addr, family, next, rfl⟩
    | inet6 addr family => exact absurd List.mem_cons_self (narrow addr family)
    | other =>
      right
      have heads := congrArg List.head? (keys 0)
      have expected : endPoints (.other :: next) = endPoints next := rfl
      rw [startsWithWildcard_iff, expected]
      rw [expected] at heads
      cases shape : endPoints next with
      | nil =>
        rw [shape, carried, List.map_cons, List.eraseDups_cons] at heads
        cases heads
      | cons first rest =>
        rw [shape, carried, List.map_cons, List.map_cons, List.eraseDups_cons,
          List.eraseDups_cons] at heads
        refine ⟨first, rfl, ?_⟩
        rw [← key_ofDefault (filledMemory 0).ep]
        exact (Option.some.inj heads).symm

/-- in both directions. -/
theorem resolveAll_faithful (nodes : List AddrInfo) (harmless : Harmless nodes .all)
    (memory : ResolveMemory) : Faithful memory nodes (callback memory .all 0 nodes) := by
  rcases scan_all memory (EndPoint.ofDefault memory.ep) [] nodes with collected | failed
  · obtain ⟨result, scanned, keys⟩ := collected
    have report : callback memory .all 0 nodes = .all 0 (some result) := scanned
    rw [List.map_nil, carried_keys memory nodes harmless, foldl_keep_nil, ← expected_keys,
      ← sameEndPoints_iff] at keys
    rw [report]
    exact Or.inl ⟨rfl, result, rfl, keys⟩
  · obtain ⟨scanned, room⟩ := failed
    have report : callback memory .all 0 nodes = .all UV_ENOMEM none := scanned
    rw [report]
    exact Or.inr ⟨rfl, rfl, room⟩

/-- For which lists a resolution is faithful, whatever memory it meets. They are those for which
neither the short copy of an IPv6 address nor the initial value of the carried endpoint can be
seen in the report. -/
theorem resolution_iff (mode : ResolveMode) (nodes : List AddrInfo) :
    (∀ memory, Faithful memory nodes (callback memory mode 0 nodes)) ↔ Harmless nodes mode := by
  cases mode with
  | one =>
    constructor
    · exact resolve_harmless nodes
    · exact resolve_faithful nodes
  | all =>
    constructor
    · exact resolveAll_harmless nodes
    · exact resolveAll_faithful nodes

/-- The loopback address as the only answer: eight of its bytes are lost. -/
theorem resolution_false_loopback :
    ¬ ∀ mode nodes memory, Faithful memory nodes (callback memory mode 0 nodes) := by
  intro faithful
  let loopback : SockaddrIn6 := sockaddrIn6 #v[0, 0, 0, 0, 0, 0, 0, 1] 0
  obtain ⟨-, ep, first, reported, head, equal⟩ :=
    faithful .one [.inet6 loopback rfl] (filledMemory 0xAA)
  obtain rfl := Option.some.inj reported
  obtain rfl := Option.some.inj head
  revert equal
  decide +kernel

end Reports

end MoeUV
