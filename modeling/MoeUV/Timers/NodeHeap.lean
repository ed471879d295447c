import MoeUV.Foundation.Loop
import Mathlib.Logic.Function.Basic

/-!
# The heap of linked nodes

libuv keeps its timers in a binary heap whose nodes are linked to their parents and
children. The place after the last node, and the last node itself, are found by
walking down from the root: the binary digits of the number of nodes say at each
step whether to go left or right. Nothing in the code says that the links form a
tree, so a walk may meet a null pointer and a loop need not end; both are faults
here.
-/

namespace MoeUV

open Foundation.Loop

/-- `struct heap_node` -/
structure HeapNode (ν : Type) where
  left : Option ν
  right : Option ν
  parent : Option ν
deriving DecidableEq

/-- `struct heap`, and the nodes in memory. -/
structure NodeHeap (ν : Type) where
  min : Option ν
  nelts : BitVec 32
  node : ν → HeapNode ν

namespace HeapNode

variable {ν : Type} (node : HeapNode ν) (value : Option ν)

def withLeft : HeapNode ν := { node with left := value }

def withRight : HeapNode ν := { node with right := value }

def withParent : HeapNode ν := { node with parent := value }

end HeapNode

inductive HeapFault where
  | nullNode
  | endless
deriving DecidableEq

/-- What a `struct heap_node**` points at. -/
inductive HeapSlot (ν : Type) where
  | min
  | left (node : ν)
  | right (node : ν)
deriving DecidableEq

/-- The path to a place while it is computed: the digits so far, their number, and
the digits that are left. -/
structure HeapPath where
  path : BitVec 32
  k : Nat
  n : BitVec 32
deriving DecidableEq

/-- `for (...; n >= 2; k += 1, n /= 2) path = (path << 1) | (n & 1)` -/
def heapPathBody (state : HeapPath) : Pass HeapPath (BitVec 32 × Nat) :=
  if 2 ≤ state.n then
    .again ⟨(state.path <<< 1) ||| (state.n &&& 1), state.k + 1, state.n / 2⟩
  else .leave (state.path, state.k)

def heapPathLoop : While HeapPath (BitVec 32 × Nat) where
  body := heapPathBody
  variant state := state.n.toNat
  decreases state next pass := by
    unfold heapPathBody at pass
    split at pass
    · rename_i large
      cases pass
      rw [BitVec.le_def] at large
      have two : (2 : BitVec 32).toNat = 2 := rfl
      rw [BitVec.toNat_udiv, two]
      omega
    · cases pass

/-- The path from the root to the place of this number, and its length. -/
def heapPath (n : BitVec 32) : BitVec 32 × Nat := heapPathLoop.run ⟨0, 0, n⟩

namespace NodeHeap

variable {ν : Type} [DecidableEq ν] (heap : NodeHeap ν)

/-- `heap_init` -/
def init (node : ν → HeapNode ν) : NodeHeap ν := ⟨none, 0, node⟩

def setNode (node : ν) (content : HeapNode ν) : NodeHeap ν :=
  { heap with node := Function.update heap.node node content }

def setMin (value : Option ν) : NodeHeap ν := { heap with min := value }

def setLeft (node : ν) (value : Option ν) : NodeHeap ν :=
  heap.setNode node ((heap.node node).withLeft value)

def setRight (node : ν) (value : Option ν) : NodeHeap ν :=
  heap.setNode node ((heap.node node).withRight value)

def setParent (node : ν) (value : Option ν) : NodeHeap ν :=
  heap.setNode node ((heap.node node).withParent value)

/-- `if (link != NULL) link->parent = value` -/
def adopt (link : Option ν) (value : ν) : NodeHeap ν :=
  match link with
  | none => heap
  | some node => heap.setParent node (some value)

/-- The pointer to a node, in its parent or in the heap, now points to another. -/
def relink (parent : Option ν) (node value : ν) : NodeHeap ν :=
  match parent with
  | none => heap.setMin (some value)
  | some up =>
    if (heap.node up).left = some node then heap.setLeft up (some value)
    else heap.setRight up (some value)

def load : HeapSlot ν → Option ν
  | .min => heap.min
  | .left node => (heap.node node).left
  | .right node => (heap.node node).right

def store (value : Option ν) : HeapSlot ν → NodeHeap ν
  | .min => heap.setMin value
  | .left node => heap.setLeft node value
  | .right node => heap.setRight node value

/-- The two nodes exchange their links; the child moves closer to the root. -/
def exchangeLinks (parent child : ν) : NodeHeap ν :=
  let t := heap.node parent
  let heap := heap.setNode parent (heap.node child)
  let heap := heap.setNode child t
  heap.setParent parent (some child)

/-- The link of the child to itself now goes to the parent; the other one goes to the
sibling, whose parent it becomes. -/
def linkBelow (parent child : ν) : NodeHeap ν :=
  if (heap.node child).left = some child then
    (heap.setLeft child (some parent)).adopt (heap.node child).right child
  else (heap.setRight child (some parent)).adopt (heap.node child).left child

/-- The children of a node are told their parent. -/
def adoptChildren (node : ν) : NodeHeap ν :=
  let heap := heap.adopt (heap.node node).left node
  heap.adopt (heap.node node).right node

/-- `heap_node_swap` -/
def nodeSwap (parent child : ν) : NodeHeap ν :=
  let heap := heap.exchangeLinks parent child
  let heap := heap.linkBelow parent child
  let heap := heap.adoptChildren parent
  heap.relink (heap.node child).parent parent child

/-- `while (k > 0)`: the slots called `parent` and `child` after the walk. -/
def descend : Nat → BitVec 32 → HeapSlot ν × HeapSlot ν →
    Except HeapFault (HeapSlot ν × HeapSlot ν)
  | 0, _, slots => .ok slots
  | k + 1, path, (_, child) =>
    match heap.load child with
    | none => .error .nullNode
    | some node =>
      descend k (path >>> 1) (child, if path &&& 1 ≠ 0 then .right node else .left node)

/-- The walk from the root to the place of this number. -/
def find (n : BitVec 32) : Except HeapFault (HeapSlot ν × HeapSlot ν) :=
  heap.descend (heapPath n).2 (heapPath n).1 (.min, .min)

variable (lessThan : ν → ν → Bool)

/-- `while (node->parent != NULL && less_than(node, node->parent))` -/
def walkUp : Nat → NodeHeap ν → ν → Except HeapFault (NodeHeap ν)
  | 0, _, _ => .error .endless
  | fuel + 1, heap, node =>
    match (heap.node node).parent with
    | none => .ok heap
    | some parent =>
      if lessThan node parent then walkUp fuel (heap.nodeSwap parent node) node else .ok heap

/-- The candidate if it is not null and less. -/
def smaller (candidate : Option ν) (smallest : ν) : ν :=
  match candidate with
  | none => smallest
  | some node => if lessThan node smallest then node else smallest

/-- `for (;;)` of `heap_remove` -/
def walkDown : Nat → NodeHeap ν → ν → Except HeapFault (NodeHeap ν)
  | 0, _, _ => .error .endless
  | fuel + 1, heap, child =>
    let smallest := smaller lessThan (heap.node child).left child
    let smallest := smaller lessThan (heap.node child).right smallest
    if smallest = child then .ok heap else walkDown fuel (heap.nodeSwap child smallest) child

/-- `heap_insert` -/
def insert (newnode : ν) : Except HeapFault (NodeHeap ν) := do
  let heap := heap.setNode newnode ⟨none, none, none⟩
  let (parent, child) ← heap.find (1 + heap.nelts)
  let heap := heap.setParent newnode (heap.load parent)
  let heap := heap.store (some newnode) child
  let heap := { heap with nelts := heap.nelts + 1 }
  walkUp lessThan (heap.nelts.toNat + 1) heap newnode

/-- `heap_remove` from the unlinking of the last node on. -/
def replace (node child : ν) : Except HeapFault (NodeHeap ν) := do
  let heap := heap.setNode child (heap.node node)
  let heap := heap.adoptChildren child
  let heap := heap.relink (heap.node node).parent node child
  let heap ← walkDown lessThan (heap.nelts.toNat + 1) heap child
  walkUp lessThan (heap.nelts.toNat + 1) heap child

/-- `heap_remove` -/
def remove (node : ν) : Except HeapFault (NodeHeap ν) :=
  if heap.nelts = 0 then .ok heap
  else do
    let (_, max) ← heap.find heap.nelts
    match heap.load max with
    | none => throw .nullNode
    | some child =>
      let heap := { heap with nelts := heap.nelts - 1 }
      let heap := heap.store none max
      if child = node then
        pure (if heap.min = some child then heap.setMin none else heap)
      else heap.replace lessThan node child

/-- `heap_dequeue` -/
def dequeue : Except HeapFault (NodeHeap ν) :=
  match heap.min with
  | none => if heap.nelts = 0 then .ok heap else .error .nullNode
  | some node => heap.remove lessThan node

end NodeHeap

end MoeUV
