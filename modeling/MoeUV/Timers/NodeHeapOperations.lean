import MoeUV.Foundation.Execution
import MoeUV.Timers.NodeHeapLayout

/-!
# Inserting into the linked heap and removing from it

A new node is linked below the last place and raised. The last node takes the place
of a removed one and is lowered and raised. Both keep the order, neither follows a
null pointer, and both loops end.
-/

namespace MoeUV

open Foundation.BinaryHeap Foundation.Execution

namespace NodeHeap

variable {ν : Type} [DecidableEq ν]

/-- Where the pointer to the node at a place is. -/
def slotOf (layout : Nat → ν) (place : Nat) : HeapSlot ν :=
  if place = 1 then .min
  else if place % 2 = 1 then .right (layout (place / 2))
  else .left (layout (place / 2))

section Find

variable {heap : NodeHeap ν} {layout : Nat → ν} {size : Nat}

omit [DecidableEq ν] in
/-- A place below a node has a slot, which holds the node of that place, or null where the
tree ends. -/
theorem load_slotOf (linked : Linked heap layout size) {place : Nat} (positive : 1 ≤ place)
    (near : place / 2 ≤ size) :
    heap.load (slotOf layout place) = if place ≤ size then some (layout place) else none := by
  by_cases root : place = 1
  · rw [slotOf, if_pos root, root]
    exact linked.root
  · have above := linked.nodes (place / 2) (by omega) near
    by_cases odd : place % 2 = 1
    · have double : 2 * (place / 2) + 1 = place := by omega
      rw [slotOf, if_neg root, if_pos odd, load, above, links, double]
    · have double : 2 * (place / 2) = place := by omega
      rw [slotOf, if_neg root, if_neg odd, load, above, links, double]

omit [DecidableEq ν] in
/-- The walk along a path ends at the place that the path leads to. The induction is on the
length of the path; its last bit tells on which side to go on. -/
theorem descend_linked (linked : Linked heap layout size) (k : Nat) (path : BitVec 32)
    (parent : HeapSlot ν) {place : Nat} (positive : 1 ≤ place)
    (near : reach k path.toNat place ≤ size + 1) :
    heap.descend k path (parent, slotOf layout place) =
      .ok (if k = 0 then parent else slotOf layout (reach k path.toNat place / 2),
        slotOf layout (reach k path.toNat place)) := by
  induction k generalizing path parent place with
  | zero => rfl
  | succ k inductionHypothesis =>
    have onward := le_reach k (path.toNat / 2) (2 * place + path.toNat % 2) (by omega)
    rw [reach] at near
    have inside : place ≤ size := by omega
    have shifted : (path >>> 1).toNat = path.toNat / 2 := by
      rw [BitVec.toNat_ushiftRight, Nat.shiftRight_eq_div_pow, Nat.pow_one]
    have digit : path &&& 1 ≠ 0 ↔ path.toNat % 2 = 1 := by
      rw [ne_eq, ← BitVec.toNat_inj, BitVec.toNat_and]
      change ¬ path.toNat &&& 1 = 0 ↔ _
      rw [Nat.and_one_is_mod]
      omega
    have next : (if path &&& 1 ≠ 0 then HeapSlot.right (layout place) else .left (layout place)) =
        slotOf layout (2 * place + path.toNat % 2) := by
      have half : (2 * place + path.toNat % 2) / 2 = place := by omega
      have parity : (2 * place + path.toNat % 2) % 2 = path.toNat % 2 := by omega
      simp only [digit, slotOf, half, parity]
      rw [if_neg (by omega : ¬ 2 * place + path.toNat % 2 = 1)]
    rw [descend, load_slotOf linked positive (by omega), if_pos inside]
    dsimp only
    rw [next, inductionHypothesis _ _ (by omega) (by rw [shifted]; exact near), shifted]
    by_cases last : k = 0
    · subst last
      have half : (2 * place + path.toNat % 2) / 2 = place := by omega
      simp [reach, half]
    · simp [reach, last]

omit [DecidableEq ν] in
/-- The walk ends at the place with the number, and before it was at the parent. -/
theorem find_linked (linked : Linked heap layout size) (n : BitVec 32) (positive : 1 ≤ n.toNat)
    (near : n.toNat ≤ size + 1) :
    heap.find n = .ok (if n.toNat = 1 then .min else slotOf layout (n.toNat / 2),
      slotOf layout n.toNat) := by
  have leads := reach_heapPath n positive
  have found := descend_linked linked (heapPath n).2 (heapPath n).1 .min (Nat.le_refl 1)
    (by rw [leads]; exact near)
  have root : slotOf layout 1 = .min := if_pos rfl
  have steps : (heapPath n).2 = 0 ↔ n.toNat = 1 := by
    have far := le_reach (heapPath n).2 (heapPath n).1.toNat 1 (Nat.le_refl 1)
    rw [leads] at far
    constructor
    · intro none
      rw [none] at leads
      exact leads.symm
    · omega
  rw [root, leads] at found
  rw [find, found]
  simp only [steps]

end Find

section Loops

variable {κ : Type} [LinearOrder κ] {key : ν → κ} {lessThan : ν → ν → Bool}
  (compares : ∀ first second, lessThan first second = true ↔ key first < key second)
include compares

/-- The loop at the end of `heap_insert` raises the node. The induction is on the fuel, of which
each exchange with the parent takes one: the number of the place is at least halved. -/
theorem walkUp_linked {heap : NodeHeap ν} {layout : Nat → ν} {size : Nat} (place fuel : Nat)
    (linked : Linked heap layout size) (positive : 1 ≤ place) (inside : place ≤ size)
    (enough : place ≤ fuel) :
    ∃ after, walkUp lessThan fuel heap (layout place) = .ok after ∧
      Linked after (raise key layout place) size := by
  induction fuel generalizing heap layout place with
  | zero => omega
  | succ fuel inductionHypothesis =>
    have here := linked.nodes place positive inside
    by_cases root : 2 ≤ place
    · have parent : (heap.node (layout place)).parent = some (layout (place / 2)) := by
        rw [here]
        exact if_pos root
      by_cases less : key (layout place) < key (layout (place / 2))
      · obtain ⟨after, walked, ends⟩ := inductionHypothesis (place / 2)
          (nodeSwap_linked linked root inside) (by omega) (by omega) (by omega)
        rw [exchange_first] at walked
        refine ⟨after, ?_, ?_⟩
        · rw [walkUp, parent]
          dsimp only
          rw [if_pos ((compares _ _).mpr less), walked]
        · rw [raise, if_pos ⟨root, less⟩]
          exact ends
      · refine ⟨heap, ?_, ?_⟩
        · rw [walkUp, parent]
          dsimp only
          rw [if_neg fun yes => less ((compares _ _).mp yes)]
        · rw [raise, if_neg fun both => less both.2]
          exact linked
    · have parent : (heap.node (layout place)).parent = none := by
        rw [here]
        exact if_neg root
      refine ⟨heap, ?_, ?_⟩
      · rw [walkUp, parent]
      · rw [raise, if_neg fun both => root both.1]
        exact linked

omit [DecidableEq ν] in
/-- The candidate in the code is the candidate in the layout. -/
theorem smaller_eq {layout : Nat → ν} {size best candidate : Nat} :
    smaller lessThan (if candidate ≤ size then some (layout candidate) else none) (layout best) =
      layout (better key layout size best candidate) := by
  by_cases inside : candidate ≤ size
  · rw [if_pos inside, smaller, better]
    by_cases less : key (layout candidate) < key (layout best)
    · rw [if_pos ((compares _ _).mpr less), if_pos ⟨inside, less⟩]
    · rw [if_neg fun yes => less ((compares _ _).mp yes), if_neg fun both => less both.2]
  · rw [if_neg inside, smaller, better, if_neg fun both => inside both.1]

/-- The loop of `heap_remove` lowers the node. The induction is on the fuel, of which each
exchange with a child takes one: the number of the place grows. -/
theorem walkDown_linked {heap : NodeHeap ν} {layout : Nat → ν} {size : Nat} (place fuel : Nat)
    (linked : Linked heap layout size) (positive : 1 ≤ place) (inside : place ≤ size)
    (enough : size - place < fuel) :
    ∃ after, walkDown lessThan fuel heap (layout place) = .ok after ∧
      Linked after (lower key layout size place).1 size := by
  induction fuel generalizing heap layout place with
  | zero => omega
  | succ fuel inductionHypothesis =>
    have here := linked.nodes place positive inside
    have candidate : smaller lessThan (heap.node (layout place)).right
        (smaller lessThan (heap.node (layout place)).left (layout place)) =
        layout (smallest key layout size place) := by
      rw [here]
      simp only [links, smaller_eq compares]
      rfl
    have bounded := smallest_inside key layout size place inside
    by_cases stays : smallest key layout size place = place
    · refine ⟨heap, ?_, ?_⟩
      · simp only [walkDown, candidate, stays, if_true]
      · rw [lower, if_neg (by omega)]
        exact linked
    · have half := smallest_half key layout size place stays
      have apart : ¬ layout (smallest key layout size place) = layout place := by
        rw [layout_inj linked.distinct (by omega) (by omega)]
        exact stays
      have below : 2 ≤ smallest key layout size place := by omega
      have swapped := nodeSwap_linked linked below bounded
      rw [half] at swapped
      obtain ⟨after, walked, ends⟩ := inductionHypothesis
        (smallest key layout size place) swapped (by omega) bounded (by omega)
      rw [exchange_second] at walked
      refine ⟨after, ?_, ?_⟩
      · simp only [walkDown, candidate, apart, if_false, walked]
      · rw [lower, if_pos (by omega)]
        exact ends

end Loops

section Insert

variable {heap : NodeHeap ν} {layout : Nat → ν} {size : Nat} {newnode : ν}

/-- A node outside of the layout may hold anything. -/
theorem Linked.setNode_outside (linked : Linked heap layout size)
    (outside : newnode ∉ members layout size) (content : HeapNode ν) :
    Linked (heap.setNode newnode content) layout size := by
  refine ⟨linked.count, linked.root, linked.distinct, ?_⟩
  intro place positive bounded
  rw [setNode_node, if_neg, linked.nodes place positive bounded]
  rintro rfl
  exact outside (Finset.mem_image_of_mem layout (Finset.mem_Icc.mpr ⟨positive, bounded⟩))

/-- What storing a link at a place leaves in the nodes of the layout. Only the node above the
place changes, on the side where the place is, and at the root it is the heap itself that
changes. -/
theorem store_node (distinct : Set.InjOn layout (Finset.Icc 1 size))
    (holds : Holds heap layout size (links layout size)) {place other : Nat}
    (positive : 1 ≤ place) (near : place / 2 ≤ size) (there : 1 ≤ other ∧ other ≤ size)
    (value : Option ν) :
    (heap.store value (slotOf layout place)).node (layout other) =
      if place ≠ 1 ∧ other = place / 2 then
        if place % 2 = 1 then (links layout size other).withRight value
        else (links layout size other).withLeft value
      else links layout size other := by
  have here := holds other there.1 there.2
  by_cases root : place = 1
  · rw [slotOf, if_pos root, if_neg fun both => both.1 root]
    exact here
  · have same : layout other = layout (place / 2) ↔ other = place / 2 :=
      layout_inj distinct there ⟨by omega, near⟩
    have above := holds (place / 2) (by omega) near
    by_cases up : other = place / 2
    · rw [if_pos ⟨root, up⟩]
      by_cases odd : place % 2 = 1
      · simp only [slotOf, if_neg root, if_pos odd, store, setRight, setNode_node, above, up,
          if_true]
      · simp only [slotOf, if_neg root, if_neg odd, store, setLeft, setNode_node, above, up,
          if_true]
    · rw [if_neg fun both => up both.2]
      by_cases odd : place % 2 = 1
      · simp only [slotOf, if_neg root, if_pos odd, store, setRight, setNode_node, same, if_neg up,
          here]
      · simp only [slotOf, if_neg root, if_neg odd, store, setLeft, setNode_node, same, if_neg up,
          here]

/-- It does not touch another node. -/
theorem store_outside (outside : newnode ∉ members layout size)
    {place : Nat} (positive : 1 ≤ place) (near : place / 2 ≤ size) (value : Option ν) :
    (heap.store value (slotOf layout place)).node newnode = heap.node newnode := by
  by_cases root : place = 1
  · rw [slotOf, if_pos root]
    rfl
  · have apart : newnode ≠ layout (place / 2) := by
      rintro rfl
      exact outside (Finset.mem_image_of_mem layout (Finset.mem_Icc.mpr ⟨by omega, near⟩))
    rw [slotOf, if_neg root]
    split
    · rw [store, setRight, setNode_node, if_neg apart]
    · rw [store, setLeft, setNode_node, if_neg apart]

/-- The minimum of the heap is the slot of the root, so no other slot overwrites it. -/
theorem store_min_of_ne {place : Nat} (root : place ≠ 1) (value : Option ν) :
    (heap.store value (slotOf layout place)).min = heap.min := by
  rw [slotOf, if_neg root]
  split <;> rfl

/-- A store leaves the number of nodes alone. -/
theorem store_nelts (slot : HeapSlot ν) (value : Option ν) :
    (heap.store value slot).nelts = heap.nelts := by
  cases slot <;> rfl

section Last

variable {other : Nat}

omit [DecidableEq ν]

/-- A place behind the last one matters to the node above it only. -/
theorem links_succ (far : other ≠ (size + 1) / 2) :
    links layout (size + 1) other = links layout size other := by
  rw [links, links]
  congr 1
  · exact if_congr (by omega) rfl rfl
  · exact if_congr (by omega) rfl rfl

/-- That one has a new node to the left, -/
theorem links_succ_left (even : 2 * other = size + 1) : links layout (size + 1) other =
    (links layout size other).withLeft (some (layout (size + 1))) := by
  rw [links, links, HeapNode.withLeft]
  dsimp only
  congr 1
  · rw [if_pos (by omega), even]
  · exact if_congr (by omega) rfl rfl

/-- or to the right. -/
theorem links_succ_right (odd : 2 * other + 1 = size + 1) : links layout (size + 1) other =
    (links layout size other).withRight (some (layout (size + 1))) := by
  rw [links, links, HeapNode.withRight]
  dsimp only
  congr 1
  · exact if_congr (by omega) rfl rfl
  · rw [if_pos (by omega), odd]

end Last

/-- Linking a new node below the last place. The parent of the last place gets it as its child,
and all other nodes are linked as before. -/
theorem append_linked (linked : Linked heap layout size) (outside : newnode ∉ members layout size)
    (blank : heap.node newnode = ⟨none, none, if size = 0 then none else
      some (layout ((size + 1) / 2))⟩) (room : size + 1 < 2 ^ 32) :
    Linked { heap.store (some newnode) (slotOf layout (size + 1)) with nelts := heap.nelts + 1 }
      (Function.update layout (size + 1) newnode) (size + 1) := by
  have distinct := linked.distinct
  have apart {place : Nat} (positive : 1 ≤ place) (bounded : place ≤ size) :
      newnode ≠ layout place := by
    rintro rfl
    exact outside (Finset.mem_image_of_mem layout (Finset.mem_Icc.mpr ⟨positive, bounded⟩))
  constructor
  · have one : (1 : BitVec 32).toNat = 1 := rfl
    rw [BitVec.toNat_add, linked.count, one, Nat.mod_eq_of_lt room]
  · dsimp only
    rw [if_pos (by omega)]
    by_cases empty : size = 0
    · rw [empty, slotOf, if_pos rfl, Function.update_self]
      rfl
    · rw [Function.update_of_ne (by omega)]
      have root := linked.root
      rw [if_pos (by omega)] at root
      rw [← root]
      exact store_min_of_ne (by omega) _
  · intro place inside other inside' same
    rw [Finset.mem_coe, Finset.mem_Icc] at inside inside'
    rw [Function.update_apply, Function.update_apply] at same
    split at same
    · split at same
      · omega
      · exact absurd same (apart inside'.1 (by omega))
    · split at same
      · exact absurd same.symm (apart inside.1 (by omega))
      · exact (layout_inj distinct ⟨inside.1, by omega⟩ ⟨inside'.1, by omega⟩).mp same
  · intro other positive bounded
    by_cases last : other = size + 1
    · rw [last, Function.update_self]
      dsimp only
      rw [store_outside outside (by omega) (by omega), blank, links,
        if_neg (by omega : ¬ 2 * (size + 1) ≤ size + 1),
        if_neg (by omega : ¬ 2 * (size + 1) + 1 ≤ size + 1)]
      by_cases empty : size = 0
      · rw [if_pos empty, if_neg (by omega)]
      · rw [if_neg empty, if_pos (by omega), Function.update_of_ne (by omega)]
    · rw [Function.update_of_ne last]
      dsimp only
      rw [store_node distinct linked.nodes (by omega) (by omega) ⟨positive, by omega⟩]
      have before : links (Function.update layout (size + 1) newnode) size other =
          links layout size other :=
        links_congr (fun _ => Function.update_of_ne (by omega) _ _)
          (fun _ => Function.update_of_ne (by omega) _ _)
          fun _ => Function.update_of_ne (by omega) _ _
      by_cases up : other = (size + 1) / 2
      · rw [if_pos ⟨by omega, up⟩]
        by_cases odd : (size + 1) % 2 = 1
        · rw [if_pos odd, links_succ_right (by omega), before, Function.update_self]
        · rw [if_neg odd, links_succ_left (by omega), before, Function.update_self]
      · rw [if_neg fun both => up both.2, links_succ up, before]

variable {κ : Type} [LinearOrder κ] {key : ν → κ} {lessThan : ν → ν → Bool}
  (compares : ∀ first second, lessThan first second = true ↔ key first < key second)

include compares in
/-- `heap_insert` appends the node and raises it. The new node is linked behind the last place,
where its number leads to, and then walks up. -/
theorem insert_linked (linked : Linked heap layout size) (outside : newnode ∉ members layout size)
    (room : size + 1 < 2 ^ 32) :
    ∃ after, heap.insert lessThan newnode = .ok after ∧
      Linked after (raise key (Function.update layout (size + 1) newnode) (size + 1))
        (size + 1) := by
  have one : (1 : BitVec 32).toNat = 1 := rfl
  have count : (1 + heap.nelts).toNat = size + 1 := by
    rw [BitVec.toNat_add, linked.count, one, Nat.add_comm, Nat.mod_eq_of_lt room]
  have cleared := linked.setNode_outside outside ⟨none, none, none⟩
  have found := find_linked cleared (1 + heap.nelts) (by omega) (by omega)
  rw [count] at found
  have parent : (heap.setNode newnode ⟨none, none, none⟩).load
      (if size + 1 = 1 then .min else slotOf layout ((size + 1) / 2)) =
      if size = 0 then none else some (layout ((size + 1) / 2)) := by
    by_cases empty : size = 0
    · rw [if_pos (by omega), if_pos empty]
      have root := cleared.root
      rwa [if_neg (by omega)] at root
    · rw [if_neg (by omega), if_neg empty, load_slotOf cleared (by omega) (by omega),
        if_pos (by omega)]
  have appended := append_linked
    (cleared.setNode_outside outside ⟨none, none, if size = 0 then none else
      some (layout ((size + 1) / 2))⟩) outside (by rw [setNode_node, if_pos rfl]) room
  obtain ⟨after, walked, ends⟩ := walkUp_linked compares (size + 1) (size + 1 + 1) appended
    (by omega) (Nat.le_refl _) (by omega)
  refine ⟨after, ?_, ends⟩
  rw [Function.update_self] at walked
  simp only [insert, setNode_nelts, found, parent, setParent, setNode_node, if_true,
    HeapNode.withParent, ok_bind, store_nelts]
  have counted : (heap.nelts + 1).toNat = size + 1 := by rw [BitVec.add_comm, count]
  rw [counted]
  exact walked

end Insert

section Remove

variable {heap : NodeHeap ν} {layout : Nat → ν} {size : Nat}

/-- Unlinking the last node. The node above the last place loses it as its child, and all other
nodes are linked as before. -/
theorem unlink_linked (linked : Linked heap layout size) (positive : 1 ≤ size) :
    Linked ({ heap with nelts := heap.nelts - 1 }.store none (slotOf layout size)) layout
      (size - 1) := by
  have distinct := linked.distinct
  constructor
  · have one : (1 : BitVec 32).toNat = 1 := rfl
    have bounded := heap.nelts.isLt
    rw [store_nelts, BitVec.toNat_sub, linked.count, one]
    rw [linked.count] at bounded
    omega
  · by_cases single : size = 1
    · rw [single, slotOf, if_pos rfl]
      rfl
    · rw [store_min_of_ne single, if_pos (by omega)]
      have root := linked.root
      rwa [if_pos positive] at root
  · intro place inside other inside' same
    rw [Finset.mem_coe, Finset.mem_Icc] at inside inside'
    exact (layout_inj distinct ⟨inside.1, by omega⟩ ⟨inside'.1, by omega⟩).mp same
  · intro other first bounded
    have holds : Holds { heap with nelts := heap.nelts - 1 } layout size (links layout size) :=
      linked.nodes
    rw [store_node distinct holds positive (by omega) ⟨first, by omega⟩]
    obtain ⟨before, rfl⟩ := Nat.exists_eq_succ_of_ne_zero (by omega : size ≠ 0)
    rw [Nat.succ_sub_one] at bounded ⊢
    by_cases up : other = (before + 1) / 2
    · rw [if_pos ⟨by omega, up⟩]
      by_cases odd : (before + 1) % 2 = 1
      · rw [if_pos odd, links_succ_right (by omega)]
        change (links layout before other).withRight none = _
        rw [links, HeapNode.withRight, if_neg (by omega : ¬ 2 * other + 1 ≤ before)]
      · rw [if_neg odd, links_succ_left (by omega)]
        change (links layout before other).withLeft none = _
        rw [links, HeapNode.withLeft, if_neg (by omega : ¬ 2 * other ≤ before)]
    · rw [if_neg fun both => up both.2, links_succ up]

variable {κ : Type} [LinearOrder κ] {key : ν → κ} {lessThan : ν → ν → Bool}
  (compares : ∀ first second, lessThan first second = true ↔ key first < key second)

/-- The links of a node are taken over by a node from outside. The children get a new parent,
the parent gets a new child on the same side, and the root of the heap changes if there is no
parent. -/
theorem takeOver_linked (linked : Linked heap layout size) {place : Nat} {child : ν}
    (inside : 1 ≤ place ∧ place ≤ size) (outside : child ∉ members layout size) :
    Linked (((heap.setNode child (heap.node (layout place))).adoptChildren child).relink
        (links layout size place).parent (layout place) child)
      (Function.update layout place child) size := by
  have distinct := linked.distinct
  have here := linked.nodes place inside.1 inside.2
  have apart {other : Nat} (positive : 1 ≤ other) (bounded : other ≤ size) :
      child ≠ layout other := by
    rintro rfl
    exact outside (Finset.mem_image_of_mem layout (Finset.mem_Icc.mpr ⟨positive, bounded⟩))
  have distinct' : Set.InjOn (Function.update layout place child) (Finset.Icc 1 size) := by
    intro one inside' other inside'' same
    rw [Finset.mem_coe, Finset.mem_Icc] at inside' inside''
    rw [Function.update_apply, Function.update_apply] at same
    split at same
    · split at same
      · omega
      · exact absurd same (apart inside''.1 inside''.2)
    · split at same
      · exact absurd same.symm (apart inside'.1 inside'.2)
      · exact (layout_inj distinct inside' inside'').mp same
  have copied : Holds (heap.setNode child (links layout size place))
      (Function.update layout place child) size (links layout size) := by
    intro other positive bounded
    rw [setNode_node, Function.update_apply]
    by_cases same : other = place
    · rw [if_pos same, if_pos rfl, same]
    · rw [if_neg same, if_neg (Ne.symm (apart positive bounded)),
        linked.nodes other positive bounded]
  have first := Holds.adopt distinct' copied (2 * place) (by omega) child
  have second := Holds.adopt distinct' first (2 * place + 1) (by omega) child
  rw [Function.update_of_ne (by omega)] at first second
  have left : ((heap.setNode child (links layout size place)).node child).left =
      if 2 * place ≤ size then some (layout (2 * place)) else none := by
    rw [setNode_node, if_pos rfl]
    rfl
  have again := first place inside.1 inside.2
  rw [Function.update_self, Function.update_of_ne (by omega), ← left] at again
  have right : (((heap.setNode child (links layout size place)).adopt
      ((heap.setNode child (links layout size place)).node child).left child).node child).right =
      if 2 * place + 1 ≤ size then some (layout (2 * place + 1)) else none := by
    rw [again]
    rfl
  have third : Holds ((heap.setNode child (links layout size place)).adoptChildren child)
      (Function.update layout place child) size
      (fun other => if other / 2 = place then (links layout size other).withParent (some child)
        else links layout size other) := by
    rw [← left] at second
    rw [adoptChildren, right]
    rw [Function.update_of_ne (by omega)] at second
    refine second.congr fun other _ _ => ?_
    simp only [Function.update_apply]
    by_cases odd : other = 2 * place + 1
    · rw [if_pos odd, odd, if_neg (by omega), if_pos (by omega)]
    · rw [if_neg odd]
      by_cases even : other = 2 * place
      · rw [if_pos even, even, if_pos (by omega)]
      · rw [if_neg even, if_neg (by omega)]
  rw [here]
  refine ⟨?_, ?_, distinct', ?_⟩
  · rw [relink_nelts, adoptChildren_nelts, setNode_nelts, linked.count]
  · have there : 1 ≤ size := by omega
    rw [relink_min, adoptChildren_min, setNode_min, linked.root, if_pos there, if_pos there]
    by_cases root : place = 1
    · have top : (links layout size place).parent = none := if_neg (by omega)
      rw [if_pos top, root, Function.update_self]
    · have under : (links layout size place).parent ≠ none := by
        change (if 2 ≤ place then some (layout (place / 2)) else none) ≠ none
        rw [if_pos (by omega)]
        exact Option.some_ne_none _
      rw [if_neg under, Function.update_of_ne (Ne.symm root)]
  · intro other positive bounded
    have there : 1 ≤ other ∧ other ≤ size := ⟨positive, bounded⟩
    have above : (links layout size place).parent = some (Function.update layout place child other)
        ↔ other = place / 2 := by
      change (if 2 ≤ place then some (layout (place / 2)) else none) = _ ↔ _
      split
      · rw [Option.some.injEq, ← Function.update_of_ne (by omega : place / 2 ≠ place) child layout,
          layout_inj distinct' (by omega) there]
        exact eq_comm
      · refine iff_of_false (fun absent => by cases absent) (by omega)
    have side : (links layout size other).left = some (layout place) ↔ place = 2 * other :=
      leads_iff distinct (by omega) inside
    have kept {spot : Nat} (elsewhere : spot ≠ place) :
        Function.update layout place child spot = layout spot :=
      Function.update_of_ne elsewhere child layout
    rw [relink_node, third other positive bounded]
    simp only [above]
    by_cases up : other = place / 2
    · have notBelow : ¬ other / 2 = place := by omega
      have above' := kept (by omega : other / 2 ≠ place)
      simp only [if_pos up, if_neg notBelow, side]
      by_cases even : place = 2 * other
      · rw [if_pos even]
        refine (links_withLeft (by omega) ?_ (kept (by omega)) above').symm
        rw [← even, Function.update_self]
      · have odd : place = 2 * other + 1 := by omega
        rw [if_neg even]
        refine (links_withRight (by omega) (kept (by omega)) ?_ above').symm
        rw [← odd, Function.update_self]
    · have left := kept (by omega : 2 * other ≠ place)
      have right := kept (by omega : 2 * other + 1 ≠ place)
      rw [if_neg up]
      by_cases under : other / 2 = place
      · rw [if_pos under]
        refine (links_withParent (by omega) left right ?_).symm
        rw [under, Function.update_self]
      · rw [if_neg under]
        exact (links_congr (fun _ => left) (fun _ => right) fun _ => kept under).symm

/-- The removed node keeps its parent meanwhile. -/
theorem takeOver_parent (linked : Linked heap layout size) {place : Nat} {child : ν}
    (inside : 1 ≤ place ∧ place ≤ size) (outside : child ∉ members layout size) :
    (((heap.setNode child (heap.node (layout place))).adoptChildren child).node
      (layout place)).parent = (links layout size place).parent := by
  have here := linked.nodes place inside.1 inside.2
  have apart : layout place ≠ child := by
    rintro rfl
    exact outside (Finset.mem_image_of_mem layout (Finset.mem_Icc.mpr inside))
  have left : (links layout size place).left ≠ some (layout place) := by
    rw [ne_eq, links, leads_iff linked.distinct (by omega) inside]
    omega
  have right : (links layout size place).right ≠ some (layout place) := by
    rw [ne_eq, links, leads_iff linked.distinct (by omega) inside]
    omega
  have below : (heap.setNode child (links layout size place)).node child =
      links layout size place := by rw [setNode_node, if_pos rfl]
  have below' : (((heap.setNode child (links layout size place)).adopt
      (links layout size place).left child).node child).right =
      (links layout size place).right := by
    rw [adopt_node, below]
    split <;> rfl
  rw [here, adoptChildren, below, below', adopt_node, if_neg right, adopt_node, if_neg left,
    setNode_node, if_neg apart, here]

include compares in
/-- `heap_remove` puts the last node in the place of the removed one, lowers it and
raises it. -/
theorem remove_linked (linked : Linked heap layout size) {place : Nat}
    (inside : 1 ≤ place ∧ place ≤ size) :
    ∃ after, heap.remove lessThan (layout place) = .ok after ∧
      if place = size then Linked after layout (size - 1)
      else Linked after (raise key
          (lower key (Function.update layout place (layout size)) (size - 1) place).1
          (lower key (Function.update layout place (layout size)) (size - 1) place).2)
        (size - 1) := by
  have positive : 1 ≤ size := by omega
  have count : heap.nelts.toNat = size := linked.count
  have some_nodes : heap.nelts ≠ 0 := by
    rintro none
    rw [none] at count
    change 0 = size at count
    omega
  have found := find_linked linked heap.nelts (by omega) (by omega)
  rw [count] at found
  have last := load_slotOf linked positive (by omega)
  rw [if_pos (Nat.le_refl size)] at last
  have unlinked := unlink_linked linked positive
  by_cases same : place = size
  · refine ⟨{ heap with nelts := heap.nelts - 1 }.store none (slotOf layout size), ?_, ?_⟩
    · have others : ({ heap with nelts := heap.nelts - 1 }.store none (slotOf layout size)).min ≠
          some (layout size) := by
        rw [unlinked.root]
        split
        · rw [ne_eq, Option.some.injEq, layout_inj linked.distinct (by omega) (by omega)]
          omega
        · exact (Option.some_ne_none _).symm
      simp only [remove, if_neg some_nodes, found, ok_bind, last, same, if_true, if_neg others]
      rfl
    · rw [if_pos same]
      exact unlinked
  · have apart : layout size ≠ layout place := by
      rw [ne_eq, layout_inj linked.distinct (by omega) inside]
      exact Ne.symm same
    have outside : layout size ∉ members layout (size - 1) := by
      rw [members, Finset.mem_image]
      rintro ⟨other, bounded, equal⟩
      rw [Finset.mem_Icc] at bounded
      rw [layout_inj linked.distinct (by omega) (by omega)] at equal
      omega
    have there : 1 ≤ place ∧ place ≤ size - 1 := by omega
    have taken := takeOver_linked unlinked there outside
    obtain ⟨lowered, walked, below⟩ := walkDown_linked compares place (size - 1 + 1) taken there.1
      there.2 (by omega)
    rw [Function.update_self] at walked
    have element := lower_element key (Function.update layout place (layout size)) (size - 1) place
    rw [Function.update_self] at element
    have lowest := lower_place_inside key (Function.update layout place (layout size)) there.2
    have highest := le_lower_place key (Function.update layout place (layout size)) (size - 1) place
    obtain ⟨after, walked', ends⟩ := walkUp_linked compares
      (lower key (Function.update layout place (layout size)) (size - 1) place).2 (size - 1 + 1)
      below (by omega) lowest (by omega)
    rw [element] at walked'
    refine ⟨after, ?_, ?_⟩
    · simp only [remove, if_neg some_nodes, found, ok_bind, last, if_neg apart, replace,
        takeOver_parent unlinked there outside, taken.count, walked, below.count]
      exact walked'
    · rw [if_neg same]
      exact ends

end Remove

end NodeHeap

end MoeUV
