import MoeUV.Foundation.BinaryHeap
import MoeUV.Timers.NodeHeap

/-!
# The linked nodes form a binary heap

A heap of linked nodes is read as a layout: the node at each place is linked to the
nodes at its children and at its parent, and no node is at two places. Swapping two
linked nodes exchanges two places of the layout, and walking down reaches the place
that the number names. So inserting and removing raise and lower in the layout.
-/

namespace MoeUV

open Foundation.BinaryHeap

namespace NodeHeap

variable {ν : Type}

/-- The links of the node at a place. -/
def links (layout : Nat → ν) (size place : Nat) : HeapNode ν where
  left := if 2 * place ≤ size then some (layout (2 * place)) else none
  right := if 2 * place + 1 ≤ size then some (layout (2 * place + 1)) else none
  parent := if 2 ≤ place then some (layout (place / 2)) else none

section Neighbours

variable {layout other : Nat → ν} {size place : Nat} {value : ν}

/-- The links of a node depend on what is at the places around it. -/
theorem links_congr (left : 2 * place ≤ size → other (2 * place) = layout (2 * place))
    (right : 2 * place + 1 ≤ size → other (2 * place + 1) = layout (2 * place + 1))
    (above : 2 ≤ place → other (place / 2) = layout (place / 2)) :
    links other size place = links layout size place := by
  rw [links, links]
  congr 1
  · exact if_ctx_congr Iff.rfl (fun there => congrArg some (left there)) fun _ => rfl
  · exact if_ctx_congr Iff.rfl (fun there => congrArg some (right there)) fun _ => rfl
  · exact if_ctx_congr Iff.rfl (fun there => congrArg some (above there)) fun _ => rfl

/-- A new node to the left, -/
theorem links_withLeft (there : 2 * place ≤ size) (left : other (2 * place) = value)
    (right : other (2 * place + 1) = layout (2 * place + 1))
    (above : other (place / 2) = layout (place / 2)) :
    links other size place = (links layout size place).withLeft (some value) := by
  rw [links, links, HeapNode.withLeft, if_pos there, left, right, above]

/-- one to the right, -/
theorem links_withRight (there : 2 * place + 1 ≤ size)
    (left : other (2 * place) = layout (2 * place)) (right : other (2 * place + 1) = value)
    (above : other (place / 2) = layout (place / 2)) :
    links other size place = (links layout size place).withRight (some value) := by
  rw [links, links, HeapNode.withRight, if_pos there, left, right, above]

/-- and one above. -/
theorem links_withParent (there : 2 ≤ place) (left : other (2 * place) = layout (2 * place))
    (right : other (2 * place + 1) = layout (2 * place + 1)) (above : other (place / 2) = value) :
    links other size place = (links layout size place).withParent (some value) := by
  rw [links, links, HeapNode.withParent, if_pos there, left, right, above]

end Neighbours

/-- The nodes are linked as the layout says. -/
structure Linked (heap : NodeHeap ν) (layout : Nat → ν) (size : Nat) : Prop where
  count : heap.nelts.toNat = size
  root : heap.min = if 1 ≤ size then some (layout 1) else none
  distinct : Set.InjOn layout (Finset.Icc 1 size)
  nodes : ∀ place, 1 ≤ place → place ≤ size → heap.node (layout place) = links layout size place

variable [DecidableEq ν]

section Lookup

variable (heap : NodeHeap ν) (node other value : ν) (link : Option ν)

/-- A node that is written is the only one that changes, -/
@[simp] theorem setNode_node (content : HeapNode ν) : (heap.setNode node content).node other =
    if other = node then content else heap.node other := Function.update_apply _ _ _ _

/-- and neither the root -/
@[simp] theorem setNode_min (content : HeapNode ν) : (heap.setNode node content).min = heap.min :=
  rfl

/-- nor the count does. -/
@[simp] theorem setNode_nelts (content : HeapNode ν) :
    (heap.setNode node content).nelts = heap.nelts := rfl

/-- A child that is there gets its new parent, and no other node changes. -/
theorem adopt_node : (heap.adopt link value).node other =
    if link = some other then (heap.node other).withParent (some value)
    else heap.node other := by
  cases link with
  | none => rfl
  | some node =>
    simp only [adopt, setParent, setNode_node, Option.some.injEq]
    by_cases same : node = other
    · rw [if_pos same.symm, if_pos same, same]
    · rw [if_neg (Ne.symm same), if_neg same]

/-- The root stays, -/
@[simp] theorem adopt_min : (heap.adopt link value).min = heap.min := by
  cases link <;> rfl

/-- and so does the count. -/
@[simp] theorem adopt_nelts : (heap.adopt link value).nelts = heap.nelts := by
  cases link <;> rfl

/-- The parent gets the new child on the side where it had the old one. -/
theorem relink_node : (heap.relink link node value).node other =
    if link = some other then
      if (heap.node other).left = some node then (heap.node other).withLeft (some value)
      else (heap.node other).withRight (some value)
    else heap.node other := by
  cases link with
  | none => rfl
  | some up =>
    simp only [relink, Option.some.injEq]
    by_cases same : up = other
    · subst same
      rw [if_pos rfl]
      split
      · rw [setLeft, setNode_node, if_pos rfl]
      · rw [setRight, setNode_node, if_pos rfl]
    · rw [if_neg same]
      split
      · rw [setLeft, setNode_node, if_neg (Ne.symm same)]
      · rw [setRight, setNode_node, if_neg (Ne.symm same)]

/-- Without a parent the new child is the root. -/
theorem relink_min : (heap.relink link node value).min =
    if link = none then some value else heap.min := by
  cases link with
  | none => rfl
  | some up =>
    rw [if_neg (Option.some_ne_none up), relink]
    split <;> rfl

/-- The count stays. -/
@[simp] theorem relink_nelts : (heap.relink link node value).nelts = heap.nelts := by
  cases link with
  | none => rfl
  | some up =>
    rw [relink]
    split <;> rfl

/-- The links of the two nodes are exchanged without a look at the root, -/
@[simp] theorem exchangeLinks_min : (heap.exchangeLinks node other).min = heap.min := rfl

/-- and the count stays. -/
@[simp] theorem exchangeLinks_nelts : (heap.exchangeLinks node other).nelts = heap.nelts := rfl

/-- The same holds when the parent is put below, -/
@[simp] theorem linkBelow_min : (heap.linkBelow node other).min = heap.min := by
  rw [linkBelow]
  split <;> rw [adopt_min] <;> rfl

/-- where it is counted as before, -/
@[simp] theorem linkBelow_nelts : (heap.linkBelow node other).nelts = heap.nelts := by
  rw [linkBelow]
  split <;> rw [adopt_nelts] <;> rfl

/-- and when the children are told who their parent is, -/
@[simp] theorem adoptChildren_min : (heap.adoptChildren node).min = heap.min := by
  rw [adoptChildren, adopt_min, adopt_min]

/-- whose number is the same. -/
@[simp] theorem adoptChildren_nelts : (heap.adoptChildren node).nelts = heap.nelts := by
  rw [adoptChildren, adopt_nelts, adopt_nelts]

end Lookup

section Places

variable {heap : NodeHeap ν} {layout : Nat → ν} {size : Nat}

omit [DecidableEq ν] in
/-- No node is at two places of the heap. -/
theorem layout_inj (distinct : Set.InjOn layout (Finset.Icc 1 size)) {place other : Nat}
    (inside : 1 ≤ place ∧ place ≤ size) (inside' : 1 ≤ other ∧ other ≤ size) :
    layout place = layout other ↔ place = other := by
  constructor
  · intro same
    exact distinct (Finset.mem_coe.mpr (Finset.mem_Icc.mpr inside))
      (Finset.mem_coe.mpr (Finset.mem_Icc.mpr inside')) same
  · intro same
    rw [same]

/-- The contents of the nodes of a layout, place by place. -/
def Holds (heap : NodeHeap ν) (layout : Nat → ν) (size : Nat) (content : Nat → HeapNode ν) :
    Prop :=
  ∀ place, 1 ≤ place → place ≤ size → heap.node (layout place) = content place

variable {content : Nat → HeapNode ν} (distinct : Set.InjOn layout (Finset.Icc 1 size))
  (holds : Holds heap layout size content)
include distinct holds

/-- What is written to a node is written at its place, and nowhere else. -/
theorem Holds.setNode {place : Nat} (inside : 1 ≤ place ∧ place ≤ size) (links : HeapNode ν) :
    Holds (heap.setNode (layout place) links) layout size
      (Function.update content place links) := by
  intro other positive bounded
  rw [setNode_node, Function.update_apply, holds other positive bounded]
  simp only [layout_inj distinct ⟨positive, bounded⟩ inside]

omit holds [DecidableEq ν] in
/-- A link that leads to a place, if that place is there. -/
theorem leads_iff {child other : Nat} (positive : 1 ≤ child) (inside : 1 ≤ other ∧ other ≤ size) :
    (if child ≤ size then some (layout child) else none) = some (layout other) ↔ other = child := by
  split
  · rw [Option.some.injEq, layout_inj distinct ⟨positive, by assumption⟩ inside]
    exact eq_comm
  · refine iff_of_false (fun absent => by cases absent) (by omega)

/-- Adopting what such a link leads to. -/
theorem Holds.adopt (child : Nat) (positive : 1 ≤ child) (value : ν) :
    Holds (heap.adopt (if child ≤ size then some (layout child) else none) value) layout size
      (Function.update content child ((content child).withParent (some value))) := by
  intro other positive' bounded
  rw [adopt_node, holds other positive' bounded, Function.update_apply]
  simp only [leads_iff distinct positive ⟨positive', bounded⟩]
  by_cases same : other = child
  · rw [if_pos same, if_pos same, same]
  · rw [if_neg same, if_neg same]

end Places

section Swap

variable {heap : NodeHeap ν} {layout : Nat → ν} {size place : Nat}

omit [DecidableEq ν] in
/-- Two descriptions of the places that agree describe the same heap. -/
theorem Holds.congr {content other : Nat → HeapNode ν} (holds : Holds heap layout size content)
    (same : ∀ place, 1 ≤ place → place ≤ size → content place = other place) :
    Holds heap layout size other := by
  intro place positive bounded
  rw [holds place positive bounded, same place positive bounded]

/-- The nodes after the links of a parent and a child have been exchanged. -/
def exchanged (layout : Nat → ν) (size place other : Nat) : HeapNode ν :=
  if other = place / 2 then (links layout size place).withParent (some (layout place))
  else if other = place then links layout size (place / 2)
  else links layout size other

/-- The first step of `heap_node_swap`: parent and child have the links of each other, so two of
them point to themselves for now. -/
theorem exchangeLinks_holds (linked : Linked heap layout size) (below : 2 ≤ place)
    (inside : place ≤ size) :
    Holds (heap.exchangeLinks (layout (place / 2)) (layout place)) layout size
      (exchanged layout size place) := by
  have distinct := linked.distinct
  have up : 1 ≤ place / 2 ∧ place / 2 ≤ size := by omega
  have down : 1 ≤ place ∧ place ≤ size := by omega
  have first := Holds.setNode distinct linked.nodes up (links layout size place)
  have second := Holds.setNode distinct first down (links layout size (place / 2))
  have third := Holds.setNode distinct second up
    ((links layout size place).withParent (some (layout place)))
  have atUp := second (place / 2) up.1 up.2
  rw [Function.update_of_ne (by omega), Function.update_self] at atUp
  rw [exchangeLinks, setParent, linked.nodes _ up.1 up.2, linked.nodes _ down.1 down.2, atUp]
  refine third.congr fun other _ _ => ?_
  simp only [Function.update_apply, exchanged]
  split
  · rfl
  · rfl

/-- The nodes after the child has been linked to the parent and to the sibling. -/
def linkedBelow (layout : Nat → ν) (size place other : Nat) : HeapNode ν :=
  if other = place / 2 then (links layout size place).withParent (some (layout place))
  else if other = place then
    if place = 2 * (place / 2) then
      (links layout size (place / 2)).withLeft (some (layout (place / 2)))
    else (links layout size (place / 2)).withRight (some (layout (place / 2)))
  else if other / 2 = place / 2 then (links layout size other).withParent (some (layout place))
  else links layout size other

/-- The second step: the old parent is below, on the side where its child was, and the sibling is
on the other side. -/
theorem linkBelow_holds (distinct : Set.InjOn layout (Finset.Icc 1 size))
    (holds : Holds heap layout size (exchanged layout size place)) (below : 2 ≤ place)
    (inside : place ≤ size) :
    Holds (heap.linkBelow (layout (place / 2)) (layout place)) layout size
      (linkedBelow layout size place) := by
  have down : 1 ≤ place ∧ place ≤ size := by omega
  have atDown := holds place down.1 down.2
  rw [exchanged, if_neg (by omega), if_pos rfl] at atDown
  have side : (heap.node (layout place)).left = some (layout place) ↔ place = 2 * (place / 2) := by
    rw [atDown]
    exact leads_iff distinct (by omega) down
  by_cases even : place = 2 * (place / 2)
  · rw [linkBelow, if_pos (side.mpr even), setLeft, atDown]
    have first := Holds.setNode distinct holds down
      ((links layout size (place / 2)).withLeft (some (layout (place / 2))))
    have second := Holds.adopt distinct first (2 * (place / 2) + 1) (by omega)
      (layout place)
    refine second.congr fun other _ _ => ?_
    simp only [Function.update_apply, exchanged, linkedBelow]
    by_cases up : other = place / 2
    · rw [if_neg (by omega), if_neg (by omega), if_pos up, if_pos up]
    · by_cases own : other = place
      · rw [if_neg (by omega), if_pos own, if_neg up, if_pos own, if_pos even]
      · by_cases sibling : other / 2 = place / 2
        · have right : other = 2 * (place / 2) + 1 := by omega
          rw [← right, if_pos rfl, if_neg own, if_neg up, if_neg own, if_neg up, if_neg own,
            if_pos sibling]
        · rw [if_neg (by omega), if_neg own, if_neg up, if_neg own, if_neg up, if_neg own,
            if_neg sibling]
  · rw [linkBelow, if_neg (fun own => even (side.mp own)), setRight, atDown]
    have first := Holds.setNode distinct holds down
      ((links layout size (place / 2)).withRight (some (layout (place / 2))))
    have second := Holds.adopt distinct first (2 * (place / 2)) (by omega) (layout place)
    refine second.congr fun other _ _ => ?_
    simp only [Function.update_apply, exchanged, linkedBelow]
    by_cases up : other = place / 2
    · rw [if_neg (by omega), if_neg (by omega), if_pos up, if_pos up]
    · by_cases own : other = place
      · rw [if_neg (by omega), if_pos own, if_neg up, if_pos own, if_neg even]
      · by_cases sibling : other / 2 = place / 2
        · have left : other = 2 * (place / 2) := by omega
          rw [← left, if_pos rfl, if_neg own, if_neg up, if_neg own, if_neg up, if_neg own,
            if_pos sibling]
        · rw [if_neg (by omega), if_neg own, if_neg up, if_neg own, if_neg up, if_neg own,
            if_neg sibling]

omit [DecidableEq ν] in
/-- Up to then the children of the child are linked as before. -/
theorem linkedBelow_child (below : 2 ≤ place) {other : Nat} (child : other / 2 = place) :
    linkedBelow layout size place other = links layout size other := by
  rw [linkedBelow, if_neg (by omega), if_neg (by omega), if_neg (by omega)]

/-- The nodes after the children of the child have been given to the parent. -/
def adopted (layout : Nat → ν) (size place other : Nat) : HeapNode ν :=
  if other / 2 = place then (links layout size other).withParent (some (layout (place / 2)))
  else linkedBelow layout size place other

/-- The third step: the children of the old child learn that the old parent is theirs. -/
theorem adoptChildren_holds (distinct : Set.InjOn layout (Finset.Icc 1 size))
    (holds : Holds heap layout size (linkedBelow layout size place)) (below : 2 ≤ place)
    (inside : place ≤ size) :
    Holds (heap.adoptChildren (layout (place / 2))) layout size (adopted layout size place) := by
  have up : 1 ≤ place / 2 ∧ place / 2 ≤ size := by omega
  have atUp := holds (place / 2) up.1 up.2
  rw [linkedBelow, if_pos rfl] at atUp
  have first := Holds.adopt distinct holds (2 * place) (by omega) (layout (place / 2))
  have again := first (place / 2) up.1 up.2
  rw [Function.update_of_ne (by omega), linkedBelow, if_pos rfl] at again
  have second := Holds.adopt distinct first (2 * place + 1) (by omega)
    (layout (place / 2))
  have left : (heap.node (layout (place / 2))).left =
      if 2 * place ≤ size then some (layout (2 * place)) else none := by
    rw [atUp]
    rfl
  rw [← left] at again second
  have right : ((heap.adopt (heap.node (layout (place / 2))).left (layout (place / 2))).node
      (layout (place / 2))).right =
      if 2 * place + 1 ≤ size then some (layout (2 * place + 1)) else none := by
    rw [again]
    rfl
  rw [adoptChildren, right]
  refine second.congr fun other _ _ => ?_
  simp only [Function.update_apply, adopted]
  by_cases child : other / 2 = place
  · rw [if_pos child, ← linkedBelow_child below child]
    by_cases odd : other = 2 * place + 1
    · rw [if_pos odd, if_neg (by omega), ← odd]
    · have even : other = 2 * place := by omega
      rw [if_neg odd, if_pos even, ← even]
  · rw [if_neg (by omega), if_neg (by omega), if_neg child]

/-- The nodes after the swap. -/
def swapped (layout : Nat → ν) (size place other : Nat) : HeapNode ν :=
  if other = place / 2 / 2 then
    if place / 2 = 2 * other then (links layout size other).withLeft (some (layout place))
    else (links layout size other).withRight (some (layout place))
  else adopted layout size place other

/-- The last step: the parent of the two, or the root of the heap, points to the one that has
moved up. -/
theorem relink_holds (distinct : Set.InjOn layout (Finset.Icc 1 size))
    (holds : Holds heap layout size (adopted layout size place)) (below : 2 ≤ place)
    (inside : place ≤ size) :
    Holds (heap.relink (links layout size (place / 2)).parent (layout (place / 2)) (layout place))
      layout size (swapped layout size place) := by
  have up : 1 ≤ place / 2 ∧ place / 2 ≤ size := by omega
  intro other positive bounded
  have there : 1 ≤ other ∧ other ≤ size := ⟨positive, bounded⟩
  have above : (links layout size (place / 2)).parent = some (layout other) ↔
      other = place / 2 / 2 := by
    change (if 2 ≤ place / 2 then some (layout (place / 2 / 2)) else none) = _ ↔ _
    split
    · rw [Option.some.injEq, layout_inj distinct (by omega) there]
      exact eq_comm
    · refine iff_of_false (fun absent => by cases absent) (by omega)
  have side : (links layout size other).left = some (layout (place / 2)) ↔
      place / 2 = 2 * other := leads_iff distinct (by omega) up
  rw [relink_node, holds other positive bounded, swapped]
  simp only [above]
  by_cases grand : other = place / 2 / 2
  · have same : adopted layout size place other = links layout size other := by
      rw [adopted, if_neg (by omega), linkedBelow, if_neg (by omega), if_neg (by omega),
        if_neg (by omega)]
    simp only [if_pos grand, same, side]
  · rw [if_neg grand, if_neg grand]

omit [DecidableEq ν] in
/-- The links after an exchange of a place and its parent. The cases are the two places
themselves, the parent of the upper one, the children of the lower one, the other child of the
upper one, and all that are not near them. -/
theorem swapped_eq (below : 2 ≤ place) (inside : place ≤ size) {other : Nat}
    (positive : 1 ≤ other) :
    swapped layout size place (Equiv.swap (place / 2) place other) =
      links (exchange layout (place / 2) place) size other := by
  have away {spot : Nat} (one : spot ≠ place / 2) (two : spot ≠ place) :
      exchange layout (place / 2) place spot = layout spot := exchange_other one two
  by_cases up : other = place / 2
  · rw [up, Equiv.swap_apply_left, swapped, if_neg (by omega), adopted, if_neg (by omega),
      linkedBelow, if_neg (by omega), if_pos rfl]
    have above := away (by omega : place / 2 / 2 ≠ place / 2) (by omega)
    by_cases even : place = 2 * (place / 2)
    · rw [if_pos even]
      refine (links_withLeft (by omega) ?_ (away (by omega) (by omega)) above).symm
      rw [← even, exchange_second]
    · have odd : place = 2 * (place / 2) + 1 := by omega
      rw [if_neg even]
      refine (links_withRight (by omega) (away (by omega) (by omega)) ?_ above).symm
      rw [← odd, exchange_second]
  · by_cases down : other = place
    · rw [down, Equiv.swap_apply_right, swapped, if_neg (by omega), adopted, if_neg (by omega),
        linkedBelow, if_pos rfl]
      exact (links_withParent below (away (by omega) (by omega))
        (away (by omega) (by omega)) exchange_first).symm
    · rw [Equiv.swap_apply_of_ne_of_ne up down, swapped]
      by_cases grand : other = place / 2 / 2
      · have above := away (by omega : other / 2 ≠ place / 2) (by omega)
        rw [if_pos grand]
        by_cases even : place / 2 = 2 * other
        · rw [if_pos even]
          refine (links_withLeft (by omega) ?_ (away (by omega) (by omega)) above).symm
          rw [← even, exchange_first]
        · have odd : place / 2 = 2 * other + 1 := by omega
          rw [if_neg even]
          refine (links_withRight (by omega) (away (by omega) (by omega)) ?_ above).symm
          rw [← odd, exchange_first]
      · rw [if_neg grand, adopted]
        have left := away (by omega : 2 * other ≠ place / 2) (by omega)
        have right := away (by omega : 2 * other + 1 ≠ place / 2) (by omega)
        by_cases child : other / 2 = place
        · rw [if_pos child]
          refine (links_withParent (by omega) left right ?_).symm
          rw [child, exchange_second]
        · rw [if_neg child, linkedBelow, if_neg up, if_neg down]
          by_cases sibling : other / 2 = place / 2
          · rw [if_pos sibling]
            refine (links_withParent (by omega) left right ?_).symm
            rw [sibling, exchange_first]
          · rw [if_neg sibling]
            exact (links_congr (fun _ => left) (fun _ => right)
              fun _ => away sibling child).symm

/-- Swapping a linked parent and child exchanges their places. Each part of the function changes
what the layout says of a few places, and what it says in the end is the exchange. -/
theorem nodeSwap_linked (linked : Linked heap layout size) (below : 2 ≤ place)
    (inside : place ≤ size) :
    Linked (heap.nodeSwap (layout (place / 2)) (layout place)) (exchange layout (place / 2) place)
      size := by
  have distinct := linked.distinct
  have up : 1 ≤ place / 2 ∧ place / 2 ≤ size := by omega
  have down : 1 ≤ place ∧ place ≤ size := by omega
  have first := exchangeLinks_holds linked below inside
  have second := linkBelow_holds distinct first below inside
  have third := adoptChildren_holds distinct second below inside
  have fourth := relink_holds distinct third below inside
  have parent := third place down.1 down.2
  rw [adopted, if_neg (by omega), linkedBelow, if_neg (by omega), if_pos rfl] at parent
  have final : heap.nodeSwap (layout (place / 2)) (layout place) =
      (((heap.exchangeLinks (layout (place / 2)) (layout place)).linkBelow (layout (place / 2))
        (layout place)).adoptChildren (layout (place / 2))).relink
        (links layout size (place / 2)).parent (layout (place / 2)) (layout place) := by
    rw [nodeSwap, parent]
    split <;> rfl
  rw [final]
  constructor
  · rw [relink_nelts, adoptChildren_nelts, linkBelow_nelts, exchangeLinks_nelts, linked.count]
  · rw [relink_min, adoptChildren_min, linkBelow_min, exchangeLinks_min, linked.root]
    by_cases root : place / 2 = 1
    · have top : (links layout size (place / 2)).parent = none := if_neg (by omega)
      have there : 1 ≤ size := by omega
      rw [if_pos top, if_pos there, root, exchange_first]
    · have under : (links layout size (place / 2)).parent ≠ none := by
        change (if 2 ≤ place / 2 then some (layout (place / 2 / 2)) else none) ≠ none
        rw [if_pos (by omega)]
        exact Option.some_ne_none _
      rw [if_neg under, exchange_other (by omega) (by omega)]
  · exact injOn_exchange (Finset.mem_Icc.mpr up) (Finset.mem_Icc.mpr down) distinct
  · intro other positive bounded
    rw [← swapped_eq below inside positive]
    have moved := swap_inside (Finset.mem_Icc.mpr up) (Finset.mem_Icc.mpr down)
      (Finset.mem_Icc.mpr ⟨positive, bounded⟩)
    rw [Finset.mem_Icc] at moved
    exact fourth _ moved.1 moved.2

end Swap

section Paths

/-- The place that a path leads to. -/
def reach : Nat → Nat → Nat → Nat
  | 0, _, place => place
  | k + 1, path, place => reach k (path / 2) (2 * place + path % 2)

/-- A path of so many steps from a place ends that far behind it, or further. -/
theorem le_reach (k path place : Nat) (positive : 1 ≤ place) : place + k ≤ reach k path place := by
  induction k generalizing path place with
  | zero => exact Nat.le_refl place
  | succ k inductionHypothesis =>
    have onward := inductionHypothesis (path / 2) (2 * place + path % 2) (by omega)
    rw [reach]
    omega

/-- Appending a digit to the path of a number. -/
theorem toNat_append (path n : BitVec 32) (room : path.toNat < 2 ^ 31) :
    ((path <<< 1) ||| (n &&& 1)).toNat = 2 * path.toNat + n.toNat % 2 := by
  have one : (1 : BitVec 32).toNat = 1 := rfl
  have below : n.toNat % 2 < 2 ^ 1 := Nat.mod_lt _ (by decide)
  rw [BitVec.toNat_or, BitVec.toNat_and, BitVec.toNat_shiftLeft, one, Nat.and_one_is_mod,
    Nat.shiftLeft_eq, Nat.mod_eq_of_lt (by omega), Nat.mul_comm,
    ← Nat.two_pow_add_eq_or_of_lt below, Nat.pow_one]

/-- The computed path leads from the root to the place of the number. The loop keeps the path so
far and the number of the place from which it leads to the one that was asked for. -/
theorem reach_heapPath (n : BitVec 32) (positive : 1 ≤ n.toNat) :
    reach (heapPath n).2 (heapPath n).1.toNat 1 = n.toNat := by
  refine heapPathLoop.run_rule
    (fun state => 1 ≤ state.n.toNat ∧ state.path.toNat < 2 ^ state.k ∧
      state.n.toNat * 2 ^ state.k < 2 ^ 32 ∧ reach state.k state.path.toNat state.n.toNat = n.toNat)
    (fun result => reach result.2 result.1.toNat 1 = n.toNat) ?_ ?_ _ ?_
  · rintro ⟨path, k, left⟩ next ⟨one, short, fits, leads⟩ pass
    dsimp only at one short fits leads
    simp only [heapPathLoop, heapPathBody] at pass
    split at pass
    · rename_i large
      cases pass
      rw [BitVec.le_def] at large
      have two : (2 : BitVec 32).toNat = 2 := rfl
      rw [two] at large
      have half : 2 ^ k < 2 ^ 31 := by
        have double : 2 * 2 ^ k ≤ left.toNat * 2 ^ k := Nat.mul_le_mul_right _ large
        omega
      have appended := toNat_append path left (short.trans half)
      have halved : (left / 2).toNat = left.toNat / 2 := by rw [BitVec.toNat_udiv, two]
      refine ⟨?_, ?_, ?_, ?_⟩
      · rw [halved]
        omega
      · rw [appended, Nat.pow_succ]
        omega
      · rw [halved, Nat.pow_succ, Nat.mul_comm (2 ^ k), ← Nat.mul_assoc]
        exact Nat.lt_of_le_of_lt (Nat.mul_le_mul_right _ (Nat.div_mul_le_self _ _)) fits
      · have digit : (2 * path.toNat + left.toNat % 2) % 2 = left.toNat % 2 := by omega
        have others : (2 * path.toNat + left.toNat % 2) / 2 = path.toNat := by omega
        rw [appended, halved, reach, digit, others, Nat.div_add_mod]
        exact leads
    · cases pass
  · rintro ⟨path, k, left⟩ result ⟨one, short, fits, leads⟩ pass
    dsimp only at one leads
    simp only [heapPathLoop, heapPathBody] at pass
    split at pass
    · cases pass
    · rename_i small
      cases pass
      have two : (2 : BitVec 32).toNat = 2 := rfl
      rw [BitVec.le_def, two] at small
      have root : left.toNat = 1 := by omega
      rw [← root]
      exact leads
  · exact ⟨positive, Nat.zero_lt_one, by have bounded := n.isLt; simpa using bounded, rfl⟩

end Paths

end NodeHeap

end MoeUV
