import MoeUV.Timers.NodeHeapOperations

/-!
# The heap as a set of nodes

A heap of linked nodes stands for the set of the nodes that have been inserted and
not been removed, and its minimum is one with the smallest key. Keys may change
while a node is outside.
-/

namespace MoeUV

open Foundation.BinaryHeap Foundation.Execution

variable {ν : Type} [DecidableEq ν]

namespace NodeHeap

section Representation

variable {κ : Type} [LinearOrder κ]

/-- The heap holds these nodes in the order of their keys. -/
def Represents (key : ν → κ) (heap : NodeHeap ν) (nodes : Finset ν) : Prop :=
  ∃ layout size, Linked heap layout size ∧ Ordered key layout size ∧ members layout size = nodes

variable {key : ν → κ} {heap : NodeHeap ν} {nodes : Finset ν} {node : ν}

omit [DecidableEq ν] in
/-- The empty heap has all its links right. -/
theorem linked_init (memory : ν → HeapNode ν) (layout : Nat → ν) :
    Linked (init memory) layout 0 := by
  refine ⟨rfl, rfl, ?_, ?_⟩
  · intro place inside
    simp at inside
  · omega

/-- It holds nothing. -/
theorem init_represents [Inhabited ν] (memory : ν → HeapNode ν) :
    Represents key (init memory) ∅ := by
  refine ⟨fun _ => default, 0, linked_init memory _, ?_, rfl⟩
  intro place second inside
  omega

/-- The keys of other nodes do not matter. -/
theorem Represents.congr {key' : ν → κ} (represents : Represents key heap nodes)
    (same : ∀ node ∈ nodes, key' node = key node) : Represents key' heap nodes := by
  obtain ⟨layout, size, linked, ordered, rfl⟩ := represents
  refine ⟨layout, size, linked, ?_, rfl⟩
  intro place second inside
  have member {other : Nat} (bounded : 1 ≤ other ∧ other ≤ size) :
      layout other ∈ members layout size :=
    Finset.mem_image_of_mem layout (Finset.mem_Icc.mpr bounded)
  rw [same _ (member (by omega)), same _ (member (by omega))]
  exact ordered place second inside

/-- The count of the heap is the number of what it holds. -/
theorem Represents.count (represents : Represents key heap nodes) :
    heap.nelts.toNat = nodes.card := by
  obtain ⟨layout, size, linked, _, rfl⟩ := represents
  rw [linked.count, card_members linked.distinct]

/-- There is no root exactly when nothing is held. -/
theorem Represents.min_eq_none (represents : Represents key heap nodes) :
    heap.min = none ↔ nodes = ∅ := by
  obtain ⟨layout, size, linked, _, rfl⟩ := represents
  rw [linked.root, ← Finset.card_eq_zero, card_members linked.distinct]
  split
  · exact iff_of_false (Option.some_ne_none _) (by omega)
  · exact iff_of_true rfl (by omega)

/-- The minimum is in the set, and no key is smaller. -/
theorem Represents.min_least (represents : Represents key heap nodes)
    (least : heap.min = some node) : node ∈ nodes ∧ ∀ other ∈ nodes, key node ≤ key other := by
  obtain ⟨layout, size, linked, ordered, rfl⟩ := represents
  rw [linked.root] at least
  split at least
  · rename_i positive
    cases least
    refine ⟨Finset.mem_image_of_mem layout (Finset.mem_Icc.mpr ⟨Nat.le_refl 1, positive⟩), ?_⟩
    intro other member
    obtain ⟨place, inside, rfl⟩ := Finset.mem_image.mp member
    rw [Finset.mem_Icc] at inside
    exact ordered.root_le inside.1 inside.2
  · cases least

variable {lessThan : ν → ν → Bool}
  (compares : ∀ first second, lessThan first second = true ↔ key first < key second)
include compares

/-- An insertion fails no assertion and adds the node. -/
theorem insert_represents (represents : Represents key heap nodes) (outside : node ∉ nodes)
    (room : nodes.card + 1 < 2 ^ 32) :
    ∃ after, heap.insert lessThan node = .ok after ∧
      Represents key after (Insert.insert node nodes) := by
  obtain ⟨layout, size, linked, ordered, rfl⟩ := represents
  rw [card_members linked.distinct] at room
  obtain ⟨after, inserted, ends⟩ := insert_linked compares linked outside room
  refine ⟨after, inserted, _, _, ends, raise_ordered (ordered.append node) (Nat.le_refl _), ?_⟩
  rw [members_raise (Nat.le_refl _), members_append]

/-- A removal takes out the node, wherever it is. -/
theorem remove_represents (represents : Represents key heap nodes) (inside : node ∈ nodes) :
    ∃ after, heap.remove lessThan node = .ok after ∧ Represents key after (nodes.erase node) := by
  obtain ⟨layout, size, linked, ordered, rfl⟩ := represents
  obtain ⟨place, there, rfl⟩ := Finset.mem_image.mp inside
  rw [Finset.mem_Icc] at there
  obtain ⟨after, removed, ends⟩ := remove_linked compares linked there
  refine ⟨after, removed, ?_⟩
  by_cases last : place = size
  · rw [if_pos last] at ends
    refine ⟨layout, size - 1, ends, ordered.drop, ?_⟩
    rw [members_drop linked.distinct (by omega), last]
  · rw [if_neg last] at ends
    have within : place ≤ size - 1 := by omega
    refine ⟨_, size - 1, ends, (ordered.fill (by omega)).restore there.1 within, ?_⟩
    rw [members_raise (lower_place_inside _ _ within), members_lower there.1,
      members_fill linked.distinct there.1 (by omega)]

/-- The root is taken out, if there is one. -/
theorem dequeue_represents (represents : Represents key heap nodes) :
    ∃ after, heap.dequeue lessThan = .ok after ∧
      Represents key after (heap.min.elim nodes nodes.erase) := by
  cases least : heap.min with
  | none =>
    have empty := represents.min_eq_none.mp least
    have count := represents.count
    rw [empty, Finset.card_empty] at count
    have none_left : heap.nelts = 0 := BitVec.eq_of_toNat_eq count
    refine ⟨heap, ?_, represents⟩
    simp only [dequeue, least, none_left, if_true]
  | some node =>
    obtain ⟨after, removed, ends⟩ := remove_represents compares represents
      (represents.min_least least).1
    refine ⟨after, ?_, ends⟩
    simp only [dequeue, least, removed]

end Representation

end NodeHeap

/-- A heap in use: the keys of the nodes, and which nodes are in it. -/
structure HeapUse (ν κ : Type) where
  heap : NodeHeap ν
  key : ν → κ
  held : Finset ν

inductive HeapAction (ν κ : Type) where
  | insert (node : ν)
  | remove (node : ν)
  | dequeue
  | rekey (node : ν) (key : κ)

namespace HeapUse

variable {κ : Type} [LinearOrder κ]

/-- The comparison that the caller passes to the heap. -/
def lessThan (state : HeapUse ν κ) (node other : ν) : Bool :=
  decide (state.key node < state.key other)

/-- Nodes are inserted while they are outside and removed while they are inside, and
there are fewer than `UINT_MAX` of them. -/
def Permits (state : HeapUse ν κ) : HeapAction ν κ → Prop
  | .insert node => node ∉ state.held ∧ state.held.card + 1 < 2 ^ 32
  | .remove node => node ∈ state.held
  | .dequeue => True
  | .rekey node _ => node ∉ state.held

def act (state : HeapUse ν κ) : HeapAction ν κ → Except HeapFault (HeapUse ν κ)
  | .insert node => do
    let heap ← state.heap.insert state.lessThan node
    pure { state with heap := heap, held := Insert.insert node state.held }
  | .remove node => do
    let heap ← state.heap.remove state.lessThan node
    pure { state with heap := heap, held := state.held.erase node }
  | .dequeue => do
    let heap ← state.heap.dequeue state.lessThan
    pure { state with heap := heap, held := state.heap.min.elim state.held state.held.erase }
  | .rekey node key => pure { state with key := Function.update state.key node key }

/-- The minimum of the heap is a node in it with the smallest key, and there is one
unless the heap is empty. -/
structure Sound (state : HeapUse ν κ) : Prop where
  count : state.heap.nelts.toNat = state.held.card
  empty : state.heap.min = none ↔ state.held = ∅
  least : ∀ node, state.heap.min = some node →
    node ∈ state.held ∧ ∀ other ∈ state.held, state.key node ≤ state.key other

end HeapUse

def heapSystem (ν κ : Type) [DecidableEq ν] [LinearOrder κ] :
    System (HeapUse ν κ) (HeapAction ν κ) HeapFault where
  enabled := HeapUse.Permits
  step := HeapUse.act

namespace HeapUse

variable {κ : Type} [LinearOrder κ] {state : HeapUse ν κ}

open NodeHeap

omit [DecidableEq ν] in
/-- The order of the heap is that of the keys. -/
theorem lessThan_compares (node other : ν) :
    state.lessThan node other = true ↔ state.key node < state.key other := decide_eq_true_iff

/-- Each operation does to the set what it says. -/
theorem act_represents (represents : Represents state.key state.heap state.held)
    {action : HeapAction ν κ} (permits : state.Permits action) :
    ∃ next, state.act action = .ok next ∧ Represents next.key next.heap next.held := by
  cases action with
  | insert node =>
    obtain ⟨heap, inserted, ends⟩ := insert_represents lessThan_compares represents permits.1
      permits.2
    exact ⟨_, by rw [act, inserted]; rfl, ends⟩
  | remove node =>
    obtain ⟨heap, removed, ends⟩ := remove_represents lessThan_compares represents permits
    exact ⟨_, by rw [act, removed]; rfl, ends⟩
  | dequeue =>
    obtain ⟨heap, dequeued, ends⟩ := dequeue_represents lessThan_compares represents
    exact ⟨_, by rw [act, dequeued]; rfl, ends⟩
  | rekey node key =>
    refine ⟨_, rfl, represents.congr fun other member => Function.update_of_ne ?_ _ _⟩
    rintro rfl
    exact permits member

/-- So what is said of the heap follows from what it holds. -/
theorem Sound.of_represents (represents : Represents state.key state.heap state.held) :
    Sound state :=
  ⟨represents.count, represents.min_eq_none, fun _ least => represents.min_least least⟩

/-- However the heap is used, it follows no null pointer, its loops end, and its
minimum is the smallest of the nodes that are in it. -/
theorem heap_sound [Inhabited ν] (memory : ν → HeapNode ν) (key : ν → κ)
    (actions : List (HeapAction ν κ))
    (legal : (heapSystem ν κ).Legal ⟨init memory, key, ∅⟩ actions) :
    (heapSystem ν κ).Throughout Sound ⟨init memory, key, ∅⟩ actions := by
  refine System.Throughout.mono _ (fun _ represents => Sound.of_represents represents)
    ((heapSystem ν κ).throughout_of_safe
      (fun state => Represents state.key state.heap state.held) ?_ (init_represents memory) legal)
  intro _ _ represents permits
  exact act_represents represents permits

instance (state : HeapUse ν κ) : (action : HeapAction ν κ) →
    Decidable ((heapSystem ν κ).enabled state action)
  | .insert node =>
    inferInstanceAs (Decidable (node ∉ state.held ∧ state.held.card + 1 < 2 ^ 32))
  | .remove node => inferInstanceAs (Decidable (node ∈ state.held))
  | .dequeue => inferInstanceAs (Decidable True)
  | .rekey node _ => inferInstanceAs (Decidable (node ∉ state.held))

/-- Six nodes, of which one leaves from the middle and gets another key. -/
theorem heap_sound_six :
    (heapSystem Nat Nat).Throughout Sound ⟨init fun _ => ⟨none, none, none⟩, id, ∅⟩
      [.insert 1, .insert 7, .insert 2, .insert 8, .insert 9, .insert 3, .remove 8, .rekey 8 0,
        .insert 8, .dequeue, .dequeue] :=
  heap_sound _ _ _ ((heapSystem Nat Nat).legal_of_check (by decide))

end HeapUse

end MoeUV
