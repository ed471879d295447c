import Mathlib.Data.List.Chain
import Mathlib.Data.List.Nodup
import Mathlib.Logic.Function.Basic
import Mathlib.Tactic.Common

/-!
# Rings of linked nodes

Every node has a link to the next node and one to the previous. A ring is a node
called its head with a list of others such that the links lead from each to the
next, from the last back to the head, and the same way back. Rings are taken apart
and put together at joints, where a node and the one after it link to each other;
links of other nodes do not matter.
-/

namespace Foundation.Rings

universe u
variable {α : Type u}

/-- The links of all nodes. -/
structure Links (α : Type u) where
  next : α → α
  prev : α → α

namespace Links

variable (links : Links α)

/-- The two nodes link to each other. -/
def Joined (node other : α) : Prop := links.next node = other ∧ links.prev other = node

/-- Each node is joined to the one after it. -/
def Segment (nodes : List α) : Prop := nodes.IsChain links.Joined

/-- The head and the nodes after it are different and form a ring. -/
structure Ring (head : α) (nodes : List α) : Prop where
  joined : links.Segment (head :: nodes ++ [head])
  distinct : (head :: nodes).Nodup

section Assignment

variable [DecidableEq α] (node value other : α)

def setNext : Links α := { links with next := Function.update links.next node value }

def setPrev : Links α := { links with prev := Function.update links.prev node value }

/-- Only the successor of this node changes. -/
@[simp] theorem setNext_next : (links.setNext node value).next other =
    if other = node then value else links.next other := Function.update_apply _ _ _ _

/-- Setting a successor leaves the predecessors alone. -/
@[simp] theorem setNext_prev : (links.setNext node value).prev = links.prev := rfl

/-- Setting a predecessor leaves the successors alone. -/
@[simp] theorem setPrev_next : (links.setPrev node value).next = links.next := rfl

/-- Only the predecessor of this node changes. -/
@[simp] theorem setPrev_prev : (links.setPrev node value).prev other =
    if other = node then value else links.prev other := Function.update_apply _ _ _ _

end Assignment

variable {links} {other : Links α} {head node : α} {nodes before after : List α}

/-- A segment depends on the links inside of it. -/
theorem Segment.congr (segment : links.Segment nodes)
    (next : ∀ node ∈ nodes.dropLast, other.next node = links.next node)
    (prev : ∀ node ∈ nodes.tail, other.prev node = links.prev node) : other.Segment nodes := by
  induction nodes with
  | nil => exact .nil
  | cons first rest inductionHypothesis =>
    cases rest with
    | nil => exact .singleton first
    | cons second rest =>
      obtain ⟨joined, onward⟩ := List.isChain_cons_cons.mp segment
      refine List.isChain_cons_cons.mpr ⟨⟨?_, ?_⟩, inductionHypothesis onward ?_ ?_⟩
      · rw [next first (by simp)]
        exact joined.1
      · rw [prev second (by simp)]
        exact joined.2
      · intro node member
        refine next node ?_
        rw [List.dropLast_cons_of_ne_nil (by simp)]
        exact List.mem_cons_of_mem _ member
      · intro node member
        exact prev node (List.mem_of_mem_tail member)

/-- A ring depends on the links of its nodes. -/
theorem Ring.congr (ring : links.Ring head nodes)
    (same : ∀ node ∈ head :: nodes, other.next node = links.next node ∧
      other.prev node = links.prev node) : other.Ring head nodes := by
  refine ⟨ring.joined.congr (fun node member => (same node ?_).1)
    (fun node member => (same node ?_).2), ring.distinct⟩
  · rwa [List.dropLast_concat] at member
  · rw [List.cons_append, List.tail_cons, List.mem_append, List.mem_singleton] at member
    rcases member with inside | rfl
    · exact List.mem_cons_of_mem _ inside
    · exact List.mem_cons_self

/-- The head of an empty ring is linked to itself. -/
theorem ring_nil : links.Ring head [] ↔ links.next head = head ∧ links.prev head = head := by
  constructor
  · intro ring
    exact (List.isChain_cons_cons.mp ring.joined).1
  · intro joined
    exact ⟨List.isChain_cons_cons.mpr ⟨joined, .singleton _⟩, by simp⟩

/-- The link of the head leads to the first node. -/
theorem Ring.next_head (ring : links.Ring head (node :: nodes)) : links.next head = node :=
  (List.isChain_cons_cons.mp ring.joined).1.1

/-- The head links to itself exactly when there are no other nodes. -/
theorem Ring.next_head_self (ring : links.Ring head nodes) :
    links.next head = head ↔ nodes = [] := by
  cases nodes with
  | nil => exact iff_of_true (ring_nil.mp ring).1 rfl
  | cons node rest =>
    rw [ring.next_head]
    refine iff_of_false ?_ (List.cons_ne_nil _ _)
    rintro rfl
    exact (List.nodup_cons.mp ring.distinct).1 List.mem_cons_self

/-- The last node of a list, and the nodes before it. -/
theorem exists_last (head : α) (nodes : List α) :
    ∃ start last, head :: nodes = start ++ [last] ∧ last ∈ head :: nodes :=
  ⟨(head :: nodes).dropLast, (head :: nodes).getLast (List.cons_ne_nil _ _),
    (List.dropLast_append_getLast _).symm, List.getLast_mem _⟩

/-- The first node of a list with the head behind it. -/
theorem exists_first (head : α) (nodes : List α) :
    ∃ first rest, nodes ++ [head] = first :: rest ∧ first ∈ head :: nodes := by
  cases nodes with
  | nil => exact ⟨head, [], rfl, List.mem_cons_self⟩
  | cons node rest => exact ⟨node, rest ++ [head], rfl, List.mem_cons_of_mem _ List.mem_cons_self⟩

section Joints

variable {start rest : List α} {left right : α}

/-- A ring is cut at the joint between two of its nodes: `left` is the last node up to
there, and `right` the first one after, or the head. -/
theorem Ring.cut (before after : List α) (ring : links.Ring head (before ++ after))
    (ends : head :: before = start ++ [left])
    (begins : after ++ [head] = right :: rest) :
    links.Segment (head :: before) ∧ links.Joined left right ∧ links.Segment (after ++ [head]) := by
  have joined := ring.joined
  rw [List.cons_append, List.append_assoc, ← List.cons_append, ends, begins, List.append_assoc,
    List.singleton_append, Segment, List.isChain_append_cons_cons] at joined
  rw [ends, begins]
  exact joined

/-- Two segments make one, if the last node of the first is joined to the first node of the
second. -/
theorem segment_join (segment : links.Segment (head :: before))
    (ends : head :: before = start ++ [left]) (joined : links.Joined left right)
    (begins : after ++ [head] = right :: rest) (segment' : links.Segment (after ++ [head])) :
    links.Segment (head :: (before ++ after) ++ [head]) := by
  rw [List.cons_append, List.append_assoc, ← List.cons_append, ends, begins, List.append_assoc,
    List.singleton_append, Segment, List.isChain_append_cons_cons, ← ends, ← begins]
  exact ⟨segment, joined, segment'⟩

/-- The last node of a list is none of the nodes before it. -/
theorem ne_last (distinct : (start ++ [left]).Nodup) (member : node ∈ start) : node ≠ left :=
  fun same => List.disjoint_of_nodup_append distinct member (List.mem_singleton.mpr same)

/-- The first node of a list is none of the nodes after it. -/
theorem ne_first (distinct : (right :: rest).Nodup) (member : node ∈ rest) : node ≠ right :=
  ne_of_mem_of_not_mem member (List.nodup_cons.mp distinct).1

/-- The parts on both sides of a joint do not depend on its links. The head is no node of either
part, and the last node before the joint and the first one behind it occur once, so the links
that may differ are read nowhere else. -/
theorem parts (distinct : (head :: (before ++ after)).Nodup)
    (segment : links.Segment (head :: before)) (segment' : links.Segment (after ++ [head]))
    (ends : head :: before = start ++ [left]) (begins : after ++ [head] = right :: rest)
    (next : ∀ node ∈ head :: (before ++ after), node ≠ left → other.next node = links.next node)
    (prev : ∀ node ∈ head :: (before ++ after), node ≠ right → other.prev node = links.prev node) :
    other.Segment (head :: before) ∧ other.Segment (after ++ [head]) := by
  have around : ((head :: before) ++ after).Nodup := distinct
  have apart : (head :: before).Disjoint after := List.disjoint_of_nodup_append around
  have early : (start ++ [left]).Nodup := ends ▸ around.of_append_left
  have turned : (after ++ [head]).Nodup :=
    List.nodup_append_comm.mp (List.nodup_cons.mpr
      ⟨fun member => apart List.mem_cons_self member, around.of_append_right⟩)
  have late : (right :: rest).Nodup := begins ▸ turned
  have leftmost : left ∈ head :: before := by
    rw [ends]
    exact List.mem_append_right start (List.mem_singleton_self left)
  have rightmost : right ∈ after ++ [head] := by
    rw [begins]
    exact List.mem_cons_self
  constructor
  · refine segment.congr (fun node member => next node ?_ ?_) (fun node member => prev node ?_ ?_)
    · exact List.mem_append_left after (List.dropLast_subset _ member)
    · rw [ends, List.dropLast_concat] at member
      exact ne_last early member
    · exact List.mem_append_left after (List.mem_of_mem_tail member)
    · rintro rfl
      rcases List.mem_append.mp rightmost with behind | first
      · exact apart (List.mem_of_mem_tail member) behind
      · rw [List.mem_singleton.mp first, List.tail_cons] at member
        exact (List.nodup_cons.mp around.of_append_left).1 member
  · refine segment'.congr (fun node member => next node ?_ ?_) (fun node member => prev node ?_ ?_)
    · rw [List.dropLast_concat] at member
      exact List.mem_append_right (head :: before) member
    · rw [List.dropLast_concat] at member
      rintro rfl
      exact apart leftmost member
    · rcases List.mem_append.mp (List.mem_of_mem_tail member) with behind | first
      · exact List.mem_append_right (head :: before) behind
      · rw [List.mem_singleton.mp first]
        exact List.mem_cons_self
    · rw [begins, List.tail_cons] at member
      exact ne_first late member

/-- A node is put between two others. -/
theorem Ring.insert (before after : List α) (ring : links.Ring head (before ++ after))
    (outside : node ∉ head :: (before ++ after)) (ends : head :: before = start ++ [left])
    (begins : after ++ [head] = right :: rest) (toNode : other.Joined left node)
    (fromNode : other.Joined node right)
    (next : ∀ node ∈ head :: (before ++ after), node ≠ left → other.next node = links.next node)
    (prev : ∀ node ∈ head :: (before ++ after), node ≠ right → other.prev node = links.prev node) :
    other.Ring head (before ++ node :: after) := by
  obtain ⟨first, _, second⟩ := Ring.cut _ _ ring ends begins
  obtain ⟨segment, segment'⟩ := parts ring.distinct first second ends begins next prev
  have distinct : ((head :: before) ++ node :: after).Nodup :=
    List.nodup_middle.mpr (List.nodup_cons.mpr ⟨outside, ring.distinct⟩)
  refine ⟨segment_join segment ends toNode List.cons_append ?_, distinct⟩
  rw [begins] at segment'
  rw [List.cons_append, begins]
  exact List.isChain_cons_cons.mpr ⟨fromNode, segment'⟩

/-- The neighbours of a node. -/
theorem Ring.around (ring : links.Ring head (before ++ node :: after))
    (ends : head :: before = start ++ [left]) (begins : after ++ [head] = right :: rest) :
    links.Joined left node ∧ links.Joined node right := by
  obtain ⟨_, joined, segment⟩ := Ring.cut _ _ ring ends List.cons_append
  rw [List.cons_append, begins] at segment
  exact ⟨joined, (List.isChain_cons_cons.mp segment).1⟩

/-- A node is taken out, and its neighbours are joined. -/
theorem Ring.remove (ring : links.Ring head (before ++ node :: after))
    (ends : head :: before = start ++ [left]) (begins : after ++ [head] = right :: rest)
    (joined : other.Joined left right)
    (next : ∀ node ∈ head :: (before ++ after), node ≠ left → other.next node = links.next node)
    (prev : ∀ node ∈ head :: (before ++ after), node ≠ right → other.prev node = links.prev node) :
    other.Ring head (before ++ after) := by
  have distinct : ((head :: before) ++ node :: after).Nodup := ring.distinct
  have apart : (head :: (before ++ after)).Nodup :=
    (List.nodup_cons.mp (List.nodup_middle.mp distinct)).2
  obtain ⟨first, _, second⟩ := Ring.cut _ _ ring ends List.cons_append
  rw [List.cons_append] at second
  have onward : links.Segment (after ++ [head]) := by
    rw [begins] at second ⊢
    exact (List.isChain_cons_cons.mp second).2
  obtain ⟨segment, segment'⟩ := parts apart first onward ends begins next prev
  exact ⟨segment_join segment ends joined begins segment', apart⟩

/-- The nodes of a ring go to another head, and its own head is left alone. The nodes keep the
links between them; the new head is joined to the first and to the last of them. -/
theorem Ring.move {target first last : α} (ring : links.Ring head nodes)
    (outside : target ∉ head :: nodes) (begins : nodes = first :: rest)
    (ends : nodes = start ++ [last]) (alone : other.Joined head head)
    (toFirst : other.Joined target first) (fromLast : other.Joined last target)
    (next : ∀ node ∈ nodes, node ≠ last → other.next node = links.next node)
    (prev : ∀ node ∈ nodes, node ≠ first → other.prev node = links.prev node) :
    other.Ring head [] ∧ other.Ring target nodes := by
  have distinct : nodes.Nodup := (List.nodup_cons.mp ring.distinct).2
  have absent : target ∉ nodes := fun member => outside (List.mem_cons_of_mem _ member)
  refine ⟨ring_nil.mpr alone, ?_, List.nodup_cons.mpr ⟨absent, distinct⟩⟩
  have inner : links.Segment nodes := by
    have joined := ring.joined
    rw [begins, List.cons_append, List.cons_append] at joined
    have onward := (List.isChain_cons_cons.mp joined).2
    rw [← List.cons_append, ← begins] at onward
    exact List.IsChain.left_of_append onward
  have kept : other.Segment nodes := by
    refine inner.congr (fun node member => next node ?_ ?_) (fun node member => prev node ?_ ?_)
    · exact List.dropLast_subset nodes member
    · rw [ends, List.dropLast_concat] at member
      exact ne_last (ends ▸ distinct) member
    · exact List.mem_of_mem_tail member
    · rw [begins, List.tail_cons] at member
      exact ne_first (begins ▸ distinct) member
  have closed : other.Segment (nodes ++ [target]) := by
    rw [ends, List.append_assoc, List.singleton_append, Segment, List.isChain_append_cons_cons,
      ← ends]
    exact ⟨kept, fromLast, .singleton _⟩
  rw [begins] at closed ⊢
  exact List.isChain_cons_cons.mpr ⟨toFirst, closed⟩

end Joints

end Links

end Foundation.Rings