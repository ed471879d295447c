import MoeUV.Foundation.Rings

/-!
# Queues

libuv keeps handles, requests and work in rings of links that are part of the
queued structures. A macro that inserts, removes or moves says in which order it
assigns to the links; it keeps the ring it is used on, and no other ring notices.
-/

namespace MoeUV

open Foundation.Rings Foundation.Rings.Links

section Macros

variable {α : Type} [DecidableEq α] (links : Links α)

/-- `QUEUE_EMPTY` -/
def queueEmpty (q : α) : Bool := decide (q = links.next q)

/-- `QUEUE_HEAD` -/
def queueHead (q : α) : α := links.next q

/-- `QUEUE_INIT` -/
def queueInit (q : α) : Links α := (links.setNext q q).setPrev q q

/-- `QUEUE_SPLIT` -/
def queueSplit (h q n : α) : Links α :=
  let links := links.setPrev n (links.prev h)
  let links := links.setNext (links.prev n) n
  let links := links.setNext n q
  let links := links.setPrev h (links.prev q)
  let links := links.setNext (links.prev h) h
  links.setPrev q n

/-- `QUEUE_MOVE` -/
def queueMove (h n : α) : Links α :=
  if queueEmpty links h then queueInit links n else queueSplit links h (queueHead links h) n

/-- `QUEUE_INSERT_HEAD` -/
def queueInsertHead (h q : α) : Links α :=
  let links := links.setNext q (links.next h)
  let links := links.setPrev q h
  let links := links.setPrev (links.next q) q
  links.setNext h q

/-- `QUEUE_INSERT_TAIL` -/
def queueInsertTail (h q : α) : Links α :=
  let links := links.setNext q h
  let links := links.setPrev q (links.prev h)
  let links := links.setNext (links.prev q) q
  links.setPrev h q

/-- `QUEUE_REMOVE` -/
def queueRemove (q : α) : Links α :=
  let links := links.setNext (links.prev q) (links.next q)
  links.setPrev (links.next q) (links.prev q)

end Macros

section Rings

variable {α : Type} [DecidableEq α] {links : Links α} {h q n : α} {nodes before after : List α}

/-- A queue is empty exactly when its ring has no node but the head. -/
theorem queueEmpty_iff (ring : links.Ring h nodes) : queueEmpty links h = true ↔ nodes = [] := by
  rw [queueEmpty, decide_eq_true_iff, eq_comm]
  exact ring.next_head_self

omit [DecidableEq α] in
/-- The first node of the ring is the head of the queue. -/
theorem queueHead_eq (ring : links.Ring h (q :: nodes)) : queueHead links h = q := ring.next_head

/-- A queue that is initialised is a ring of its head alone. -/
theorem queueInit_ring : (queueInit links q).Ring q [] := by
  rw [ring_nil]
  simp [queueInit]

section InsertHead

/-- What follows each node when one has been put at the front, -/
theorem queueInsertHead_next (node : α) : (queueInsertHead links h q).next node =
    if node = h then q else if node = q then links.next h else links.next node := by
  simp [queueInsertHead]

/-- and what precedes it. -/
theorem queueInsertHead_prev (node : α) : (queueInsertHead links h q).prev node =
    if node = links.next h then q else if node = q then h else links.prev node := by
  simp [queueInsertHead]

/-- A node that is in no ring is put at the front of one. -/
theorem queueInsertHead_ring (ring : links.Ring h nodes) (outside : q ∉ h :: nodes) :
    (queueInsertHead links h q).Ring h (q :: nodes) := by
  obtain ⟨first, rest, begins, member⟩ := exists_first h nodes
  have ends : [h] = [] ++ [h] := rfl
  have next := (Ring.cut [] nodes ring ends begins).2.1.1
  have behind : q ≠ h := Ne.symm (ne_of_mem_of_not_mem List.mem_cons_self outside)
  have new : q ≠ first := Ne.symm (ne_of_mem_of_not_mem member outside)
  refine Ring.insert [] nodes ring outside ends begins ⟨?_, ?_⟩ ⟨?_, ?_⟩ ?_ ?_
  · rw [queueInsertHead_next, if_pos rfl]
  · rw [queueInsertHead_prev, next, if_neg new, if_pos rfl]
  · rw [queueInsertHead_next, if_neg behind, if_pos rfl, next]
  · rw [queueInsertHead_prev, next, if_pos rfl]
  · intro node inside apart
    rw [queueInsertHead_next, if_neg apart, if_neg (ne_of_mem_of_not_mem inside outside)]
  · intro node inside apart
    rw [queueInsertHead_prev, next, if_neg apart, if_neg (ne_of_mem_of_not_mem inside outside)]

/-- No other ring notices. -/
theorem queueInsertHead_other (ring : links.Ring h nodes) {h' : α} {nodes' : List α}
    (other : links.Ring h' nodes') (apart : ∀ node ∈ h' :: nodes', node ∉ h :: nodes)
    (outside : q ∉ h' :: nodes') : (queueInsertHead links h q).Ring h' nodes' := by
  obtain ⟨first, rest, begins, member⟩ := exists_first h nodes
  have ends : [h] = [] ++ [h] := rfl
  have next := (Ring.cut [] nodes ring ends begins).2.1.1
  refine other.congr fun node inside => ⟨?_, ?_⟩
  · have away : node ≠ h := Ne.symm (ne_of_mem_of_not_mem List.mem_cons_self (apart node inside))
    rw [queueInsertHead_next, if_neg away, if_neg (ne_of_mem_of_not_mem inside outside)]
  · have away : node ≠ first := Ne.symm (ne_of_mem_of_not_mem member (apart node inside))
    rw [queueInsertHead_prev, next, if_neg away, if_neg (ne_of_mem_of_not_mem inside outside)]

end InsertHead

section InsertTail

/-- What follows each node when one has been put at the end, -/
theorem queueInsertTail_next (node : α) : (queueInsertTail links h q).next node =
    if node = links.prev h then q else if node = q then h else links.next node := by
  simp [queueInsertTail]

/-- and what precedes it. -/
theorem queueInsertTail_prev (node : α) : (queueInsertTail links h q).prev node =
    if node = h then q else if node = q then links.prev h else links.prev node := by
  simp [queueInsertTail]

/-- A node that is in no ring is put at the end of one. -/
theorem queueInsertTail_ring (ring : links.Ring h nodes) (outside : q ∉ h :: nodes) :
    (queueInsertTail links h q).Ring h (nodes ++ [q]) := by
  obtain ⟨start, last, ends, member⟩ := exists_last h nodes
  have begins : [] ++ [h] = h :: [] := rfl
  have whole : links.Ring h (nodes ++ []) := by rwa [List.append_nil]
  have prev := (Ring.cut nodes [] whole ends begins).2.1.2
  have before : q ≠ h := Ne.symm (ne_of_mem_of_not_mem List.mem_cons_self outside)
  have new : q ≠ last := Ne.symm (ne_of_mem_of_not_mem member outside)
  refine Ring.insert nodes [] whole (by rwa [List.append_nil]) ends begins ⟨?_, ?_⟩ ⟨?_, ?_⟩ ?_ ?_
  · rw [queueInsertTail_next, prev, if_pos rfl]
  · rw [queueInsertTail_prev, if_neg before, if_pos rfl, prev]
  · rw [queueInsertTail_next, prev, if_neg new, if_pos rfl]
  · rw [queueInsertTail_prev, if_pos rfl]
  · intro node inside apart
    rw [List.append_nil] at inside
    rw [queueInsertTail_next, prev, if_neg apart, if_neg (ne_of_mem_of_not_mem inside outside)]
  · intro node inside apart
    rw [List.append_nil] at inside
    rw [queueInsertTail_prev, if_neg apart, if_neg (ne_of_mem_of_not_mem inside outside)]

/-- No other ring notices. -/
theorem queueInsertTail_other (ring : links.Ring h nodes) {h' : α} {nodes' : List α}
    (other : links.Ring h' nodes') (apart : ∀ node ∈ h' :: nodes', node ∉ h :: nodes)
    (outside : q ∉ h' :: nodes') : (queueInsertTail links h q).Ring h' nodes' := by
  obtain ⟨start, last, ends, member⟩ := exists_last h nodes
  have begins : [] ++ [h] = h :: [] := rfl
  have whole : links.Ring h (nodes ++ []) := by rwa [List.append_nil]
  have prev := (Ring.cut nodes [] whole ends begins).2.1.2
  refine other.congr fun node inside => ⟨?_, ?_⟩
  · have away : node ≠ last := Ne.symm (ne_of_mem_of_not_mem member (apart node inside))
    rw [queueInsertTail_next, prev, if_neg away, if_neg (ne_of_mem_of_not_mem inside outside)]
  · have away : node ≠ h := Ne.symm (ne_of_mem_of_not_mem List.mem_cons_self (apart node inside))
    rw [queueInsertTail_prev, if_neg away, if_neg (ne_of_mem_of_not_mem inside outside)]

end InsertTail

section Remove

/-- What follows each node when one has been taken out; that one keeps its links, -/
theorem queueRemove_next (node : α) : (queueRemove links q).next node =
    if node = links.prev q then links.next q else links.next node := by
  simp [queueRemove]

/-- and so it is for what precedes it. -/
theorem queueRemove_prev (node : α) : (queueRemove links q).prev node =
    if node = links.next q then links.prev q else links.prev node := by
  simp [queueRemove]

/-- A node is taken out of its ring, wherever it stands. -/
theorem queueRemove_ring (ring : links.Ring h (before ++ q :: after)) :
    (queueRemove links q).Ring h (before ++ after) := by
  obtain ⟨start, left, ends, member⟩ := exists_last h before
  obtain ⟨right, rest, begins, member'⟩ := exists_first h after
  obtain ⟨⟨_, prev⟩, next, _⟩ := Ring.around ring ends begins
  refine Ring.remove ring ends begins ⟨?_, ?_⟩ ?_ ?_
  · rw [queueRemove_next, prev, next, if_pos rfl]
  · rw [queueRemove_prev, prev, next, if_pos rfl]
  · intro node _ apart
    rw [queueRemove_next, prev, if_neg apart]
  · intro node _ apart
    rw [queueRemove_prev, next, if_neg apart]

/-- No other ring notices. -/
theorem queueRemove_other (ring : links.Ring h (before ++ q :: after)) {h' : α} {nodes' : List α}
    (other : links.Ring h' nodes')
    (apart : ∀ node ∈ h' :: nodes', node ∉ h :: (before ++ q :: after)) :
    (queueRemove links q).Ring h' nodes' := by
  obtain ⟨start, left, ends, member⟩ := exists_last h before
  obtain ⟨right, rest, begins, member'⟩ := exists_first h after
  obtain ⟨⟨_, prev⟩, next, _⟩ := Ring.around ring ends begins
  have around : ∀ node ∈ (h :: before) ++ after, node ∈ h :: (before ++ q :: after) :=
    ((List.sublist_cons_self q after).append_left (h :: before)).subset
  have leftmost : left ∈ h :: (before ++ q :: after) :=
    around left (List.mem_append_left after member)
  have rightmost : right ∈ h :: (before ++ q :: after) := by
    refine around right ?_
    rcases List.mem_cons.mp member' with rfl | inside
    · exact List.mem_cons_self
    · exact List.mem_append_right _ inside
  refine other.congr fun node inside => ⟨?_, ?_⟩
  · have away : node ≠ left := Ne.symm (ne_of_mem_of_not_mem leftmost (apart node inside))
    rw [queueRemove_next, prev, if_neg away]
  · have away : node ≠ right := Ne.symm (ne_of_mem_of_not_mem rightmost (apart node inside))
    rw [queueRemove_prev, next, if_neg away]

end Remove

section Move

/-- The links after a ring has been split behind its head. -/
theorem queueSplit_links (ring : links.Ring h (q :: nodes)) (outside : n ∉ h :: q :: nodes)
    (node : α) :
    (queueSplit links h q n).next node = (if node = h then h else if node = n then q
      else if node = links.prev h then n else links.next node) ∧
    (queueSplit links h q n).prev node = (if node = q then n else if node = h then h
      else if node = n then links.prev h else links.prev node) := by
  have ends : [h] = [] ++ [h] := rfl
  have prev := (Ring.cut [] (q :: nodes) ring ends List.cons_append).2.1.2
  have apart : q ≠ n := ne_of_mem_of_not_mem (List.mem_cons_of_mem h List.mem_cons_self) outside
  simp [queueSplit, prev, apart]

/-- A queue is moved as a whole to another head, and is empty afterwards. An empty queue is
initialised at its new head; another one is split behind the old head, at its first node. -/
theorem queueMove_ring (ring : links.Ring h nodes) (outside : n ∉ h :: nodes) :
    (queueMove links h n).Ring h [] ∧ (queueMove links h n).Ring n nodes := by
  cases nodes with
  | nil =>
    rw [queueMove, if_pos ((queueEmpty_iff ring).mpr rfl)]
    refine ⟨ring.congr fun node member => ?_, queueInit_ring⟩
    have away : node ≠ n := fun same => outside (same ▸ member)
    simp [queueInit, away]
  | cons first rest =>
    have some_nodes : ¬ queueEmpty links h = true := fun empty =>
      List.cons_ne_nil _ _ ((queueEmpty_iff ring).mp empty)
    rw [queueMove, if_neg some_nodes, queueHead_eq ring]
    obtain ⟨start, last, ends, member⟩ := exists_last first rest
    have around : h :: first :: rest = (h :: start) ++ [last] := congrArg (h :: ·) ends
    have begins : [] ++ [h] = h :: [] := rfl
    have whole : links.Ring h (first :: rest ++ []) := by rwa [List.append_nil]
    have prev := (Ring.cut (first :: rest) [] whole around begins).2.1.2
    have changed := queueSplit_links ring outside
    have inner {node : α} (inside : node ∈ first :: rest) : node ≠ h ∧ node ≠ n :=
      ⟨ne_of_mem_of_not_mem inside (List.nodup_cons.mp ring.distinct).1,
        ne_of_mem_of_not_mem (List.mem_cons_of_mem h inside) outside⟩
    have fresh : n ≠ h := Ne.symm (ne_of_mem_of_not_mem List.mem_cons_self outside)
    have front := inner (List.mem_cons_self : first ∈ first :: rest)
    have back := inner member
    refine Ring.move ring outside rfl ends ⟨?_, ?_⟩ ⟨?_, ?_⟩ ⟨?_, ?_⟩ ?_ ?_
    · rw [(changed h).1, if_pos rfl]
    · rw [(changed h).2, if_neg front.1.symm, if_pos rfl]
    · rw [(changed n).1, if_neg fresh, if_pos rfl]
    · rw [(changed first).2, if_pos rfl]
    · rw [(changed last).1, if_neg back.1, if_neg back.2, prev, if_pos rfl]
    · rw [(changed n).2, if_neg front.2.symm, if_neg fresh, if_pos rfl, prev]
    · intro node inside apart
      rw [(changed node).1, if_neg (inner inside).1, if_neg (inner inside).2, prev, if_neg apart]
    · intro node inside apart
      rw [(changed node).2, if_neg apart, if_neg (inner inside).1, if_neg (inner inside).2]

/-- No other ring notices. -/
theorem queueMove_other (ring : links.Ring h nodes) (outside : n ∉ h :: nodes) {h' : α}
    {nodes' : List α} (other : links.Ring h' nodes')
    (apart : ∀ node ∈ h' :: nodes', node ∉ h :: nodes) (away : n ∉ h' :: nodes') :
    (queueMove links h n).Ring h' nodes' := by
  cases nodes with
  | nil =>
    rw [queueMove, if_pos ((queueEmpty_iff ring).mpr rfl)]
    refine other.congr fun node member => ?_
    have different : node ≠ n := fun same => away (same ▸ member)
    simp [queueInit, different]
  | cons first rest =>
    have some_nodes : ¬ queueEmpty links h = true := fun empty =>
      List.cons_ne_nil _ _ ((queueEmpty_iff ring).mp empty)
    rw [queueMove, if_neg some_nodes, queueHead_eq ring]
    obtain ⟨start, last, ends, member⟩ := exists_last first rest
    have around : h :: first :: rest = (h :: start) ++ [last] := congrArg (h :: ·) ends
    have begins : [] ++ [h] = h :: [] := rfl
    have whole : links.Ring h (first :: rest ++ []) := by rwa [List.append_nil]
    have prev := (Ring.cut (first :: rest) [] whole around begins).2.1.2
    have changed := queueSplit_links ring outside
    have far {node known : α} (inside : node ∈ h' :: nodes') (here : known ∈ h :: first :: rest) :
        node ≠ known := Ne.symm (ne_of_mem_of_not_mem here (apart node inside))
    refine other.congr fun node inside => ⟨?_, ?_⟩
    · rw [(changed node).1, if_neg (far inside List.mem_cons_self),
        if_neg (ne_of_mem_of_not_mem inside away), prev,
        if_neg (far inside (List.mem_cons_of_mem h member))]
    · rw [(changed node).2, if_neg (far inside (List.mem_cons_of_mem h List.mem_cons_self)),
        if_neg (far inside List.mem_cons_self), if_neg (ne_of_mem_of_not_mem inside away)]

end Move

end Rings

end MoeUV
