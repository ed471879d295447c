import MoeUV.Loop.Watchers

/-!
# The lists of prepare, check and idle handles

A handle of one of these kinds is linked into the list of its kind, or into the local
variable of the function that runs the list, or into neither.
-/

namespace MoeUV

open Foundation.Rings

variable {ν : Type} [DecidableEq ν] (kind : ν → WatcherKind)

section Storage

/-- The lists of the loop hold these handles, and so does the local variable if there is
one. -/
structure Stored (links : Links (QueueAddress ν)) (main : WatcherKind → List ν)
    (pending : List ν) (busy : Bool) : Prop where
  rings : ∀ name, links.Ring (.handles name) ((main name).map .handle)
  localRing : busy = true → links.Ring .queue (pending.map .handle)
  kinds : ∀ name, ∀ handle ∈ main name, kind handle = name
  apart : ∀ name, ∀ handle ∈ main name, handle ∉ pending

variable {kind} {links : Links (QueueAddress ν)} {main : WatcherKind → List ν} {pending : List ν}
  {busy : Bool} {handle : ν} {name : WatcherKind} {before after : List ν}

omit [DecidableEq ν] in
/-- A handle is in a ring if it is in the list after the head, since the head is no handle. -/
theorem mem_ring {head : QueueAddress ν} (other : head ≠ .handle handle) {nodes : List ν} :
    QueueAddress.handle handle ∈ head :: nodes.map .handle ↔ handle ∈ nodes := by
  simp [Ne.symm other]

omit [DecidableEq ν] in
/-- Two rings without a common handle are apart. -/
theorem rings_apart {head head' : QueueAddress ν} {nodes nodes' : List ν} (heads : head' ≠ head)
    (isHead : ∀ handle, head ≠ .handle handle) (isHead' : ∀ handle, head' ≠ .handle handle)
    (disjoint : ∀ handle ∈ nodes', handle ∉ nodes) :
    ∀ node ∈ head' :: nodes'.map .handle, node ∉ head :: nodes.map QueueAddress.handle := by
  intro node member
  rcases List.mem_cons.mp member with rfl | member
  · simp only [List.mem_cons, List.mem_map, not_or, not_exists, not_and]
    exact ⟨heads, fun handle _ same => isHead' handle same.symm⟩
  · obtain ⟨handle, inside, rfl⟩ := List.mem_map.mp member
    rw [mem_ring (isHead handle)]
    exact disjoint handle inside

variable (stored : Stored kind links main pending busy)
include stored

omit [DecidableEq ν] in
/-- Two lists of the loop are apart. -/
theorem Stored.lists_apart {other : WatcherKind} (different : other ≠ name) :
    ∀ node ∈ QueueAddress.handles other :: (main other).map .handle,
      node ∉ QueueAddress.handles name :: (main name).map .handle := by
  refine rings_apart (by simpa using different) (fun _ => by simp) (fun _ => by simp) ?_
  intro handle member member'
  exact different ((stored.kinds other handle member).symm.trans (stored.kinds name handle member'))

omit [DecidableEq ν] in
/-- The local variable and a list of the loop are apart. -/
theorem Stored.local_apart (name : WatcherKind) :
    ∀ node ∈ QueueAddress.queue :: pending.map .handle,
    node ∉ QueueAddress.handles name :: (main name).map .handle := by
  refine rings_apart (by simp) (fun _ => by simp) (fun _ => by simp) ?_
  intro handle member member'
  exact stored.apart name handle member' member

omit [DecidableEq ν] in
/-- The list of one phase and the local queue of a running phase share no node. -/
theorem Stored.apart_local (name : WatcherKind) :
    ∀ node ∈ QueueAddress.handles name :: (main name).map .handle,
    node ∉ QueueAddress.queue :: pending.map .handle := by
  refine rings_apart (by simp) (fun _ => by simp) (fun _ => by simp) ?_
  exact stored.apart name

omit [DecidableEq ν] in
/-- A handle of another kind is in another list. -/
theorem Stored.not_mem {other : WatcherKind} (different : other ≠ kind handle) :
    handle ∉ main other := fun member => different (stored.kinds other handle member).symm

omit [DecidableEq ν] in
/-- A handle that is in no list joins its list. Its own ring gets one more node, and the rings
of the other lists and the local one do not notice. -/
theorem Stored.join (outside : handle ∉ main (kind handle)) (away : handle ∉ pending)
    {links' : Links (QueueAddress ν)} {joined : List ν}
    (own : links'.Ring (.handles (kind handle)) (joined.map .handle))
    (others : ∀ {head nodes}, links.Ring head nodes → (∀ node ∈ head :: nodes,
      node ∉ QueueAddress.handles (kind handle) :: (main (kind handle)).map .handle) →
      QueueAddress.handle handle ∉ head :: nodes → links'.Ring head nodes)
    (members : ∀ other, other ∈ joined ↔ other = handle ∨ other ∈ main (kind handle)) :
    Stored kind links' (Function.update main (kind handle) joined) pending busy := by
  constructor
  · intro name
    by_cases same : name = kind handle
    · subst same
      rw [Function.update_self]
      exact own
    · rw [Function.update_of_ne same]
      refine others (stored.rings name) (stored.lists_apart same) ?_
      rw [mem_ring (by simp)]
      exact stored.not_mem same
  · intro running
    refine others (stored.localRing running) (stored.local_apart _) ?_
    rw [mem_ring (by simp)]
    exact away
  · intro name other member
    by_cases same : name = kind handle
    · subst same
      rw [Function.update_self, members] at member
      rcases member with rfl | member
      · rfl
      · exact stored.kinds _ other member
    · rw [Function.update_of_ne same] at member
      exact stored.kinds name other member
  · intro name other member
    by_cases same : name = kind handle
    · subst same
      rw [Function.update_self, members] at member
      rcases member with rfl | member
      · exact away
      · exact stored.apart _ other member
    · rw [Function.update_of_ne same] at member
      exact stored.apart name other member

/-- A handle in no list is put at the head of its own list, as `uv_prepare_start` does. -/
theorem Stored.insertHead (outside : handle ∉ main (kind handle)) (away : handle ∉ pending) :
    Stored kind (queueInsertHead links (.handles (kind handle)) (.handle handle))
      (Function.update main (kind handle) (handle :: main (kind handle))) pending busy := by
  have ring := stored.rings (kind handle)
  refine stored.join outside away ?_
    (fun other apart far => queueInsertHead_other ring other apart far)
    fun other => List.mem_cons
  exact queueInsertHead_ring ring (by rwa [mem_ring (by simp)])

/-- A handle in no list is put back at the end of its own list, as the running phase does. -/
theorem Stored.insertTail (outside : handle ∉ main (kind handle)) (away : handle ∉ pending) :
    Stored kind (queueInsertTail links (.handles (kind handle)) (.handle handle))
      (Function.update main (kind handle) (main (kind handle) ++ [handle])) pending busy := by
  have ring := stored.rings (kind handle)
  refine stored.join outside away ?_
    (fun other apart far => queueInsertTail_other ring other apart far)
    fun other => ?_
  · rw [List.map_append]
    exact queueInsertTail_ring ring (by rwa [mem_ring (by simp)])
  · rw [List.mem_append, List.mem_singleton, or_comm]

/-- A handle leaves its list. Its own ring loses one node, and the others do not notice, whether
the phase of the handle is running or not. -/
theorem Stored.remove (split : main (kind handle) = before ++ handle :: after) :
    Stored kind (queueRemove links (.handle handle))
      (Function.update main (kind handle) (before ++ after)) pending busy := by
  have ring := stored.rings (kind handle)
  have whole := ring
  rw [split, List.map_append, List.map_cons] at whole
  have fewer {other : ν} (member : other ∈ before ++ after) : other ∈ main (kind handle) := by
    rw [split]
    exact ((List.sublist_cons_self handle after).append_left before).subset member
  constructor
  · intro name
    by_cases same : name = kind handle
    · subst same
      rw [Function.update_self, List.map_append]
      exact queueRemove_ring whole
    · rw [Function.update_of_ne same]
      refine queueRemove_other whole (stored.rings name) ?_
      have apart := stored.lists_apart same
      rwa [split, List.map_append, List.map_cons] at apart
  · intro running
    refine queueRemove_other whole (stored.localRing running) ?_
    have apart := stored.local_apart (kind handle)
    rwa [split, List.map_append, List.map_cons] at apart
  · intro name other member
    by_cases same : name = kind handle
    · subst same
      rw [Function.update_self] at member
      exact stored.kinds _ other (fewer member)
    · rw [Function.update_of_ne same] at member
      exact stored.kinds name other member
  · intro name other member
    by_cases same : name = kind handle
    · subst same
      rw [Function.update_self] at member
      exact stored.apart _ other (fewer member)
    · rw [Function.update_of_ne same] at member
      exact stored.apart name other member

/-- A handle leaves the local variable. -/
theorem Stored.take (running : busy = true) (split : pending = before ++ handle :: after) :
    Stored kind (queueRemove links (.handle handle)) main (before ++ after) busy := by
  have whole := stored.localRing running
  rw [split, List.map_append, List.map_cons] at whole
  constructor
  · intro name
    refine queueRemove_other whole (stored.rings name) ?_
    have apart := stored.apart_local name
    rwa [split, List.map_append, List.map_cons] at apart
  · intro _
    rw [List.map_append]
    exact queueRemove_ring whole
  · exact stored.kinds
  · intro name other member inside
    refine stored.apart name other member ?_
    rw [split]
    exact ((List.sublist_cons_self handle after).append_left before).subset inside

/-- A list of the loop moves to the local variable. Its ring in the loop is empty afterwards,
and the rings of the other phases do not notice. -/
theorem Stored.move (name : WatcherKind) :
    Stored kind (queueMove links (.handles name) .queue) (Function.update main name [])
      (main name) true := by
  have ring := stored.rings name
  have outside : QueueAddress.queue ∉ .handles name :: (main name).map QueueAddress.handle := by
    simp
  obtain ⟨emptied, filled⟩ := queueMove_ring ring outside
  constructor
  · intro other
    by_cases same : other = name
    · subst same
      rw [Function.update_self]
      exact emptied
    · rw [Function.update_of_ne same]
      exact queueMove_other ring outside (stored.rings other) (stored.lists_apart same) (by simp)
  · exact fun _ => filled
  · intro other handle member
    by_cases same : other = name
    · subst same
      rw [Function.update_self] at member
      cases member
    · rw [Function.update_of_ne same] at member
      exact stored.kinds other handle member
  · intro other handle member
    by_cases same : other = name
    · subst same
      rw [Function.update_self] at member
      cases member
    · rw [Function.update_of_ne same] at member
      intro inside
      exact same ((stored.kinds other handle member).symm.trans (stored.kinds name handle inside))

end Storage

end MoeUV
