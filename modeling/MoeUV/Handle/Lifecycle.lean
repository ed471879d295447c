import MoeUV.Handle.Ownership

/-!
# The life of a handle block

A block is opened, closed once, called back once and freed once, in this order.
The moves keep libuv's two lists in step with the flags of the blocks, and the
recorded events of every block in step with its flags: nothing is recorded
twice, and nothing out of order. A block that lost its owner after its close
callback stays allocated for ever. What a move can make of a block is stated once,
for every relation between heaps that follows the blocks.
-/

namespace MoeUV

variable {heap next : Heap}

section Progress

variable (heap : Heap) (id other : HandleId)

/-- How far a handle is can be read from its block. -/
theorem progress_of_allocated {heap : Heap} {id : HandleId} {block : Block}
    (allocated : heap.blocks id = some block) :
    heap.progress id = some (block.phase, block.closeCb) := by
  rw [Heap.progress, allocated, Option.map_some]

/-- A block that is written tells how far its handle is now. -/
@[simp] theorem progress_setBlock (block : Block) :
    (heap.setBlock id block).progress other =
      if other = id then some (block.phase, block.closeCb) else heap.progress other := by
  simp only [Heap.progress, Heap.setBlock_blocks]
  split <;> rfl

/-- No handle gets on when a wrapper is written, -/
@[simp] theorem progress_putWrapper (self : Pointer) (content : Option Wrapper) :
    (heap.putWrapper self content).progress = heap.progress := rfl

/-- or an event is recorded. -/
@[simp] theorem progress_record (event : Event) : (heap.record event).progress = heap.progress :=
  rfl

/-- A handle whose block is freed is nowhere any more. -/
@[simp] theorem progress_free :
    (heap.free id).progress other = if other = id then none else heap.progress other := by
  simp only [Heap.progress, Heap.free_blocks]
  split <;> rfl

/-- `uv_close` takes a handle to closing, with its callback. -/
@[simp] theorem progress_markClosing (block : Block) (closeCb : CloseCallback) :
    (heap.markClosing id block closeCb).progress other =
      if other = id then some (.closing, closeCb) else heap.progress other := by
  simp only [Heap.progress, Heap.markClosing_blocks]
  split <;> rfl

/-- `uv__finish_close` takes it to closed. -/
@[simp] theorem progress_markClosed (block : Block) :
    (heap.markClosed id block).progress other =
      if other = id then some (.closed, block.closeCb) else heap.progress other := by
  simp only [Heap.progress, Heap.markClosed_blocks]
  split <;> rfl

/-- An event belongs to the history of its own block only. -/
@[simp] theorem history_record (event : Event) :
    (heap.record event).history other =
      if event.handle = other then event :: heap.history other else heap.history other := by
  by_cases same : event.handle = other <;> simp [Heap.history, Heap.record, same]

/-- Writing a block leaves the histories of the handles, -/
@[simp] theorem history_setBlock (block : Block) :
    (heap.setBlock id block).history = heap.history := rfl

/-- and so does writing a wrapper. -/
@[simp] theorem history_putWrapper (self : Pointer) (content : Option Wrapper) :
    (heap.putWrapper self content).history = heap.history := rfl

/-- Freeing a block goes into the history of its handle, -/
@[simp] theorem history_free :
    (heap.free id).history other =
      if id = other then .freed id :: heap.history other else heap.history other :=
  history_record _ other (.freed id)

/-- and so does `uv_close`. -/
@[simp] theorem history_markClosing (block : Block) (closeCb : CloseCallback) :
    (heap.markClosing id block closeCb).history other =
      if id = other then .uvClose id :: heap.history other else heap.history other :=
  history_record _ other (.uvClose id)

/-- What `uv__finish_close` does is recorded by its callback. -/
@[simp] theorem history_markClosed (block : Block) :
    (heap.markClosed id block).history = heap.history := rfl

end Progress

/-- Where nothing changed, the standing is the same. -/
theorem Standing.congr {id : HandleId} (standing : Standing heap id)
    (progress : next.progress id = heap.progress id)
    (queue : id ∈ next.queue ↔ id ∈ heap.queue)
    (closing : id ∈ next.closingHandles ↔ id ∈ heap.closingHandles)
    (fresh : next.fresh ≤ id → heap.fresh ≤ id) : Standing next id := by
  constructor
  · rw [queue, progress]
    exact standing.queued
  · rw [closing, progress]
    exact standing.closing
  · intro beyond
    rw [progress]
    exact standing.fresh (fresh beyond)

/-- A change that keeps all flags and lists keeps every standing. -/
theorem Linked.unchanged (linked : Linked heap) (progress : next.progress = heap.progress)
    (queue : next.queue = heap.queue) (closing : next.closingHandles = heap.closingHandles)
    (fresh : next.fresh = heap.fresh) : Linked next := by
  intro id
  exact (linked id).congr (congrFun progress id) (by rw [queue]) (by rw [closing])
    (fun beyond => fresh ▸ beyond)

/-- A block that exists was allocated. -/
theorem Linked.born (linked : Linked heap) {id : HandleId} {block : Block}
    (allocated : heap.blocks id = some block) : id < heap.fresh := by
  by_contra beyond
  have absent := (linked id).fresh (Nat.not_lt.mp beyond)
  rw [progress_of_allocated allocated] at absent
  cases absent

/-- An allocated block is queued unless it is closed. -/
theorem Linked.mem_queue (linked : Linked heap) {id : HandleId} {block : Block}
    (allocated : heap.blocks id = some block) : id ∈ heap.queue ↔ block.phase ≠ .closed := by
  rw [(linked id).queued, progress_of_allocated allocated]
  simp

/-- Exactly the handles that are closing wait for their close callback. -/
theorem Linked.mem_closing (linked : Linked heap) {id : HandleId} {block : Block}
    (allocated : heap.blocks id = some block) :
    id ∈ heap.closingHandles ↔ block.phase = .closing := by
  rw [(linked id).closing, progress_of_allocated allocated]
  simp

/-- A queued block is allocated. -/
theorem Linked.allocated (linked : Linked heap) {id : HandleId} (member : id ∈ heap.queue) :
    ∃ block, heap.blocks id = some block ∧ block.phase ≠ .closed := by
  obtain ⟨phase, closeCb, present, notClosed⟩ := (linked id).queued.mp member
  obtain ⟨block, allocated, flags⟩ := Option.map_eq_some_iff.mp present
  exact ⟨block, allocated, by rw [(Prod.mk.inj flags).1]; exact notClosed⟩

/-- A closing handle is allocated. -/
theorem Linked.allocated_closing (linked : Linked heap) {id : HandleId}
    (member : id ∈ heap.closingHandles) :
    ∃ block, heap.blocks id = some block ∧ block.phase = .closing := by
  obtain ⟨closeCb, present⟩ := (linked id).closing.mp member
  obtain ⟨block, allocated, flags⟩ := Option.map_eq_some_iff.mp present
  exact ⟨block, allocated, (Prod.mk.inj flags).1⟩

/-- Rewriting a block without touching its flags changes no progress. -/
theorem progress_setBlock_same {id : HandleId} {block changed : Block}
    (allocated : heap.blocks id = some block) (phase : changed.phase = block.phase)
    (closeCb : changed.closeCb = block.closeCb) :
    (heap.setBlock id changed).progress = heap.progress := by
  funext other
  rw [progress_setBlock]
  split
  · rename_i same
    rw [same, progress_of_allocated allocated, phase, closeCb]
  · rfl

/-- A new open block at the end of the queue. -/
theorem Linked.allocate (linked : Linked heap) (block : Block) (opened : block.phase = .opened)
    (progress : ∀ other, next.progress other =
      if other = heap.fresh then some (block.phase, block.closeCb) else heap.progress other)
    (queue : next.queue = heap.queue ++ [heap.fresh])
    (closing : next.closingHandles = heap.closingHandles) (fresh : next.fresh = heap.fresh + 1) :
    Linked next := by
  intro other
  by_cases same : other = heap.fresh
  · have notClosing : heap.fresh ∉ heap.closingHandles := by
      intro member
      obtain ⟨found, allocated, _⟩ := linked.allocated_closing member
      exact absurd (linked.born allocated) (Nat.lt_irrefl _)
    subst same
    constructor
    · simp [queue, progress, opened]
    · simp [closing, progress, opened, notClosing]
    · intro beyond
      rw [fresh] at beyond
      exact absurd beyond (Nat.not_succ_le_self heap.fresh)
  · refine (linked other).congr (by rw [progress, if_neg same]) ?_ (by rw [closing]) ?_
    · simp [queue, same]
    · intro beyond
      rw [fresh] at beyond
      exact Nat.le_of_succ_le beyond

/-- A finished close takes the block out of both lists. -/
theorem Linked.finish (linked : Linked heap) {id : HandleId} {block : Block}
    (allocated : heap.blocks id = some block) (left : Option CloseCallback)
    (progress : ∀ other, next.progress other =
      if other = id then left.map (Phase.closed, ·) else heap.progress other)
    (queue : next.queue = heap.queue.filter (· ≠ id))
    (closing : next.closingHandles = heap.closingHandles.filter (· ≠ id))
    (fresh : next.fresh = heap.fresh) : Linked next := by
  intro other
  by_cases same : other = id
  · subst same
    have born := linked.born allocated
    constructor
    · simp [queue, progress]
    · simp [closing, progress]
    · intro beyond
      exact absurd (fresh ▸ beyond) (Nat.not_le.mpr born)
  · refine (linked other).congr (by rw [progress, if_neg same]) ?_ ?_ ?_
    · simp [queue, same]
    · simp [closing, same]
    · intro beyond
      exact fresh ▸ beyond

/-- Every move keeps libuv's lists in step with the flags. Each move touches one block at most,
and the lists and the flags of the others stay as they are. -/
theorem Linked.move (linked : Linked heap) (move : Move heap next) : Linked next := by
  cases move with
  | close id block allocated opened external =>
    intro other
    by_cases same : other = id
    · subst same
      have queued : other ∈ heap.queue := (linked.mem_queue allocated).mpr (by simp [opened])
      have born := linked.born allocated
      constructor
      · simpa using queued
      · simp
      · intro beyond
        exact absurd beyond (Nat.not_le.mpr born)
    · refine (linked other).congr ?_ Iff.rfl ?_ (fun beyond => beyond)
      · simp [same]
      · simp [same]
  | abandon self wrapper id block content live holds allocated closing empty =>
    exact linked.unchanged (progress_setBlock_same allocated rfl rfl) rfl rfl rfl
  | rest self content idle empty => exact linked.unchanged rfl rfl rfl rfl
  | transfer self org source id block apart idle live holds allocated =>
    exact linked.unchanged (progress_setBlock_same allocated (by rfl) (by rfl)) rfl rfl rfl
  | discard self wrapper id block live holds allocated closed =>
    intro other
    by_cases same : other = id
    · subst same
      have notQueued : other ∉ heap.queue := by simp [linked.mem_queue allocated, closed]
      have notClosing : other ∉ heap.closingHandles := by
        simp [linked.mem_closing allocated, closed]
      constructor
      · simpa using notQueued
      · simpa using notClosing
      · simp
    · exact (linked other).congr (by simp [same]) Iff.rfl Iff.rfl (fun beyond => beyond)
  | finishOwned self wrapper id block live holds allocated closing =>
    exact linked.finish allocated (some block.closeCb) (by simp) rfl rfl rfl
  | finishOrphan id block allocated closing pooled null =>
    refine linked.finish allocated none ?_ rfl rfl rfl
    intro other
    by_cases same : other = id <;> simp [same]
  | finishForeign id block allocated closing outside =>
    exact linked.finish allocated (some block.closeCb) (by simp) rfl rfl rfl
  | adopt self active vacant =>
    exact linked.allocate ⟨true, false, handleToData self, .opened, .null, active, true⟩ rfl
      (progress_setBlock heap heap.fresh · _) rfl rfl rfl
  | share data active untagged =>
    exact linked.allocate ⟨false, false, data, .opened, .null, active, true⟩ rfl
      (progress_setBlock heap heap.fresh · _) rfl rfl rfl
  | flag id block active referenced allocated unreferenced =>
    exact linked.unchanged (progress_setBlock_same allocated rfl rfl) rfl rfl rfl

/-- Every move keeps the closing handles apart. -/
theorem Linked.distinct_move (linked : Linked heap) (distinct : heap.closingHandles.Nodup)
    (move : Move heap next) : next.closingHandles.Nodup := by
  cases move with
  | close id block allocated opened external =>
    have absent : id ∉ heap.closingHandles := by simp [linked.mem_closing allocated, opened]
    exact List.nodup_cons.mpr ⟨absent, distinct⟩
  | finishOwned => exact distinct.filter _
  | finishOrphan => exact distinct.filter _
  | finishForeign => exact distinct.filter _
  | abandon => exact distinct
  | rest => exact distinct
  | transfer => exact distinct
  | discard => exact distinct
  | adopt => exact distinct
  | share => exact distinct
  | flag => exact distinct

/-- Where nothing changed and nothing was recorded, the history stays right. -/
theorem Recorded.congr {id : HandleId} (recorded : Recorded heap id)
    (history : next.history id = heap.history id) (progress : next.progress id = heap.progress id)
    (fresh : id < next.fresh ↔ id < heap.fresh) : Recorded next id := by
  rw [Recorded, history, progress, recorded]
  simp only [fresh]

/-- A change that records nothing and keeps all flags keeps every history right. -/
theorem Logged.unchanged (logged : Logged heap) (events : next.events = heap.events)
    (progress : next.progress = heap.progress) (fresh : next.fresh = heap.fresh) :
    Logged next := by
  intro id
  refine (logged id).congr ?_ (congrFun progress id) (by rw [fresh])
  rw [Heap.history, events, Heap.history]

/-- The history of an existing block. -/
theorem Logged.of_allocated (logged : Logged heap) {id : HandleId} {block : Block}
    (allocated : heap.blocks id = some block) :
    heap.history id = expectedHistory id (decide (id < heap.fresh))
      (some (block.phase, block.closeCb)) := by
  rw [logged id, progress_of_allocated allocated]

/-- A change of one block need only be recorded for that block. -/
theorem Logged.frame (logged : Logged heap) (id : HandleId)
    (history : ∀ other, other ≠ id → next.history other = heap.history other)
    (progress : ∀ other, other ≠ id → next.progress other = heap.progress other)
    (fresh : next.fresh = heap.fresh) (here : Recorded next id) : Logged next := by
  intro other
  by_cases same : other = id
  · exact same ▸ here
  · exact (logged other).congr (history other same) (progress other same) (by rw [fresh])

/-- A new open block has no history. -/
theorem Logged.allocate (logged : Logged heap) (unborn : heap.progress heap.fresh = none)
    (block : Block) (opened : block.phase = .opened)
    (progress : ∀ other, next.progress other =
      if other = heap.fresh then some (block.phase, block.closeCb) else heap.progress other)
    (events : next.events = heap.events) (fresh : next.fresh = heap.fresh + 1) : Logged next := by
  intro other
  have history : next.history other = heap.history other := by
    rw [Heap.history, events, Heap.history]
  by_cases same : other = heap.fresh
  · subst same
    rw [Recorded, history, progress, if_pos rfl, opened, logged heap.fresh, unborn]
    simp [expectedHistory]
  · refine (logged other).congr history (by rw [progress, if_neg same]) ?_
    rw [fresh, Nat.lt_succ_iff_lt_or_eq]
    exact or_iff_left same

/-- A pooled block that is being closed, or has been, calls back into the wrapper. -/
theorem Owned.closeCb_pooled (owned : Owned heap) {id : HandleId} {block : Block}
    (allocated : heap.blocks id = some block) (closing : block.phase ≠ .opened)
    (pooled : block.pooled = true) : block.closeCb = .onUVClose := by
  simpa [pooled] using (owned.valid allocated).callback closing

/-- Every move records exactly the event that belongs to it. Only closing, the close
callback and the release of a block are events, and each belongs to the one block that the
move is about. -/
theorem Logged.move (logged : Logged heap) (owned : Owned heap) (linked : Linked heap)
    (move : Move heap next) : Logged next := by
  cases move with
  | close id block allocated opened external =>
    have before := logged.of_allocated allocated
    refine logged.frame id (fun other apart => by simp [Ne.symm apart])
      (fun other apart => by simp [apart]) rfl ?_
    rw [opened] at before
    simp [Recorded, before, expectedHistory]
  | abandon self wrapper id block content live holds allocated closing empty =>
    exact logged.unchanged rfl (progress_setBlock_same allocated rfl rfl) rfl
  | rest self content idle empty => exact logged.unchanged rfl rfl rfl
  | transfer self org source id block apart idle live holds allocated =>
    exact logged.unchanged rfl (progress_setBlock_same allocated (by rfl) (by rfl)) rfl
  | discard self wrapper id block live holds allocated closed =>
    obtain ⟨found, found', _, pooled, _⟩ := owned.holds live holds
    obtain rfl : found = block := Option.some.inj (found'.symm.trans allocated)
    have before := logged.of_allocated allocated
    refine logged.frame id (fun other apart => by simp [Ne.symm apart])
      (fun other apart => by simp [apart]) rfl ?_
    rw [closed, owned.closeCb_pooled allocated (by simp [closed]) pooled] at before
    simp [Recorded, before, expectedHistory, linked.born allocated]
  | finishOwned self wrapper id block live holds allocated closing =>
    obtain ⟨found, found', _, pooled, _⟩ := owned.holds live holds
    obtain rfl : found = block := Option.some.inj (found'.symm.trans allocated)
    have before := logged.of_allocated allocated
    have closeCb := owned.closeCb_pooled allocated (by simp [closing]) pooled
    refine logged.frame id (fun other apart => by simp [Event.handle, Ne.symm apart])
      (fun other apart => by simp [apart]) rfl ?_
    rw [closing] at before
    simp [Recorded, before, expectedHistory, Event.handle, closeCb]
  | finishOrphan id block allocated closing pooled null =>
    have before := logged.of_allocated allocated
    refine logged.frame id (fun other apart => by simp [Event.handle, Ne.symm apart])
      (fun other apart => by simp [apart]) rfl ?_
    rw [closing] at before
    simp [Recorded, before, expectedHistory, Event.handle, linked.born allocated]
  | finishForeign id block allocated closing outside =>
    have before := logged.of_allocated allocated
    have closeCb : block.closeCb = .null := by
      simpa [outside] using (owned.valid allocated).callback (by simp [closing])
    refine logged.frame id (fun other apart => rfl) (fun other apart => by simp [apart]) rfl ?_
    rw [closing] at before
    simp [Recorded, before, expectedHistory, closeCb]
  | adopt self active vacant =>
    exact logged.allocate ((linked heap.fresh).fresh (Nat.le_refl _))
      ⟨true, false, handleToData self, .opened, .null, active, true⟩ rfl
      (progress_setBlock heap heap.fresh · _) rfl rfl
  | share data active untagged =>
    exact logged.allocate ((linked heap.fresh).fresh (Nat.le_refl _))
      ⟨false, false, data, .opened, .null, active, true⟩ rfl
      (progress_setBlock heap heap.fresh · _) rfl rfl
  | flag id block active referenced allocated unreferenced =>
    exact logged.unchanged rfl (progress_setBlock_same allocated rfl rfl) rfl

/-- What a block can become: it stays where it came from, is never opened again,
and once closed it remains so. -/
structure Block.Becomes (before after : Block) : Prop where
  pooled : after.pooled = before.pooled
  internal : after.internal = before.internal
  opened : after.phase = .opened → before.phase = .opened
  closed : before.phase = .closed → after.phase = .closed

/-- A block that is left alone goes on as it is. -/
theorem Block.Becomes.refl (block : Block) : block.Becomes block :=
  ⟨rfl, rfl, fun opened => opened, fun closed => closed⟩

/-- One block changes. -/
theorem becomes_of_update {touched : HandleId} {block : Block} {content : Option Block}
    (allocated : heap.blocks touched = some block)
    (blocks : ∀ other, next.blocks other = if other = touched then content else heap.blocks other)
    (changed : ∀ after, content = some after → block.Becomes after) {id : HandleId} {after : Block}
    (present : next.blocks id = some after) :
    ∃ before, heap.blocks id = some before ∧ before.Becomes after := by
  rw [blocks] at present
  by_cases same : id = touched
  · rw [if_pos same] at present
    exact ⟨block, same ▸ allocated, changed after present⟩
  · rw [if_neg same] at present
    exact ⟨after, present, .refl after⟩

/-- An orphan is freed by the close callback that finishes its close. -/
theorem finishOrphan_blocks (heap : Heap) (touched : HandleId) (block : Block) (other : HandleId) :
    (((heap.markClosed touched block).record (.closeCallback touched)).free touched).blocks other =
      if other = touched then none else heap.blocks other := by
  by_cases same : other = touched <;> simp [same]

/-- After a move every block is what an earlier one became, unless it is new. A block that is
added has the first address that was free, which no earlier block had. -/
theorem Move.becomes (move : Move heap next) {id : HandleId} {after : Block}
    (present : next.blocks id = some after) (known : id ≠ heap.fresh ∨ next.fresh = heap.fresh) :
    ∃ before, heap.blocks id = some before ∧ before.Becomes after := by
  have added {content : Option Block} (grown : next.fresh = heap.fresh + 1)
      (blocks : ∀ other,
        next.blocks other = if other = heap.fresh then content else heap.blocks other) :
      ∃ before, heap.blocks id = some before ∧ before.Becomes after := by
    have older : id ≠ heap.fresh := known.resolve_right (grown ▸ Nat.succ_ne_self heap.fresh)
    rw [blocks, if_neg older] at present
    exact ⟨after, present, .refl after⟩
  cases move with
  | close touched block allocated opened external =>
    refine becomes_of_update allocated (heap.markClosing_blocks touched · block _) ?_ present
    rintro _ ⟨⟩
    exact ⟨rfl, rfl, by simp, by simp [opened]⟩
  | abandon self wrapper touched block content live holds allocated closing empty =>
    refine becomes_of_update allocated (heap.setBlock_blocks touched · _) ?_ present
    rintro _ ⟨⟩
    exact ⟨rfl, rfl, by simp, by simp⟩
  | rest self content idle empty => exact ⟨after, present, .refl after⟩
  | transfer self org source touched block apart idle live holds allocated =>
    refine becomes_of_update allocated (Heap.setBlock_blocks _ touched · _) ?_ present
    rintro _ ⟨⟩
    exact ⟨rfl, rfl, by simp, by simp⟩
  | discard self wrapper touched block live holds allocated closed =>
    exact becomes_of_update allocated (Heap.free_blocks _ touched ·) nofun present
  | finishOwned self wrapper touched block live holds allocated closing =>
    refine becomes_of_update allocated (heap.markClosed_blocks touched · block) ?_ present
    rintro _ ⟨⟩
    exact ⟨rfl, rfl, by simp, by simp⟩
  | finishOrphan touched block allocated closing fromPool null =>
    exact becomes_of_update allocated (finishOrphan_blocks heap touched block) nofun present
  | finishForeign touched block allocated closing outside =>
    refine becomes_of_update allocated (heap.markClosed_blocks touched · block) ?_ present
    rintro _ ⟨⟩
    exact ⟨rfl, rfl, by simp, by simp⟩
  | adopt self active vacant => exact added rfl (heap.setBlock_blocks heap.fresh · _)
  | share data active untagged => exact added rfl (heap.setBlock_blocks heap.fresh · _)
  | flag touched block active referenced allocated unreferenced =>
    refine becomes_of_update allocated (heap.setBlock_blocks touched · _) ?_ present
    rintro _ ⟨⟩
    exact ⟨rfl, rfl, by simp, by simp⟩

/-- When a block is lost, the others go on as they are. -/
theorem Leak.becomes (leak : Leak heap next) {id : HandleId} {after : Block}
    (present : next.blocks id = some after) :
    ∃ before, heap.blocks id = some before ∧ before.Becomes after := by
  cases leak with
  | abandon self wrapper touched block content live holds allocated closed empty =>
    refine becomes_of_update allocated (heap.setBlock_blocks touched · _) ?_ present
    rintro _ ⟨⟩
    exact ⟨rfl, rfl, by simp, by simp⟩

end MoeUV
