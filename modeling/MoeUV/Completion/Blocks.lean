import MoeUV.Completion.Service

/-!
# The blocks of the requests and the buffers

The memory of a request passes from the call that submits it to libuv, and from there
to the completion handler; a receive buffer passes from libuv to the handler that is
called with it. A block has an owner from its allocation to its release, and the one who
gives it up last releases it.

The account is kept block by block: how often libuv has it, how often the running handler
has it, and what is on record about it. All handlers of requests take over what libuv
returns as the first thing they do. The two handlers with a buffer do so only after they
have found a wrapper. They do find one: libuv reads for open handles only, an open handle
has a wrapper, and nothing runs between the question for the buffer and the handler.
-/

namespace MoeUV

open Foundation.Execution

variable {Callback : Type}

namespace Sockets

variable (sockets : Sockets Callback)

/-- The blocks that libuv has. -/
def withLibuv : List BlockId :=
  sockets.pending.flatMap Pending.blocks ++ sockets.lent.flatMap (·.base.toList)

/-- The blocks that the running handler has. -/
def withHandler : List BlockId := (sockets.frame.map Frame.owned).getD []

/-- What is on record about a block. -/
def history (block : BlockId) : List BlockEvent := sockets.log.filter (·.block = block)

end Sockets

/-- The tenures of a block, by what is on record about it and how often libuv
and the running handler have it. -/
inductive Tenure (block : BlockId) : List BlockEvent → Nat → Nat → Prop
  | unborn : Tenure block [] 0 0
  | refused : Tenure block [.refused block, .released block .call] 0 0
  | withLibuv : Tenure block [.accepted block] 1 0
  | withHandler : Tenure block [.accepted block] 0 1
  | released : Tenure block [.accepted block, .released block .handler] 0 0

/-- Every block that has been allocated has one owner, or it has been released once, by
the call if libuv refused it and by a handler otherwise. -/
structure Accounted (sockets : Sockets Callback) : Prop where
  tenures : ∀ block, Tenure block (sockets.history block) (sockets.withLibuv.count block)
    (sockets.withHandler.count block)
  allocated : ∀ block, sockets.history block = [] ↔ sockets.memory ≤ block

/-- libuv has one buffer at most, and the handle that it reads for has a wrapper. -/
def LendsOne (sockets : Sockets Callback) : Prop :=
  ∀ buf ∈ sockets.lent, sockets.lent = [buf] ∧ sockets.heap.dispatches buf.handle = true

section Tenures

variable {block : BlockId} {history : List BlockEvent} {libuv handler : Nat}

/-- A block without a record has no owner. -/
theorem Tenure.unowned (tenure : Tenure block history libuv handler) (blank : history = []) :
    libuv = 0 ∧ handler = 0 := by
  cases tenure with
  | unborn => exact ⟨rfl, rfl⟩
  | _ => cases blank

/-- A handler takes over what libuv gives up. -/
theorem Tenure.take {taken : Nat} (tenure : Tenure block history (libuv + taken) 0) :
    Tenure block history libuv taken := by
  generalize total : libuv + taken = count at tenure
  have none (zero : libuv + taken = 0) : libuv = 0 ∧ taken = 0 := by omega
  cases tenure with
  | unborn =>
    obtain ⟨rfl, rfl⟩ := none total
    exact .unborn
  | refused =>
    obtain ⟨rfl, rfl⟩ := none total
    exact .refused
  | released =>
    obtain ⟨rfl, rfl⟩ := none total
    exact .released
  | withLibuv =>
    have either : (libuv = 1 ∧ taken = 0) ∨ (libuv = 0 ∧ taken = 1) := by omega
    rcases either with ⟨rfl, rfl⟩ | ⟨rfl, rfl⟩
    · exact .withLibuv
    · exact .withHandler

/-- A handler releases what it has. -/
theorem Tenure.release (tenure : Tenure block history libuv handler) :
    Tenure block (history ++ List.replicate handler (.released block .handler)) libuv 0 := by
  cases tenure with
  | withHandler => exact .released
  | unborn => exact .unborn
  | refused => exact .refused
  | withLibuv => exact .withLibuv
  | released => exact .released

end Tenures

section Records

variable {sockets next : Sockets Callback} {block : BlockId}

/-- The same is put on record about several blocks. -/
theorem filter_map_event {event : BlockId → BlockEvent}
    (named : ∀ block, (event block).block = block) (blocks : List BlockId) (block : BlockId) :
    (blocks.map event).filter (·.block = block) =
      List.replicate (blocks.count block) (event block) := by
  have same : ((fun e : BlockEvent => decide (e.block = block)) ∘ event) =
      fun other => decide (other = block) := by
    funext other
    simp [named]
  rw [List.filter_map, same, List.filter_eq, List.map_replicate]

/-- New events on the record extend the history of each block they are about. -/
theorem history_append {events : List BlockEvent} (log : next.log = sockets.log ++ events)
    (block : BlockId) :
    next.history block = sockets.history block ++ events.filter (·.block = block) := by
  rw [Sockets.history, log, List.filter_append, Sockets.history]

/-- What is taken out of a list is missing from the rest. -/
theorem count_flatMap_eraseIdx {Item : Type} (blocks : Item → List BlockId) {items : List Item}
    {index : Nat} {item : Item} (present : items[index]? = some item) (block : BlockId) :
    (items.flatMap blocks).count block =
      ((items.eraseIdx index).flatMap blocks).count block + (blocks item).count block := by
  obtain ⟨within, rfl⟩ := List.getElem?_eq_some_iff.mp present
  have split := (List.getElem_cons_eraseIdx_perm within).flatMap_right blocks
  rw [← split.count_eq, List.flatMap_cons, List.count_append, Nat.add_comm]

end Records

section Steps

variable {sockets next : Sockets Callback}

/-- Whoever has no frame has no blocks. -/
theorem withHandler_idle (idle : sockets.frame = none) : sockets.withHandler = [] := by
  rw [Sockets.withHandler, idle]
  rfl

/-- Some blocks come into being, and nothing happens to the others. The addresses of the new
blocks are the ones between the old bound of the memory and the new one, so no block that was on
record before is among them. -/
theorem Accounted.grow (accounted : Accounted sockets) {blocks : List BlockId}
    (fresh : ∀ block, block ∈ blocks ↔ sockets.memory ≤ block ∧ block < next.memory)
    (larger : sockets.memory ≤ next.memory)
    (others : ∀ block, block ∉ blocks → next.history block = sockets.history block ∧
      next.withLibuv.count block = sockets.withLibuv.count block ∧
      next.withHandler.count block = sockets.withHandler.count block)
    (added : ∀ block, block ∈ blocks → next.history block ≠ [] ∧
      Tenure block (next.history block) (next.withLibuv.count block)
        (next.withHandler.count block)) : Accounted next := by
  constructor
  · intro block
    by_cases member : block ∈ blocks
    · exact (added block member).2
    · obtain ⟨history, libuv, handler⟩ := others block member
      rw [history, libuv, handler]
      exact accounted.tenures block
  · intro block
    by_cases member : block ∈ blocks
    · exact iff_of_false (added block member).1 (Nat.not_le.mpr ((fresh block).mp member).2)
    · rw [(others block member).1, accounted.allocated block]
      constructor
      · intro above
        exact Nat.not_lt.mp fun below => member ((fresh block).mpr ⟨above, below⟩)
      · intro above
        exact Nat.le_trans larger above

/-- A block that is yet to be allocated has no owner. -/
theorem Accounted.unowned (accounted : Accounted sockets) {block : BlockId}
    (above : sockets.memory ≤ block) : sockets.history block = [] ∧
      sockets.withLibuv.count block = 0 ∧ sockets.withHandler.count block = 0 := by
  have blank := (accounted.allocated block).mpr above
  exact ⟨blank, (accounted.tenures block).unowned blank⟩

/-- A handler that owns some blocks at its start releases them, or keeps them while it
waits. -/
theorem Segment.accounted {handle : Option HandleId} {settles : Prop} {owned : List BlockId}
    (segment : Segment sockets next owned handle settles)
    (tenures : ∀ block, Tenure block (sockets.history block) (sockets.withLibuv.count block)
      (owned.count block))
    (allocated : ∀ block, sockets.history block = [] ↔ sockets.memory ≤ block) :
    Accounted next := by
  have libuv : next.withLibuv = sockets.withLibuv := by
    simp only [Sockets.withLibuv, segment.pending, segment.lent]
  rcases segment.ends with ⟨ended, log⟩ | ⟨point, waiting, log, _⟩
  · have history (block : BlockId) : next.history block = sockets.history block ++
        List.replicate (owned.count block) (.released block .handler) := by
      rw [history_append log, filter_map_event fun _ => rfl]
    constructor
    · intro block
      rw [history, libuv, withHandler_idle ended]
      exact (tenures block).release
    · intro block
      rw [history, List.append_eq_nil_iff, segment.memory, ← allocated block]
      refine and_iff_left_of_imp fun blank => ?_
      rw [((tenures block).unowned blank).2, List.replicate_zero]
  · have history (block : BlockId) : next.history block = sockets.history block := by
      rw [Sockets.history, log, Sockets.history]
    have handler : next.withHandler = owned := by
      rw [Sockets.withHandler, waiting]
      rfl
    constructor
    · intro block
      rw [history, libuv, handler]
      exact tenures block
    · intro block
      rw [history, segment.memory]
      exact allocated block

section Allocation

variable {blocks : List BlockId} (accounted : Accounted sockets)
  (contiguous : blocks = List.range' sockets.memory blocks.length)
  (memory : next.memory = sockets.memory + blocks.length) (frame : next.frame = sockets.frame)

include contiguous in
/-- In a list without duplicates a block occurs once. -/
theorem count_of_mem {block : BlockId} (member : block ∈ blocks) : blocks.count block = 1 := by
  rw [contiguous] at member ⊢
  exact List.count_eq_one_of_mem List.nodup_range' member

include contiguous memory in
/-- The new blocks are those that the counter of blocks passes. -/
theorem mem_iff_fresh (block : BlockId) :
    block ∈ blocks ↔ sockets.memory ≤ block ∧ block < next.memory := by
  rw [memory, contiguous, List.mem_range'_1, List.length_range']

include frame in
/-- The blocks in the hands of the running handler depend on its frame only. -/
theorem withHandler_eq : next.withHandler = sockets.withHandler := by
  rw [Sockets.withHandler, frame, Sockets.withHandler]

include accounted contiguous memory frame

/-- libuv takes new blocks. -/
theorem Accounted.accept (log : next.log = sockets.log ++ blocks.map .accepted)
    (libuv : ∀ block, next.withLibuv.count block =
      sockets.withLibuv.count block + blocks.count block) : Accounted next := by
  have history (block : BlockId) : next.history block =
      sockets.history block ++ List.replicate (blocks.count block) (.accepted block) := by
    rw [history_append log, filter_map_event fun _ => rfl]
  have handler := withHandler_eq frame
  have fresh := mem_iff_fresh contiguous memory
  refine accounted.grow fresh (memory ▸ Nat.le_add_right _ _) ?_ ?_
  · intro block other
    rw [history, libuv, handler, List.count_eq_zero_of_not_mem other]
    simp
  · intro block member
    obtain ⟨blank, unowned, idle⟩ := accounted.unowned ((fresh block).mp member).1
    rw [history, libuv, handler, blank, unowned, idle, count_of_mem contiguous member]
    exact ⟨List.cons_ne_nil _ _, .withLibuv⟩

/-- libuv refuses new blocks, and the call releases them. -/
theorem Accounted.refuse
    (log : next.log = sockets.log ++ (blocks.map .refused ++ blocks.map (.released · .call)))
    (libuv : next.withLibuv = sockets.withLibuv) : Accounted next := by
  have history (block : BlockId) : next.history block = sockets.history block ++
      (List.replicate (blocks.count block) (.refused block) ++
        List.replicate (blocks.count block) (.released block .call)) := by
    rw [history_append log, List.filter_append, filter_map_event fun _ => rfl,
      filter_map_event fun _ => rfl]
  have handler := withHandler_eq frame
  have fresh := mem_iff_fresh contiguous memory
  refine accounted.grow fresh (memory ▸ Nat.le_add_right _ _) ?_ ?_
  · intro block other
    rw [history, libuv, handler, List.count_eq_zero_of_not_mem other]
    simp
  · intro block member
    obtain ⟨blank, unowned, idle⟩ := accounted.unowned ((fresh block).mp member).1
    rw [history, libuv, handler, blank, unowned, idle, count_of_mem contiguous member]
    exact ⟨List.cons_ne_nil _ _, .refused⟩

end Allocation

/-- A request is allocated, together with its copy of the data if there is one. If libuv refuses
it, the call releases both blocks before it throws; otherwise they are with libuv until the
completion. -/
theorem Accounted.submit (accounted : Accounted sockets) (operation : Operation) (copied : Bool)
    (callback : Option Callback) (code : Int) :
    Accounted (sockets.submit operation copied callback code).2 := by
  have contiguous : sockets.memory :: (if copied then some (sockets.memory + 1) else none).toList =
      List.range' sockets.memory
        (sockets.memory :: (if copied then some (sockets.memory + 1) else none).toList).length := by
    cases copied <;> rfl
  by_cases refused : code < 0
  · simp only [Sockets.submit, if_pos refused]
    refine accounted.refuse contiguous ?_ ?_ ?_ ?_
    · rfl
    · rfl
    · rw [← List.append_assoc]
    · rfl
  · simp only [Sockets.submit, if_neg refused]
    refine accounted.accept contiguous ?_ ?_ ?_ ?_
    · rfl
    · rfl
    · rfl
    · intro block
      simp only [Sockets.withLibuv, List.flatMap_append, List.flatMap_singleton, Pending.blocks,
        List.count_append]
      exact Nat.add_right_comm _ _ _

/-- A buffer is allocated, unless there is no memory for it. -/
theorem Accounted.alloc (accounted : Accounted sockets) (handle : HandleId) (granted : Bool) :
    Accounted (sockets.onUVAllocBuffer handle granted) := by
  cases granted with
  | true =>
    have contiguous : [sockets.memory] = List.range' sockets.memory [sockets.memory].length := rfl
    refine accounted.accept contiguous rfl rfl rfl ?_
    intro block
    simp only [Sockets.onUVAllocBuffer, if_true, Sockets.withLibuv, List.flatMap_append,
      List.flatMap_singleton, List.count_append, Option.toList_some]
    exact (Nat.add_assoc _ _ _).symm
  | false =>
    have libuv : (sockets.onUVAllocBuffer handle false).withLibuv = sockets.withLibuv := by
      simp [Sockets.onUVAllocBuffer, Sockets.withLibuv]
    constructor
    · intro block
      rw [libuv]
      exact accounted.tenures block
    · intro block
      exact accounted.allocated block

/-- A completed request is no longer with libuv. -/
theorem count_completed {index : Nat} {request : Pending Callback}
    (present : sockets.pending[index]? = some request) (block : BlockId) :
    sockets.withLibuv.count block =
      (Sockets.withLibuv { sockets with pending := sockets.pending.eraseIdx index }).count block +
        request.blocks.count block := by
  simp only [Sockets.withLibuv, List.count_append]
  rw [count_flatMap_eraseIdx Pending.blocks present]
  exact Nat.add_right_comm _ _ _

/-- A returned buffer is no longer with libuv. -/
theorem count_returned {index : Nat} {buf : Lent} (present : sockets.lent[index]? = some buf)
    (block : BlockId) :
    sockets.withLibuv.count block =
      (Sockets.withLibuv { sockets with lent := sockets.lent.eraseIdx index }).count block +
        buf.base.toList.count block := by
  simp only [Sockets.withLibuv, List.count_append]
  rw [count_flatMap_eraseIdx (fun buf : Lent => buf.base.toList) present, Nat.add_assoc]

/-- What an idle loop gives to a handler. -/
theorem Accounted.taken (accounted : Accounted sockets) (idle : sockets.frame = none)
    {libuv taken : Nat} {block : BlockId} (split : sockets.withLibuv.count block = libuv + taken) :
    Tenure block (sockets.history block) libuv taken := by
  have tenure := accounted.tenures block
  rw [withHandler_idle idle, split] at tenure
  exact tenure.take

/-- Nothing is lent while the program runs. -/
theorem LendsOne.of_nil (unlent : sockets.lent = []) : LendsOne sockets := by
  intro buf member
  rw [unlent] at member
  cases member

/-- libuv asks for one buffer at a time, and for a handle that has a wrapper. -/
theorem LendsOne.alloc (sound : Sound sockets) (unlent : sockets.lent = []) {handle : HandleId}
    (reads : sockets.heap.reads handle = true) (granted : Bool) :
    LendsOne (sockets.onUVAllocBuffer handle granted) := by
  have found := dispatches_of_reads sound.coherent.owned reads
  intro buf member
  cases granted with
  | true =>
    simp only [Sockets.onUVAllocBuffer, if_true, unlent, List.nil_append, List.mem_singleton]
      at member ⊢
    subst member
    exact ⟨rfl, found⟩
  | false =>
    simp only [Sockets.onUVAllocBuffer, Bool.false_eq_true, if_false, unlent, List.nil_append,
      List.mem_singleton] at member ⊢
    subst member
    exact ⟨rfl, found⟩

/-- After the return of the one buffer libuv has none. -/
theorem LendsOne.returned (lends : LendsOne sockets) {index : Nat} {buf : Lent}
    (present : sockets.lent[index]? = some buf) : sockets.lent.eraseIdx index = [] := by
  have alone := (lends buf (List.mem_of_getElem? present)).1
  rw [alone] at present ⊢
  obtain ⟨within, _⟩ := List.getElem?_eq_some_iff.mp present
  obtain rfl : index = 0 := Nat.lt_one_iff.mp within
  rfl

/-- Only libuv's question for a buffer lends one, and nothing comes between it and the
return. -/
theorem LendsOne.run (sound : Sound sockets) (lends : LendsOne sockets)
    {action : SocketAction Callback} (enabled : action.Enabled sockets)
    (effect : Effect sockets action next) : LendsOne next := by
  -- All steps but the return of a buffer are taken while none is lent.
  have unlent (other : action.buffer = none) : sockets.lent = [] :=
    enabled.1.resolve_right fun returns => returns other
  cases effect with
  | beside outside evolves fresh pending lent frame memory log failed =>
    have other : action.buffer = none := by
      cases action with
      | read index nread => cases outside
      | receive index nread family flags => cases outside
      | _ => rfl
    exact .of_nil (lent.trans (unlent other))
  | submitted operation copied callback code =>
    have lent : (sockets.submit operation copied callback code).2.lent = sockets.lent := by
      by_cases refused : code < 0 <;> simp [Sockets.submit, refused]
    exact .of_nil (lent.trans (unlent rfl))
  | lent handle granted => exact .alloc sound (unlent rfl) enabled.2.2 granted
  | completed request present idle own segment => exact .of_nil (segment.lent.trans (unlent rfl))
  | returned buf kind present idle segment =>
    exact .of_nil (segment.lent.trans (lends.returned present))
  | connected idle segment => exact .of_nil (segment.lent.trans (unlent rfl))
  | resumed frame current segment => exact .of_nil (segment.lent.trans (unlent rfl))

/-- A step keeps the account of all blocks. The cases are the effects a step can have: it leaves
the blocks alone, submits, lends a buffer, or begins or goes on with a handler, which owns what
it was given. -/
theorem Accounted.run (accounted : Accounted sockets) (lends : LendsOne sockets)
    {action : SocketAction Callback} (effect : Effect sockets action next) : Accounted next := by
  cases effect with
  | beside outside evolves fresh pending lent frame memory log failed =>
    constructor
    · intro block
      rw [Sockets.history, Sockets.withLibuv, Sockets.withHandler, pending, lent, frame, log]
      exact accounted.tenures block
    · intro block
      rw [Sockets.history, log, memory]
      exact accounted.allocated block
  | submitted operation copied callback code =>
    exact accounted.submit operation copied callback code
  | lent handle granted => exact accounted.alloc handle granted
  | completed request present idle own segment =>
    refine segment.accounted ?_ accounted.allocated
    intro block
    have owner : request.owner = request.blocks := by
      rw [Pending.owner, own, Pending.blocks]
    rw [owner]
    exact accounted.taken idle (count_completed present block)
  | returned buf kind present idle segment =>
    -- The handler finds a wrapper and takes the buffer over.
    have found := (lends buf (List.mem_of_getElem? present)).2
    rw [if_pos found] at segment
    refine segment.accounted ?_ accounted.allocated
    intro block
    exact accounted.taken idle (count_returned present block)
  | connected idle segment =>
    refine segment.accounted ?_ accounted.allocated
    intro block
    have tenure := accounted.tenures block
    rwa [withHandler_idle idle] at tenure
  | resumed frame current segment =>
    refine segment.accounted ?_ accounted.allocated
    intro block
    have tenure := accounted.tenures block
    rwa [Sockets.withHandler, current] at tenure

/-- At the beginning no block was allocated and none is on record. -/
theorem initial_accounted : Accounted (Sockets.initial : Sockets Callback) :=
  ⟨fun _ => .unborn, fun block => iff_of_true rfl (Nat.zero_le block)⟩

end Steps

section Runs

/-- Over every run, every block has one owner until it is released once, and it is
released by whom it should be: by the call if libuv refused it, and by a handler otherwise,
whether its wrapper is still there or not and whether its callbacks return or throw. -/
theorem blocks_accounted (actions : List (SocketAction Callback))
    (legal : socketSystem.Legal Sockets.initial actions) :
    socketSystem.Throughout Accounted Sockets.initial actions := by
  have throughout : socketSystem.Throughout
      (fun sockets => Sound sockets ∧ LendsOne sockets ∧ Accounted sockets)
      Sockets.initial actions := by
    refine socketSystem.throughout_of_safe _ ?_
      ⟨initial_sound, .of_nil rfl, initial_accounted⟩ legal
    rintro sockets action ⟨sound, lends, accounted⟩ enabled
    obtain ⟨next, ran, kept, effect⟩ := sound.run enabled
    exact ⟨next, ran, kept, lends.run sound enabled effect, accounted.run lends effect⟩
  exact System.Throughout.mono socketSystem (fun _ all => all.2.2) throughout

/-- A refused write, a buffer whose callback throws, one that is not granted, which closes
the handle, a copied write that completes after the wrapper is gone, and a query whose
callback throws. -/
theorem blocks_accounted_destroyed :
    socketSystem.Throughout Accounted (Sockets.initial : Sockets Nat)
      [.operate (.construct wrapperA true), .submit (.write wrapperA 4 (-32)),
        .submit (.write wrapperA 4 0), .submit (.resolve (some 7) 0),
        .setCallback wrapperA .onData (some 1), .allocBuffer 2 true, .read 0 5, .resume true,
        .allocBuffer 2 false, .read 0 (-105), .operate (.destroy wrapperA),
        .complete 0 UV_ECANCELED, .complete 0 0, .resume true, .operate (.deliverClose 2)] :=
  blocks_accounted _ (socketSystem.legal_of_check (by decide))

end Runs

end MoeUV
