import MoeUV.Handle.Tag
import Mathlib.Logic.Function.Basic

/-!
# Handle blocks and the loop that knows them

A handle block is allocated from the loop's object pool, except those that belong
to the loop itself or to another library sharing it. libuv links an initialised
block into the loop's handle queue and keeps it there until its close has
finished; a block being closed is also linked into the list of closing handles.
Both links live in the block, so walking a queue that holds a freed block is a
fault here, as is every other access through a dangling or null pointer.

The events record each `uv_close`, each entry into `OnUVClose` and each return of
a block to the pool. No operation reads them.
-/

namespace MoeUV

/-- A handle block, named by the order of its allocation. -/
abbrev HandleId := Nat

/-- The `CLOSING` and `CLOSED` flags of a handle. -/
inductive Phase where
  | opened
  | closing
  | closed
deriving DecidableEq

/-- The callback given to `uv_close`. -/
inductive CloseCallback where
  | null
  | onUVClose
deriving DecidableEq

/-- The parts of `uv_handle_t` that the wrappers and the loop depend on. -/
structure Block where
  /-- Allocated by `MOE_UV_NEW`, and not by the loop or by another library. -/
  pooled : Bool
  /-- `UV_HANDLE_INTERNAL` -/
  internal : Bool
  data : Word
  phase : Phase
  closeCb : CloseCallback
  active : Bool
  referenced : Bool
deriving DecidableEq

/-- `m_pHandle` and `m_bHandleClosed` of an `AsyncHandle`. -/
structure Wrapper where
  handle : Option HandleId
  handleClosed : Bool
deriving DecidableEq

inductive Event where
  | uvClose (id : HandleId)
  | closeCallback (id : HandleId)
  | freed (id : HandleId)
deriving DecidableEq

def Event.handle : Event → HandleId
  | .uvClose id => id
  | .closeCallback id => id
  | .freed id => id

/-- The undefined behaviours and failed assertions of the modelled code. -/
inductive Fault where
  | danglingWrapper (self : Pointer)
  | nullHandle
  | danglingHandle (id : HandleId)
  | closingTwice (id : HandleId)
  | doubleFree (id : HandleId)
  | foreignFree (id : HandleId)
deriving DecidableEq

/-- The live wrappers, the allocated blocks, and libuv's lists of them. -/
structure Heap where
  wrappers : Pointer → Option Wrapper
  blocks : HandleId → Option Block
  fresh : HandleId
  queue : List HandleId
  closingHandles : List HandleId
  events : List Event

namespace Heap

/-- The events of one block, the latest first. -/
def history (heap : Heap) (id : HandleId) : List Event :=
  heap.events.filter fun event => event.handle = id

section Memory

variable (heap : Heap)

/-- Access the block behind a non-null handle pointer. -/
def deref (id : HandleId) : Except Fault Block :=
  match heap.blocks id with
  | some block => .ok block
  | none => .error (.danglingHandle id)

/-- Access a wrapper object. -/
def wrapper (self : Pointer) : Except Fault Wrapper :=
  match heap.wrappers self with
  | some wrapper => .ok wrapper
  | none => .error (.danglingWrapper self)

def setBlock (id : HandleId) (block : Block) : Heap :=
  { heap with blocks := Function.update heap.blocks id (some block) }

/-- The memory at an address now holds this wrapper, or none. -/
def putWrapper (self : Pointer) (content : Option Wrapper) : Heap :=
  { heap with wrappers := Function.update heap.wrappers self content }

def setWrapper (self : Pointer) (wrapper : Wrapper) : Heap := heap.putWrapper self (some wrapper)

/-- The memory of a wrapper after its destructor. -/
def dropWrapper (self : Pointer) : Heap := heap.putWrapper self none

def record (event : Event) : Heap := { heap with events := event :: heap.events }

/-- `handle->data = data`. -/
def setData (id : HandleId) (data : Word) : Except Fault Heap := do
  let block ← heap.deref id
  pure (heap.setBlock id { block with data := data })

/-- `MOE_UV_NEW`: a cleared block from the pool, not yet known to libuv. -/
def alloc : HandleId × Heap :=
  (heap.fresh, { heap.setBlock heap.fresh
      ⟨true, false, 0, .opened, .null, false, false⟩ with fresh := heap.fresh + 1 })

/-- The block goes back to the pool. -/
def free (id : HandleId) : Heap :=
  { heap with blocks := Function.update heap.blocks id none }.record (.freed id)

/-- The deleter of `UniquePooledObject`. -/
def poolFree (id : HandleId) : Except Fault Heap :=
  match heap.blocks id with
  | none => .error (.doubleFree id)
  | some block => if block.pooled then .ok (heap.free id) else .error (.foreignFree id)

end Memory

section Libuv

variable (heap : Heap)

/-- `uv__handle_init`: the block joins the handle queue, referenced. Some
initialisers also start the handle. -/
def uvHandleInit (id : HandleId) (active : Bool) : Except Fault Heap := do
  let block ← heap.deref id
  pure { heap.setBlock id { block with active := active, referenced := true } with
    queue := heap.queue ++ [id] }

/-- `uv_is_closing`. -/
def uvIsClosing (id : HandleId) : Except Fault Bool := do
  let block ← heap.deref id
  pure (decide (block.phase ≠ .opened))

/-- The block is stopped and joins the closing handles. -/
def markClosing (id : HandleId) (block : Block) (closeCb : CloseCallback) : Heap :=
  { heap.setBlock id { block with phase := .closing, closeCb := closeCb, active := false } with
    closingHandles := id :: heap.closingHandles }.record (.uvClose id)

/-- `uv_close`, which asserts that the handle is not closing yet. -/
def uvClose (id : HandleId) (closeCb : CloseCallback) : Except Fault Heap := do
  let block ← heap.deref id
  if block.phase ≠ .opened then throw (.closingTwice id)
  pure (heap.markClosing id block closeCb)

/-- The block leaves both lists. -/
def markClosed (id : HandleId) (block : Block) : Heap :=
  { heap.setBlock id { block with phase := .closed, referenced := false } with
    queue := heap.queue.filter (· ≠ id)
    closingHandles := heap.closingHandles.filter (· ≠ id) }

/-- `uv__finish_close` up to the call of the close callback. -/
def uvFinishClose (id : HandleId) : Except Fault Heap := do
  let block ← heap.deref id
  pure (heap.markClosed id block)

/-- `uv_ref` and `uv_unref`. -/
def uvSetReferenced (id : HandleId) (referenced : Bool) : Except Fault Heap := do
  let block ← heap.deref id
  pure (heap.setBlock id { block with referenced := referenced })

/-- The handle is started or stopped, by a call of its type or by libuv. -/
def uvSetActive (id : HandleId) (active : Bool) : Except Fault Heap := do
  let block ← heap.deref id
  pure (heap.setBlock id { block with active := active })

/-- Another library initialises a handle of its own on the loop. -/
def uvForeignInit (data : Word) (active : Bool) : Heap :=
  { heap.setBlock heap.fresh ⟨false, false, data, .opened, .null, active, true⟩ with
    fresh := heap.fresh + 1
    queue := heap.queue ++ [heap.fresh] }

end Libuv

/-- The loop after `uv_loop_init`: its child watcher and its work notifier are
internal and unreferenced. -/
def loopInit : Heap where
  wrappers _ := none
  blocks id :=
    if id = 0 then some ⟨false, true, 0, .opened, .null, false, false⟩
    else if id = 1 then some ⟨false, true, 0, .opened, .null, true, false⟩
    else none
  fresh := 2
  queue := [0, 1]
  closingHandles := []
  events := []

section Lookup

variable (heap : Heap) (id other : HandleId) (self another : Pointer)

/-- A block that is written is the only one that changes. -/
@[simp] theorem setBlock_blocks (block : Block) :
    (heap.setBlock id block).blocks other = if other = id then some block else heap.blocks other :=
  Function.update_apply _ _ _ _

/-- The wrappers do not notice it, -/
@[simp] theorem setBlock_wrappers (block : Block) :
    (heap.setBlock id block).wrappers = heap.wrappers := rfl

/-- A wrapper that is written is the only one that changes. -/
@[simp] theorem putWrapper_wrappers (content : Option Wrapper) :
    (heap.putWrapper self content).wrappers another =
      if another = self then content else heap.wrappers another :=
  Function.update_apply _ _ _ _

/-- The blocks do not notice it. -/
@[simp] theorem putWrapper_blocks (content : Option Wrapper) :
    (heap.putWrapper self content).blocks = heap.blocks := rfl

/-- A block that is freed is the only one that goes. -/
@[simp] theorem free_blocks :
    (heap.free id).blocks other = if other = id then none else heap.blocks other :=
  Function.update_apply _ _ _ _

/-- A wrapper keeps its pointer even to a block that is freed. -/
@[simp] theorem free_wrappers : (heap.free id).wrappers = heap.wrappers := rfl

/-- `uv_close` changes the block of the handle alone: it has the callback now, and is inactive. -/
@[simp] theorem markClosing_blocks (block : Block) (closeCb : CloseCallback) :
    (heap.markClosing id block closeCb).blocks other =
      if other = id then some { block with phase := .closing, closeCb := closeCb, active := false }
      else heap.blocks other :=
  Function.update_apply _ _ _ _

/-- The wrappers do not notice that a handle is closed, -/
@[simp] theorem markClosing_wrappers (block : Block) (closeCb : CloseCallback) :
    (heap.markClosing id block closeCb).wrappers = heap.wrappers := rfl

/-- `uv__finish_close` changes the block of the handle alone. -/
@[simp] theorem markClosed_blocks (block : Block) :
    (heap.markClosed id block).blocks other =
      if other = id then some { block with phase := .closed, referenced := false }
      else heap.blocks other :=
  Function.update_apply _ _ _ _

/-- nor that its close callback comes. -/
@[simp] theorem markClosed_wrappers (block : Block) :
    (heap.markClosed id block).wrappers = heap.wrappers := rfl

/-- nor does the queue of the loop, -/
@[simp] theorem setBlock_queue (block : Block) :
    (heap.setBlock id block).queue = heap.queue := rfl

/-- nor the list of the handles that wait for their close callback, -/
@[simp] theorem setBlock_closingHandles (block : Block) :
    (heap.setBlock id block).closingHandles = heap.closingHandles := rfl

/-- nor the allocator, -/
@[simp] theorem setBlock_fresh (block : Block) :
    (heap.setBlock id block).fresh = heap.fresh := rfl

/-- nor the record. -/
@[simp] theorem setBlock_events (block : Block) :
    (heap.setBlock id block).events = heap.events := rfl

/-- A wrapper that is written leaves the queue of the loop, -/
@[simp] theorem putWrapper_queue (content : Option Wrapper) :
    (heap.putWrapper self content).queue = heap.queue := rfl

/-- the handles that wait for their close callback, -/
@[simp] theorem putWrapper_closingHandles (content : Option Wrapper) :
    (heap.putWrapper self content).closingHandles = heap.closingHandles := rfl

/-- the allocator, -/
@[simp] theorem putWrapper_fresh (content : Option Wrapper) :
    (heap.putWrapper self content).fresh = heap.fresh := rfl

/-- and the record. -/
@[simp] theorem putWrapper_events (content : Option Wrapper) :
    (heap.putWrapper self content).events = heap.events := rfl

/-- An event is recorded, and the wrappers stay, -/
@[simp] theorem record_wrappers (event : Event) :
    (heap.record event).wrappers = heap.wrappers := rfl

/-- so do the blocks, -/
@[simp] theorem record_blocks (event : Event) :
    (heap.record event).blocks = heap.blocks := rfl

/-- the queue of the loop, -/
@[simp] theorem record_queue (event : Event) :
    (heap.record event).queue = heap.queue := rfl

/-- the handles that wait for their close callback, -/
@[simp] theorem record_closingHandles (event : Event) :
    (heap.record event).closingHandles = heap.closingHandles := rfl

/-- and the allocator. -/
@[simp] theorem record_fresh (event : Event) :
    (heap.record event).fresh = heap.fresh := rfl

/-- Freeing a block does not take it out of the queue of the loop: if it is still linked, the loop
comes to a block that is gone. -/
@[simp] theorem free_queue :
    (heap.free id).queue = heap.queue := rfl

/-- It does not cancel the close callback either. -/
@[simp] theorem free_closingHandles :
    (heap.free id).closingHandles = heap.closingHandles := rfl

/-- The memory is not given out again, so a use behind the end is told. -/
@[simp] theorem free_fresh :
    (heap.free id).fresh = heap.fresh := rfl

/-- A handle that is closed stays in the queue of the loop. -/
@[simp] theorem markClosing_queue (block : Block) (closeCb : CloseCallback) :
    (heap.markClosing id block closeCb).queue = heap.queue := rfl

/-- No block is allocated by `uv_close`, -/
@[simp] theorem markClosing_fresh (block : Block) (closeCb : CloseCallback) :
    (heap.markClosing id block closeCb).fresh = heap.fresh := rfl

/-- or in `uv__finish_close`, -/
@[simp] theorem markClosed_fresh (block : Block) :
    (heap.markClosed id block).fresh = heap.fresh := rfl

/-- which records nothing itself. -/
@[simp] theorem markClosed_events (block : Block) :
    (heap.markClosed id block).events = heap.events := rfl

/-- `uv_close` puts the handle before those that wait for their close callback. -/
@[simp] theorem markClosing_closingHandles (block : Block) (closeCb : CloseCallback) :
    (heap.markClosing id block closeCb).closingHandles = id :: heap.closingHandles := rfl

/-- Only `uv__finish_close` takes the handle out of the queue of the loop, -/
@[simp] theorem markClosed_queue (block : Block) :
    (heap.markClosed id block).queue = heap.queue.filter (· ≠ id) := rfl

/-- and off the list. -/
@[simp] theorem markClosed_closingHandles (block : Block) :
    (heap.markClosed id block).closingHandles = heap.closingHandles.filter (· ≠ id) := rfl

end Lookup

section Access

variable {heap : Heap} {id : HandleId} {block : Block} {self : Pointer} {wrapper : Wrapper}

/-- Accesses to present objects succeed. -/
theorem deref_ok (allocated : heap.blocks id = some block) : heap.deref id = .ok block := by
  simp only [deref, allocated]

/-- A wrapper that is there is found. -/
theorem wrapper_ok (live : heap.wrappers self = some wrapper) :
    heap.wrapper self = .ok wrapper := by
  simp only [Heap.wrapper, live]

/-- The data pointer of a block that is there is written without a fault. -/
theorem setData_ok (allocated : heap.blocks id = some block) (data : Word) :
    heap.setData id data = .ok (heap.setBlock id { block with data := data }) := by
  simp only [setData, deref_ok allocated]
  rfl

/-- A handle of a block that is there tells whether it is closing. -/
theorem uvIsClosing_ok (allocated : heap.blocks id = some block) :
    heap.uvIsClosing id = .ok (decide (block.phase ≠ .opened)) := by
  simp only [uvIsClosing, deref_ok allocated]
  rfl

/-- `uv_close` of a handle that is open fails no assertion. -/
theorem uvClose_ok (allocated : heap.blocks id = some block) (opened : block.phase = .opened)
    (closeCb : CloseCallback) :
    heap.uvClose id closeCb = .ok (heap.markClosing id block closeCb) := by
  have notClosing : ¬ block.phase ≠ .opened := not_not.mpr opened
  simp only [uvClose, deref_ok allocated, bind, Except.bind, if_neg notClosing]
  rfl

/-- `uv__finish_close` of a block that is there is no use behind its end. -/
theorem uvFinishClose_ok (allocated : heap.blocks id = some block) :
    heap.uvFinishClose id = .ok (heap.markClosed id block) := by
  simp only [uvFinishClose, deref_ok allocated]
  rfl

/-- The pool takes back a block that it has given out. -/
theorem poolFree_ok (allocated : heap.blocks id = some block) (pooled : block.pooled = true) :
    heap.poolFree id = .ok (heap.free id) := by
  simp only [poolFree, allocated, pooled, if_true]

end Access

end Heap

end MoeUV
