import MoeUV.Handle.Heap

/-!
# The wrapper operations

The members of `AsyncHandle` and the walker of the run loop, one assignment after
the other. `Close` is never overridden, so its virtual calls reach the one
defined here. The close callback ends with the user's `OnClose`; what that does
is a sequence of further operations and is not part of the callback itself.

`UniquePooledObject` moves and releases like a unique pointer. Its assignment in
`operator=` always meets an empty destination, since the branch before it
releases the pointer.
-/

namespace MoeUV

namespace Heap

variable (heap : Heap)

/-- `IsClosing`. -/
def isClosing (wrapper : Wrapper) : Except Fault Bool :=
  match wrapper.handle with
  | none => .ok true
  | some id => if wrapper.handleClosed then .ok true else heap.uvIsClosing id

/-- `Close`; false when the close is already under way. -/
def close (self : Pointer) : Except Fault (Bool × Heap) := do
  let wrapper ← heap.wrapper self
  if ← heap.isClosing wrapper then pure (false, heap)
  else
    match wrapper.handle with
    | none => throw .nullHandle
    | some id => do
      let closed ← heap.uvClose id .onUVClose
      pure (true, closed)

/-- `AsyncHandle(UniquePooledObject<uv_handle_s>&&)` with a non-null handle. -/
def wrap (self : Pointer) (id : HandleId) : Except Fault Heap := do
  let heap ← heap.setData id (handleToData self)
  pure (heap.setWrapper self ⟨some id, false⟩)

/-- `AsyncHandle(AsyncHandle&&)`. -/
def moveConstruct (self org : Pointer) : Except Fault Heap := do
  let source ← heap.wrapper org
  let heap := heap.setWrapper self source
  let heap := heap.setWrapper org ⟨none, true⟩
  match source.handle with
  | none => pure heap
  | some id => heap.setData id (handleToData self)

/-- `~AsyncHandle`. -/
def destroy (self : Pointer) : Except Fault Heap := do
  let wrapper ← heap.wrapper self
  if wrapper.handleClosed = false then
    let (_, heap) ← heap.close self
    match wrapper.handle with
    | none => throw .nullHandle
    | some id => do
      let heap ← heap.setData id 0
      pure (heap.dropWrapper self)
  else
    match wrapper.handle with
    | none => pure (heap.dropWrapper self)
    | some id => (heap.dropWrapper self).poolFree id

/-- The first branch of `operator=`: the handle that is about to be replaced is
closed and released. -/
def release (self : Pointer) : Except Fault Heap := do
  let wrapper ← heap.wrapper self
  match wrapper.handle with
  | none => pure heap
  | some id => do
    let (_, heap) ← heap.close self
    let heap ← heap.setData id 0
    pure (heap.setWrapper self { wrapper with handle := none })

/-- The rest of `operator=`, which takes over what the other wrapper has. -/
def takeOver (self org : Pointer) : Except Fault Heap := do
  let moved ← heap.wrapper org
  let target ← heap.wrapper self
  let heap := heap.setWrapper self { target with handle := moved.handle }
  let source ← heap.wrapper org
  let heap := heap.setWrapper org { source with handle := none }
  let source ← heap.wrapper org
  let target ← heap.wrapper self
  let heap := heap.setWrapper self { target with handleClosed := source.handleClosed }
  let source ← heap.wrapper org
  let heap := heap.setWrapper org { source with handleClosed := true }
  let target ← heap.wrapper self
  match target.handle with
  | none => pure heap
  | some id => heap.setData id (handleToData self)

/-- `operator=(AsyncHandle&&)`; `self` and `org` may be the same object. -/
def moveAssign (self org : Pointer) : Except Fault Heap := do
  let heap ← heap.release self
  heap.takeOver self org

/-- `Ref` and `Unref`, which differ in the flag they leave. -/
def setReferenced (self : Pointer) (referenced : Bool) : Except Fault Heap := do
  let wrapper ← heap.wrapper self
  if wrapper.handleClosed then pure heap
  else
    match wrapper.handle with
    | none => throw .nullHandle
    | some id => heap.uvSetReferenced id referenced

def ref (self : Pointer) : Except Fault Heap := heap.setReferenced self true

def unref (self : Pointer) : Except Fault Heap := heap.setReferenced self false

/-- `GetSelf`, by which the callbacks of libuv find the wrapper of a handle. -/
def getSelf (id : HandleId) : Except Fault (Option Pointer) := do
  let block ← heap.deref id
  pure (dataToHandle block.data)

/-- `OnUVClose` up to the call of `OnClose`. -/
def onUVClose (id : HandleId) : Except Fault Heap := do
  let heap := heap.record (.closeCallback id)
  let block ← heap.deref id
  match dataToHandle block.data with
  | none => heap.poolFree id
  | some self => do
    let wrapper ← heap.wrapper self
    pure (heap.setWrapper self { wrapper with handleClosed := true })

/-- libuv finishes one close and calls the close callback, if there is one. -/
def deliverClose (id : HandleId) : Except Fault Heap := do
  let heap ← heap.uvFinishClose id
  let block ← heap.deref id
  match block.closeCb with
  | .null => pure heap
  | .onUVClose => heap.onUVClose id

/-- `UVClosingHandleWalker`. -/
def uvClosingHandleWalker (id : HandleId) : Except Fault Heap := do
  if ← heap.uvIsClosing id then pure heap
  else
    let block ← heap.deref id
    if (dataToHandle block.data).isSome then heap.uvClose id .onUVClose
    else heap.uvClose id .null

/-- One handle of `uv_walk`, which skips internal handles. -/
def uvWalkHandle (id : HandleId) : Except Fault Heap := do
  let block ← heap.deref id
  if block.internal then pure heap else heap.uvClosingHandleWalker id

/-- `ForceCloseAllHandle`: `uv_walk` takes the queue as it is at the call and
leaves it in the same order. -/
def forceCloseAllHandle : Except Fault Heap := heap.queue.foldlM uvWalkHandle heap

/-- A wrapper class builds itself around a handle it has just initialised. -/
def construct (self : Pointer) (active : Bool) : Except Fault Heap := do
  let (id, heap) := heap.alloc
  let heap ← heap.uvHandleInit id active
  heap.wrap self id

end Heap

end MoeUV
