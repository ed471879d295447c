import MoeUV.Handle.Holding

/-!
# Child processes

A `SubProcess` is a wrapper with four more members. Its moves hand over the
handle first and then these members, and leave the source as a process that has
ended. The loop reaps a child whose handle has not been closed, stops the handle
and calls the exit callback that `uv_spawn` found in its options, if any.

Each exit is recorded with what was reported and with the callback registered at
that moment, as far as a wrapper owned the handle; and so is each call of such a
callback. No operation reads these.
-/

namespace MoeUV

open Foundation.Execution

variable {Callback : Type}

/-- The functions that may stand in `exit_cb`. -/
inductive ExitCallback where
  | onUVProcessExit
deriving DecidableEq

/-- The part of `uv_process_options_t` that matters after the child has started. -/
structure ProcessOptions where
  exitCb : Option ExitCallback

/-- The options that `Spawn` fills in: cleared by `memset`, and then assigned
everywhere else. -/
def spawnOptions : ProcessOptions where
  exitCb := none

/-- The members of a `SubProcess`. -/
structure SubProcess (Callback : Type) where
  running : Bool
  exitStatus : BitVec 64
  termSignal : BitVec 32
  onExit : Option Callback

/-- A `SubProcess` that was just constructed around a handle. -/
def SubProcess.started : SubProcess Callback := ⟨true, 0, 0, none⟩

/-- What a move leaves of its source. -/
def SubProcess.movedFrom : SubProcess Callback := ⟨false, 0, 0, none⟩

/-- An exit that the loop handled. -/
structure Exit (Callback : Type) where
  status : BitVec 64
  signal : BitVec 32
  registered : Option Callback

/-- A call of a registered callback. -/
structure ExitCall (Callback : Type) where
  handle : HandleId
  callback : Callback
  status : BitVec 64
  signal : BitVec 32

structure Children (Callback : Type) where
  heap : Heap
  processes : Pointer → SubProcess Callback
  /-- `loop->process_handles` -/
  processHandles : List HandleId
  exitCb : HandleId → Option ExitCallback
  exits : HandleId → Option (Exit Callback)
  calls : List (ExitCall Callback)

namespace Children

def initial : Children Callback where
  heap := Heap.loopInit
  processes _ := .movedFrom
  processHandles := []
  exitCb _ := none
  exits _ := none
  calls := []

variable (children : Children Callback)

def setProcess (self : Pointer) (process : SubProcess Callback) : Children Callback :=
  { children with processes := Function.update children.processes self process }

/-- The calls for one handle, in order. -/
def callsOf (id : HandleId) : List (ExitCall Callback) :=
  children.calls.filter fun call => call.handle = id

/-- `Spawn`, when `uv_spawn` succeeds. -/
def spawn (self : Pointer) : Except Fault (Children Callback) := do
  let id := children.heap.fresh
  let heap ← children.heap.construct self true
  pure { children.setProcess self .started with
    heap := heap
    processHandles := children.processHandles ++ [id]
    exitCb := Function.update children.exitCb id spawnOptions.exitCb }

/-- The assignments with which both moves end. A moved `std::function` is taken to
be empty. -/
def moveProcess (self org : Pointer) : Children Callback :=
  (children.setProcess self (children.processes org)).setProcess org .movedFrom

/-- `SubProcess(SubProcess&&)`. -/
def moveConstruct (self org : Pointer) : Except Fault (Children Callback) := do
  let heap ← children.heap.moveConstruct self org
  pure { children.moveProcess self org with heap := heap }

/-- `operator=(SubProcess&&)`. -/
def moveAssign (self org : Pointer) : Except Fault (Children Callback) := do
  let heap ← children.heap.moveAssign self org
  pure { children.moveProcess self org with heap := heap }

/-- `SetOnExitCallback`. -/
def setOnExitCallback (self : Pointer) (callback : Option Callback) : Children Callback :=
  children.setProcess self { children.processes self with onExit := callback }

/-- `OnExit`. -/
def onExit (self : Pointer) (id : HandleId) (status : BitVec 64) (signal : BitVec 32) :
    Children Callback :=
  match (children.processes self).onExit with
  | none => children
  | some callback => { children with calls := children.calls ++ [⟨id, callback, status, signal⟩] }

/-- `OnUVProcessExit`. -/
def onUVProcessExit (id : HandleId) (status : BitVec 64) (signal : BitVec 32) :
    Except Fault (Children Callback) := do
  match ← children.heap.getSelf id with
  | none => pure children
  | some self => pure (children.onExit self id status signal)

/-- The loop handles the exit of one child. -/
def uvHandleExit (id : HandleId) (status : BitVec 64) (signal : BitVec 32) :
    Except Fault (Children Callback) := do
  let owner ← children.heap.getSelf id
  let heap ← children.heap.uvSetActive id false
  let exit := owner.map fun self => ⟨status, signal, (children.processes self).onExit⟩
  let children := { children with
    heap := heap
    processHandles := children.processHandles.filter (· ≠ id)
    exits := Function.update children.exits id exit }
  match children.exitCb id with
  | none => pure children
  | some .onUVProcessExit => children.onUVProcessExit id status signal

end Children

/-- The steps of the program and of the loop. -/
inductive ChildAction (Callback : Type) where
  | spawn (self : Pointer)
  | moveConstruct (self org : Pointer)
  | moveAssign (self org : Pointer)
  | setOnExitCallback (self : Pointer) (callback : Option Callback)
  | operate (action : Action)
  | exit (id : HandleId) (status : BitVec 64) (signal : BitVec 32)

def ChildAction.run (children : Children Callback) :
    ChildAction Callback → Except Fault (Children Callback)
  | .spawn self => children.spawn self
  | .moveConstruct self org => children.moveConstruct self org
  | .moveAssign self org => children.moveAssign self org
  | .setOnExitCallback self callback => pure (children.setOnExitCallback self callback)
  | .operate action => do
    let heap ← action.run children.heap
    pure { children with heap := heap }
  | .exit id status signal => children.uvHandleExit id status signal

/-- The operations that a `SubProcess` has from `AsyncHandle`, and those of the
loop. -/
def Action.Inherited : Action → Prop
  | .construct _ _ | .moveConstruct _ _ | .moveAssign _ _ => False
  | _ => True

instance Action.decidableInherited : (action : Action) → Decidable action.Inherited
  | .construct _ _ | .moveConstruct _ _ | .moveAssign _ _ => inferInstanceAs (Decidable False)
  | .close _ | .destroy _ | .ref _ | .unref _ | .forceCloseAllHandle | .deliverClose _
  | .setActive _ _ | .foreignInit _ _ => inferInstanceAs (Decidable True)

/-- The loop only handles the exits of handles that were not closed. -/
def ChildAction.Enabled (children : Children Callback) : ChildAction Callback → Prop
  | .spawn self => children.heap.wrappers self = none
  | .moveConstruct self org => handleSystem.enabled children.heap (.moveConstruct self org)
  | .moveAssign self org => handleSystem.enabled children.heap (.moveAssign self org)
  | .setOnExitCallback self _ => (children.heap.wrappers self).isSome = true
  | .operate action => action.Inherited ∧ handleSystem.enabled children.heap action
  | .exit id _ _ => id ∈ children.processHandles ∧
      (children.heap.blocks id).map Block.phase = some .opened

def childSystem : System (Children Callback) (ChildAction Callback) Fault where
  enabled children action := action.Enabled children
  step children action := action.run children

instance (children : Children Callback) : (action : ChildAction Callback) →
    Decidable (childSystem.enabled children action)
  | .spawn self => inferInstanceAs (Decidable (children.heap.wrappers self = none))
  | .moveConstruct self org =>
    inferInstanceAs (Decidable (handleSystem.enabled children.heap (.moveConstruct self org)))
  | .moveAssign self org =>
    inferInstanceAs (Decidable (handleSystem.enabled children.heap (.moveAssign self org)))
  | .setOnExitCallback self _ =>
    inferInstanceAs (Decidable ((children.heap.wrappers self).isSome = true))
  | .operate action => inferInstanceAs
      (Decidable (action.Inherited ∧ handleSystem.enabled children.heap action))
  | .exit id _ _ => inferInstanceAs (Decidable (id ∈ children.processHandles ∧
      (children.heap.blocks id).map Block.phase = some .opened))

/-- The loop handles the exit of a child. -/
def ChildAction.Exits : ChildAction Callback → Prop
  | .exit _ _ _ => True
  | _ => False

end MoeUV
