import MoeUV.Failure
import MoeUV.Handle.Safety

/-!
# The run loop and its destructor

While the loop runs, it calls back into the program: timers and sockets before
the closing handles are finished, cancelled requests and `OnClose` while they
are, timers again afterwards. What such a callback does to the loop is a list of
activities. A callback takes those of its steps that are permitted when it comes
to them, so every list stands for some well-behaved callback. New handles are
not among the activities.

The destructor closes all handles and runs the loop until nothing keeps it
alive, which may take any number of turns. What happens during each turn is
given with the turn.
-/

namespace MoeUV

/-- The state of a run loop that its destructor depends on. -/
structure RunLoop where
  heap : Heap
  /-- The number of active requests. -/
  requests : Nat
  stop : Bool
  /-- `uv_now`, in milliseconds. -/
  time : BitVec 64
  /-- `m_pHandle` is set; otherwise this is libuv's default loop. -/
  owned : Bool

/-- The steps of the callbacks while the loop runs. -/
inductive Activity where
  | operate (action : Action)
  | stop
  | submit
  | complete

/-- Callbacks create no handles and leave the delivery of closes to libuv. -/
def Activity.Permitted (loop : RunLoop) : Activity → Prop
  | .operate action => action.Quiet ∧ action.Enabled loop.heap
  | .stop | .submit => True
  | .complete => 0 < loop.requests

instance Action.decidableQuiet : (action : Action) → Decidable action.Quiet
  | .construct _ _ | .deliverClose _ | .foreignInit _ _ => inferInstanceAs (Decidable False)
  | .moveConstruct _ _ | .moveAssign _ _ | .close _ | .destroy _ | .ref _ | .unref _
  | .forceCloseAllHandle | .setActive _ _ => inferInstanceAs (Decidable True)

instance Action.decidableEnabled (heap : Heap) (action : Action) :
    Decidable (action.Enabled heap) :=
  inferInstanceAs (Decidable (handleSystem.enabled heap action))

instance Activity.decidablePermitted (loop : RunLoop) :
    (activity : Activity) → Decidable (activity.Permitted loop)
  | .operate action => inferInstanceAs (Decidable (action.Quiet ∧ action.Enabled loop.heap))
  | .stop | .submit => inferInstanceAs (Decidable True)
  | .complete => inferInstanceAs (Decidable (0 < loop.requests))

def Activity.run (loop : RunLoop) : Activity → Except Fault RunLoop
  | .operate action => do
    let heap ← action.run loop.heap
    pure { loop with heap := heap }
  | .stop => pure { loop with stop := true }
  | .submit => pure { loop with requests := loop.requests + 1 }
  | .complete => pure { loop with requests := loop.requests - 1 }

/-- What happens during one turn of the loop, and the time at its end. -/
structure Turn where
  before : List Activity
  /-- The callbacks of the requests that the close of a handle cancels. -/
  cancelled : HandleId → List Activity
  onClose : HandleId → List Activity
  after : List Activity
  time : BitVec 64

/-- How the destructor's loop was left. -/
inductive Departure where
  | idle
  | timeout
deriving DecidableEq

inductive Ending where
  | destroyed
  | terminated
deriving DecidableEq

/-- `kMaxLoopTimeout` -/
def kMaxLoopTimeout : BitVec 64 := 5000

/-- Whether a queued handle has the flag `UV_HANDLE_INTERNAL`. -/
def Heap.uvIsInternal (heap : Heap) (id : HandleId) : Except Fault Bool := do
  let block ← heap.deref id
  pure block.internal

namespace RunLoop

variable (loop : RunLoop)

/-- `uv_loop_alive`. -/
def uvLoopAlive : Bool :=
  loop.heap.queue.any (fun id => (loop.heap.blocks id).any fun block =>
    block.active && block.referenced) ||
  decide (loop.requests ≠ 0) || decide (loop.heap.closingHandles ≠ [])

/-- One step of a callback, if it is permitted. -/
def perform (activity : Activity) : Except Fault RunLoop :=
  if activity.Permitted loop then activity.run loop else pure loop

/-- The callbacks take their steps one after the other. -/
def performAll (activities : List Activity) : Except Fault RunLoop :=
  activities.foldlM perform loop

/-- `uv__finish_close` with the callbacks it calls. -/
def finishClose (turn : Turn) (loop : RunLoop) (id : HandleId) : Except Fault RunLoop := do
  let loop ← loop.performAll (turn.cancelled id)
  let heap ← loop.heap.deliverClose id
  { loop with heap := heap }.performAll (turn.onClose id)

/-- `uv__run_closing_handles` takes the list as it is at the call. -/
def runClosingHandles (turn : Turn) : Except Fault RunLoop :=
  loop.heap.closingHandles.foldlM (finishClose turn) loop

/-- `uv_run` with `UV_RUN_ONCE`. -/
def uvRunOnce (turn : Turn) : Except Fault RunLoop :=
  if loop.uvLoopAlive = false then pure { loop with time := turn.time, stop := false }
  else if loop.stop then pure { loop with stop := false }
  else do
    let loop ← loop.performAll turn.before
    let loop ← loop.runClosingHandles turn
    let loop ← loop.performAll turn.after
    pure { loop with time := turn.time, stop := false }

/-- `uv_loop_close`, which fails while a request or a handle that is not internal
is left. -/
def uvLoopClose : Except Fault Int :=
  if loop.requests ≠ 0 then pure UV_EBUSY
  else do
    if ← loop.heap.queue.allM loop.heap.uvIsInternal then pure 0 else pure UV_EBUSY

/-- `while (::uv_loop_alive(GetHandle()))` of `~RunLoop`, for as many turns as are
given. -/
def drain (start : BitVec 64) (loop : RunLoop) :
    List Turn → Except Fault (Option (Departure × RunLoop))
  | [] => pure (if loop.uvLoopAlive then none else some (.idle, loop))
  | turn :: turns =>
    if loop.uvLoopAlive then do
      let heap ← loop.heap.forceCloseAllHandle
      let loop ← { loop with heap := heap }.uvRunOnce turn
      if kMaxLoopTimeout < loop.time - start then pure (some (.timeout, loop))
      else drain start loop turns
    else pure (some (.idle, loop))

/-- `~RunLoop`; nothing if it is still waiting after these turns. -/
def destruct (turns : List Turn) : Except Fault (Option (Departure × RunLoop × Ending)) := do
  match ← loop.drain loop.time turns with
  | none => pure none
  | some (departure, loop) =>
    if loop.owned then do
      let ret ← loop.uvLoopClose
      pure (some (departure, loop, if ret ≠ 0 then .terminated else .destroyed))
    else pure (some (departure, loop, .destroyed))

end RunLoop

end MoeUV
