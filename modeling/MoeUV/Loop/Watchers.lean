import MoeUV.Failure
import MoeUV.Foundation.Execution
import MoeUV.Loop.HandleFlags
import MoeUV.Loop.Queue

/-!
# Prepare, check and idle handles

In each iteration the loop calls all prepare handles, all check handles and all idle
handles that are active. It moves them to a queue of its own first and takes them from
there one by one, so that callbacks may start and stop any handle meanwhile.
-/

namespace MoeUV

open Foundation.Execution Foundation.Rings

/-- `EventHandle::EventType`, and the name that the functions are defined for. -/
inductive WatcherKind where
  | prepare
  | check
  | idle
deriving DecidableEq

/-- What a `QUEUE*` points at: one of the lists of the loop, the local variable of the
function that runs one of them, or the links of a handle. -/
inductive QueueAddress (ν : Type) where
  | handles (kind : WatcherKind)
  | queue
  | handle (handle : ν)
deriving DecidableEq

/-- A pointer into a structure that is not a handle. -/
inductive QueueFault where
  | notHandle
deriving DecidableEq

/-- `uv_prepare_t`, `uv_check_t` and `uv_idle_t` without their links. -/
structure UvWatcher where
  flags : HandleFlags
  /-- The callback is set. -/
  cb : Bool

/-- The parts of `uv_loop_t` that these handles use, and the handles in memory. -/
structure WatcherLoop (ν : Type) where
  links : Links (QueueAddress ν)
  watcher : ν → UvWatcher
  activeHandles : BitVec 32

namespace WatcherLoop

variable {ν : Type} [DecidableEq ν] (kind : ν → WatcherKind) (loop : WatcherLoop ν) (handle : ν)

def setLinks (links : Links (QueueAddress ν)) : WatcherLoop ν := { loop with links := links }

def setWatcher (watcher : UvWatcher) : WatcherLoop ν :=
  { loop with watcher := Function.update loop.watcher handle watcher }

/-- The result of one of the macros on the flags of a handle. -/
def setFlags (result : HandleFlags × BitVec 32) : WatcherLoop ν :=
  { loop.setWatcher handle { loop.watcher handle with flags := result.1 } with
    activeHandles := result.2 }

/-- `uv_prepare_start`, `uv_check_start` or `uv_idle_start` -/
def uvStart (cb : Bool) : Int × WatcherLoop ν :=
  if (loop.watcher handle).flags.active then (0, loop)
  else if cb = false then (UV_EINVAL, loop)
  else
    let loop := loop.setLinks
      (queueInsertHead loop.links (.handles (kind handle)) (.handle handle))
    let loop := loop.setWatcher handle { loop.watcher handle with cb := cb }
    (0, loop.setFlags handle ((loop.watcher handle).flags.start loop.activeHandles))

/-- `uv_prepare_stop`, `uv_check_stop` or `uv_idle_stop`, which return zero. -/
def uvStop : WatcherLoop ν :=
  if (loop.watcher handle).flags.active = false then loop
  else
    let loop := loop.setLinks (queueRemove loop.links (.handle handle))
    loop.setFlags handle ((loop.watcher handle).flags.stop loop.activeHandles)

/-- `uv_close` of such a handle, up to the list of closing handles. -/
def uvWatcherClose : WatcherLoop ν :=
  let watcher := loop.watcher handle
  (loop.setWatcher handle { watcher with flags := { watcher.flags with closing := true } }).uvStop
    handle

/-- `uv__finish_close` of such a handle, up to the queue of all handles. -/
def uvFinishClose : WatcherLoop ν :=
  let flags := { (loop.watcher handle).flags with closed := true }
  loop.setFlags handle (flags.unreference loop.activeHandles)

/-- The first line of `uv__run_prepare`, `uv__run_check` or `uv__run_idle`. -/
def uvRunBegin (kind : WatcherKind) : WatcherLoop ν :=
  loop.setLinks (queueMove loop.links (.handles kind) .queue)

/-- One pass of its loop up to the call of the callback, or nothing when the loop is
left. -/
def uvRunPass (kind : WatcherKind) : Except QueueFault (Option ν × WatcherLoop ν) :=
  if queueEmpty loop.links .queue then pure (none, loop)
  else
    match queueHead loop.links .queue with
    | .handle handle =>
      let loop := loop.setLinks (queueRemove loop.links (.handle handle))
      let loop := loop.setLinks (queueInsertTail loop.links (.handles kind) (.handle handle))
      pure (some handle, loop)
    | .handles _ | .queue => throw .notHandle

/-- `EventHandle::Start` -/
def start : Outcome × WatcherLoop ν :=
  if (loop.watcher handle).flags.isClosing then
    (.threw (.invalidCall "Handle is already disposed"), loop)
  else
    let result := loop.uvStart kind handle true
    if result.1 < 0 then (.threw (uvThrow result.1), result.2) else (.returned, result.2)

/-- `EventHandle::Stop`, and whether it returned true. -/
def stop : Bool × WatcherLoop ν :=
  if (loop.watcher handle).flags.isClosing then (false, loop) else (true, loop.uvStop handle)

/-- `AsyncHandle::Close` of such a handle. -/
def close : WatcherLoop ν :=
  if (loop.watcher handle).flags.isClosing then loop else loop.uvWatcherClose handle

/-- `AsyncHandle::Ref` -/
def ref : WatcherLoop ν :=
  if (loop.watcher handle).flags.closed then loop
  else loop.setFlags handle ((loop.watcher handle).flags.reference loop.activeHandles)

/-- `AsyncHandle::Unref` -/
def unref : WatcherLoop ν :=
  if (loop.watcher handle).flags.closed then loop
  else loop.setFlags handle ((loop.watcher handle).flags.unreference loop.activeHandles)

end WatcherLoop

end MoeUV
