import MoeUV.Foundation.Execution
import Mathlib.Data.List.Nodup
import Mathlib.Logic.Function.Basic

/-!
# Notifications from other threads

`AsyncNotifier` lets any thread call a callback on the thread of a loop. A sending thread
sets the `pending` flag of the handle, and if it was the one that set it, writes to a
descriptor that the loop polls. The loop reads the descriptor empty and then goes through
all handles and clears their flags.

A step of a sending thread takes it from one access of the shared memory or of the
descriptor to the next. The thread of a loop may send too, from its callbacks; such a
call is one more sending thread.
-/

namespace MoeUV

/-- The descriptor of `async_io_watcher`, and what may be read from it. -/
inductive AsyncFd where
  /-- An event descriptor with its counter. A write fails beyond its maximum. -/
  | eventfd (counter maximum : Nat)
  /-- The pipe that is used without event descriptors. -/
  | pipe (bytes capacity : Nat)
deriving DecidableEq

namespace AsyncFd

/-- The descriptor that `uv__async_eventfd` opens. -/
def newEventfd : AsyncFd := .eventfd 0 18446744073709551614

/-- The descriptor is readable. -/
def readable : AsyncFd → Bool
  | .eventfd counter _ => decide (0 < counter)
  | .pipe bytes _ => decide (0 < bytes)

/-- `write` of `uv__async_send`, which returns also when it finds no room. -/
def write : AsyncFd → AsyncFd
  | .eventfd counter maximum =>
    if counter < maximum then .eventfd (counter + 1) maximum else .eventfd counter maximum
  | .pipe bytes capacity =>
    if bytes < capacity then .pipe (bytes + 1) capacity else .pipe bytes capacity

/-- `read` into a buffer of 1024 bytes, and whether the buffer is full. -/
def read : AsyncFd → Bool × AsyncFd
  | .eventfd _ maximum => (false, .eventfd 0 maximum)
  | .pipe bytes capacity =>
    if 1024 ≤ bytes then (true, .pipe (bytes - 1024) capacity) else (false, .pipe 0 capacity)

/-- There is room for one write when nothing has been written. -/
def Roomy : AsyncFd → Prop
  | .eventfd _ maximum => 0 < maximum
  | .pipe _ capacity => 0 < capacity

end AsyncFd

/-- The parts of `uv_async_t` that sending uses, with the handle's state of life. -/
structure UvAsync where
  pending : Bool
  /-- `async_cb` is not null. -/
  asyncCb : Bool
  /-- Between `uv_async_init` and `uv__async_close`. -/
  opened : Bool

/-- Where a thread is in `uv_async_send`, with the number of callbacks that the handle had
had when the call began. -/
inductive SendPlace (ν : Type) where
  | returned
  /-- Behind the first read of `pending`. -/
  | cmpxchg (handle : ν) (before : Nat)
  /-- In `uv__async_send`. -/
  | write (handle : ν) (before : Nat)
deriving DecidableEq

/-- The handle that a thread is sending to. -/
def SendPlace.target {ν : Type} : SendPlace ν → Option ν
  | .returned => none
  | .cmpxchg handle _ | .write handle _ => some handle

inductive AsyncPlace where
  /-- Outside of `uv__async_io`. -/
  | poll
  /-- In its first loop. -/
  | read
  /-- In its second loop, or in a callback. -/
  | visit
deriving DecidableEq

structure AsyncLoop (τ ν : Type) where
  fd : AsyncFd
  handle : ν → UvAsync
  asyncHandles : List ν
  /-- The local variable `queue` of `uv__async_io`. -/
  queue : List ν
  place : AsyncPlace
  sender : τ → SendPlace ν
  /-- How many calls of `uv_async_send` there were for the handle. -/
  sends : ν → Nat
  /-- How many callbacks the handle has had. -/
  calls : ν → Nat
  /-- The number of the callback that the calls which have returned ask for. -/
  asked : ν → Nat

inductive AsyncAction (τ ν : Type) where
  | init (handle : ν) (asyncCb : Bool)
  | close (handle : ν)
  | send (thread : τ) (handle : ν)
  /-- The sending thread goes on. A write may be interrupted. -/
  | go (thread : τ) (interrupted : Bool)
  /-- The loop finds the descriptor readable. -/
  | io
  /-- The loop goes on in `uv__async_io`. A read may be interrupted. -/
  | pass (interrupted : Bool)

namespace AsyncLoop

variable {τ ν : Type} [DecidableEq τ] [DecidableEq ν] (loop : AsyncLoop τ ν)

/-- The descriptor has been opened, and there is no handle. -/
def initial (fd : AsyncFd) (memory : ν → Bool × Bool) : AsyncLoop τ ν where
  fd := fd
  handle := fun handle => ⟨(memory handle).1, (memory handle).2, false⟩
  asyncHandles := []
  queue := []
  place := .poll
  sender := fun _ => .returned
  sends := fun _ => 0
  calls := fun _ => 0
  asked := fun _ => 0

def setHandle (handle : ν) (fields : UvAsync) : AsyncLoop τ ν :=
  { loop with handle := Function.update loop.handle handle fields }

def setPending (handle : ν) (pending : Bool) : AsyncLoop τ ν :=
  loop.setHandle handle { loop.handle handle with pending := pending }

def setSender (thread : τ) (place : SendPlace ν) : AsyncLoop τ ν :=
  { loop with sender := Function.update loop.sender thread place }

/-- `uv_async_init`, with the descriptor opened. -/
def uvAsyncInit (handle : ν) (asyncCb : Bool) : AsyncLoop τ ν :=
  { loop.setHandle handle ⟨false, asyncCb, true⟩ with
    asyncHandles := loop.asyncHandles ++ [handle]
    sends := Function.update loop.sends handle 0
    calls := Function.update loop.calls handle 0
    asked := Function.update loop.asked handle 0 }

/-- `uv__async_close`: the handle is in one of the two lists. -/
def uvAsyncClose (handle : ν) : AsyncLoop τ ν :=
  { loop.setHandle handle { loop.handle handle with opened := false } with
    asyncHandles := loop.asyncHandles.filter (· ≠ handle)
    queue := loop.queue.filter (· ≠ handle) }

/-- `uv_async_send` returns. -/
def returnSend (thread : τ) (handle : ν) (before : Nat) : AsyncLoop τ ν :=
  { loop.setSender thread .returned with
    asked := Function.update loop.asked handle (max (loop.asked handle) (before + 1)) }

/-- `uv_async_send` up to its first access of `pending`. -/
def uvAsyncSend (thread : τ) (handle : ν) : AsyncLoop τ ν :=
  let loop := { loop with sends := Function.update loop.sends handle (loop.sends handle + 1) }
  if (loop.handle handle).pending then loop.returnSend thread handle (loop.calls handle)
  else loop.setSender thread (.cmpxchg handle (loop.calls handle))

def sendStep (thread : τ) (interrupted : Bool) : AsyncLoop τ ν :=
  match loop.sender thread with
  | .returned => loop
  | .cmpxchg handle before =>
    if (loop.handle handle).pending then loop.returnSend thread handle before
    else (loop.setPending handle true).setSender thread (.write handle before)
  | .write handle before =>
    if interrupted then loop
    else { loop.returnSend thread handle before with fd := loop.fd.write }

/-- `uv__async_io` -/
def asyncIo (interrupted : Bool) : AsyncLoop τ ν :=
  match loop.place with
  | .poll => loop
  | .read =>
    if interrupted then loop
    else
      let (full, fd) := loop.fd.read
      if full then { loop with fd := fd }
      else { loop with fd := fd, queue := loop.asyncHandles, asyncHandles := [], place := .visit }
  | .visit =>
    match loop.queue with
    | [] => { loop with place := .poll }
    | handle :: rest =>
      let loop := { loop with queue := rest, asyncHandles := loop.asyncHandles ++ [handle] }
      if (loop.handle handle).pending = false then loop
      else
        let loop := loop.setPending handle false
        if (loop.handle handle).asyncCb = false then loop
        else { loop with calls := Function.update loop.calls handle (loop.calls handle + 1) }

def act : AsyncAction τ ν → AsyncLoop τ ν
  | .init handle asyncCb => loop.uvAsyncInit handle asyncCb
  | .close handle => loop.uvAsyncClose handle
  | .send thread handle => loop.uvAsyncSend thread handle
  | .go thread interrupted => loop.sendStep thread interrupted
  | .io => { loop with place := .read }
  | .pass interrupted => loop.asyncIo interrupted

/-- Nobody sends to a handle that is not open, and it stays open while somebody does.
Handles are opened and closed on the thread of the loop. -/
def Permits : AsyncAction τ ν → Prop
  | .init handle _ => (loop.handle handle).opened = false ∧ loop.place ≠ .read
  | .close handle => (loop.handle handle).opened = true ∧ loop.place ≠ .read ∧
      ∀ thread, (loop.sender thread).target ≠ some handle
  | .send thread handle => loop.sender thread = .returned ∧ (loop.handle handle).opened = true
  | .go thread _ => loop.sender thread ≠ .returned
  | .io => loop.place = .poll ∧ loop.fd.readable = true
  | .pass _ => loop.place ≠ .poll

end AsyncLoop

def asyncSystem (τ ν : Type) [DecidableEq τ] [DecidableEq ν] :
    Foundation.Execution.System (AsyncLoop τ ν) (AsyncAction τ ν) Empty where
  enabled := AsyncLoop.Permits
  step loop action := .ok (loop.act action)

end MoeUV
