import MoeUV.Foundation.Execution
import Mathlib.Data.Fintype.Basic
import Mathlib.Data.List.Sort
import Mathlib.Logic.Function.Basic
import Mathlib.Order.Defs.LinearOrder

/-!
# The delivery of signals

A signal arrives on any thread at any time. The signal handler of libuv takes a lock that
all loops share, goes through all handles that watch the signal, in whichever loop, and
writes a message to the pipe of the loop for each. A loop reads its pipe and calls the
callbacks. A message names the handle by its address, so a handle that is closed while a
message for it is on the way has its close callback only when the message has been read.

A step of the signal handler takes it from one access of shared memory to the next. What
the other functions do under the lock is one step, and so is what the thread of a loop does
from one callback to the next. The fields of a handle that its signal handler does not use
are read by the thread of its loop alone.
-/

namespace MoeUV

/-- An assertion failed, or a handle was used behind its close callback. -/
inductive SignalFault where
  | assertion
  | freed
deriving DecidableEq

/-- What `sigaction` has set for a signal. -/
inductive SigAction where
  | default
  | handler
  /-- With `SA_RESETHAND`: back to the default when a signal arrives. -/
  | once
deriving DecidableEq

/-- `uv_signal_t`, with the state of its life. The two counters are `unsigned int` in C and
are only compared with each other. They differ by the messages of one handle that are under
way, of which a pipe holds fewer than 2^32, so it makes no difference that they wrap. -/
structure UvSignal (ℓ : Type) where
  loop : ℓ
  signum : Nat
  /-- `UV_SIGNAL_ONE_SHOT` -/
  oneShot : Bool
  caughtSignals : Nat
  dispatchedSignals : Nat
  closing : Bool
  /-- Between `uv_signal_init` and the close callback. -/
  opened : Bool

inductive SignalPlace (ν : Type) where
  /-- Outside of `uv__signal_event`. -/
  | poll
  /-- In its loop over the messages. -/
  | scan
  /-- In the callback of a handle. -/
  | callback (handle : ν)
deriving DecidableEq

structure SignalLoop (ν : Type) where
  pipe : List (ν × Nat)
  /-- The messages in `buf` that have not been looked at. -/
  buf : List (ν × Nat)
  /-- `buf` was filled by the last read. -/
  full : Bool
  place : SignalPlace ν
  closingHandles : List ν

/-- `uv__signal_handler`, which holds the lock. -/
structure SignalPass (ν : Type) where
  signum : Nat
  /-- The handles that it still has to visit. -/
  rest : List ν
  /-- The message to the first of them has been written. -/
  wrote : Bool

/-- The handle for which the message has been written and not been counted. -/
def SignalPass.written {ν : Type} (pass : SignalPass ν) : Option ν :=
  if pass.wrote then pass.rest.head? else none

/-- All loops of the program, with what they share. -/
structure SignalWorld (ℓ ν : Type) where
  handle : ν → UvSignal ℓ
  loop : ℓ → SignalLoop ν
  /-- `uv__signal_tree`, in its order. -/
  tree : List ν
  action : Nat → SigAction
  /-- The signals that have arrived on threads that wait for the lock. -/
  arrived : List Nat
  /-- The signal handler that holds the lock. -/
  pass : Option (SignalPass ν)
  /-- How many signals were handled while the handle watched them. -/
  raised : ν → Nat
  /-- How many of them found the pipe full. -/
  dropped : ν → Nat
  /-- How many callbacks the handle has had. -/
  calls : ν → Nat
  /-- How many messages came when the handle did not watch their signal any more. -/
  stale : ν → Nat

namespace SignalWorld

variable {ℓ ν : Type} [LinearOrder ℓ] [LinearOrder ν]
  (world : SignalWorld ℓ ν)

def setHandle (handle : ν) (fields : UvSignal ℓ) : SignalWorld ℓ ν :=
  { world with handle := Function.update world.handle handle fields }

def setLoop (loop : ℓ) (fields : SignalLoop ν) : SignalWorld ℓ ν :=
  { world with loop := Function.update world.loop loop fields }

/-- No thread is in its signal handler with the lock. -/
def Unlocked : Prop := world.pass.isNone = true

instance : Decidable world.Unlocked := inferInstanceAs (Decidable (_ = true))

section Tree

/-- `uv__signal_compare` gives no positive number. -/
def signalCompare (w1 w2 : ν) : Bool :=
  let f1 := (world.handle w1).oneShot
  let f2 := (world.handle w2).oneShot
  if (world.handle w1).signum < (world.handle w2).signum then true
  else if (world.handle w2).signum < (world.handle w1).signum then false
  else if f1 = false ∧ f2 = true then true
  else if f1 = true ∧ f2 = false then false
  else if (world.handle w1).loop < (world.handle w2).loop then true
  else if (world.handle w2).loop < (world.handle w1).loop then false
  else decide (w1 ≤ w2)

/-- `uv__signal_first_handle` -/
def firstHandle (signum : Nat) : Option ν :=
  match world.tree.find? fun handle => signum ≤ (world.handle handle).signum with
  | some handle => if (world.handle handle).signum = signum then some handle else none
  | none => none

/-- The handles that `uv__signal_handler` goes through. -/
def watchers (signum : Nat) : List ν :=
  (world.tree.dropWhile fun handle => (world.handle handle).signum < signum).takeWhile
    fun handle => (world.handle handle).signum = signum

/-- `uv__signal_register_handler` -/
def registerHandler (signum : Nat) (oneshot : Bool) : SignalWorld ℓ ν :=
  { world with action := Function.update world.action signum (if oneshot then .once else .handler) }

/-- `uv__signal_unregister_handler` -/
def unregisterHandler (signum : Nat) : SignalWorld ℓ ν :=
  { world with action := Function.update world.action signum .default }

end Tree

section Handle

/-- `uv_signal_init` -/
def uvSignalInit (handle : ν) (loop : ℓ) : SignalWorld ℓ ν :=
  { world.setHandle handle ⟨loop, 0, false, 0, 0, false, true⟩ with
    raised := Function.update world.raised handle 0
    dropped := Function.update world.dropped handle 0
    calls := Function.update world.calls handle 0
    stale := Function.update world.stale handle 0 }

/-- `uv__signal_start` for a handle that does not watch another signal; `error` is the
error of `sigaction`. One that does is stopped first. -/
def signalStart (handle : ν) (signum : Nat) (oneshot : Bool) (error : Bool) : SignalWorld ℓ ν :=
  if signum = 0 ∨ signum = (world.handle handle).signum then world
  else
    let first := world.firstHandle signum
    let registers := first.all fun first => !oneshot && (world.handle first).oneShot
    if registers = true ∧ error = true then world
    else
      let world := if registers then world.registerHandler signum oneshot else world
      let fields := world.handle handle
      let world := world.setHandle handle { fields with
        signum := signum, oneShot := fields.oneShot || oneshot }
      { world with tree := world.tree.orderedInsert (world.signalCompare · ·) handle }

/-- `uv__signal_stop` -/
def signalStop (handle : ν) : Except SignalFault (SignalWorld ℓ ν) :=
  let signum := (world.handle handle).signum
  if signum = 0 then .ok world
  else if handle ∉ world.tree then .error .assertion
  else
    let world := { world with tree := world.tree.erase handle }
    let world := match world.firstHandle signum with
      | none => world.unregisterHandler signum
      | some first =>
        if (world.handle first).oneShot = true ∧ (world.handle handle).oneShot = false then
          world.registerHandler signum true
        else world
    .ok (world.setHandle handle { world.handle handle with signum := 0 })

/-- `uv__make_close_pending`. A handle is `UV_HANDLE_CLOSED` from `uv__finish_close` on. -/
def makeClosePending (handle : ν) : Except SignalFault (SignalWorld ℓ ν) :=
  let fields := world.handle handle
  if fields.closing = false ∨ fields.opened = false then .error .assertion
  else .ok (world.setLoop fields.loop { world.loop fields.loop with
    closingHandles := handle :: (world.loop fields.loop).closingHandles })

/-- `uv_close` with `uv__signal_close`. -/
def signalClose (handle : ν) : Except SignalFault (SignalWorld ℓ ν) := do
  let world := world.setHandle handle { world.handle handle with closing := true }
  let world ← world.signalStop handle
  let fields := world.handle handle
  if fields.caughtSignals = fields.dispatchedSignals then world.makeClosePending handle
  else .ok world

/-- `uv__finish_close`, with the close callback. -/
def finishClose (handle : ν) : Except SignalFault (SignalWorld ℓ ν) :=
  let fields := world.handle handle
  if fields.opened = false ∨ fields.closing = false then .error .assertion
  else
    let world := world.setLoop fields.loop { world.loop fields.loop with
      closingHandles := (world.loop fields.loop).closingHandles.erase handle }
    .ok (world.setHandle handle { fields with opened := false })

end Handle

section Handler

/-- A signal arrives at the process. -/
def arrive (signum : Nat) : SignalWorld ℓ ν :=
  let world := { world with arrived := world.arrived ++ [signum] }
  if world.action signum = .once then world.unregisterHandler signum else world

/-- `uv__signal_handler` gets the lock. -/
def enterHandler (signum : Nat) : SignalWorld ℓ ν :=
  let watchers := world.watchers signum
  { world with
    arrived := world.arrived.erase signum
    pass := some ⟨signum, watchers, false⟩
    raised := fun handle => world.raised handle + if handle ∈ watchers then 1 else 0 }

/-- A step of `uv__signal_handler`; the pipe may be full. -/
def signalHandler (full : Bool) : Except SignalFault (SignalWorld ℓ ν) :=
  match world.pass with
  | none => .ok world
  | some ⟨_, [], _⟩ => .ok { world with pass := none }
  | some ⟨signum, handle :: rest, wrote⟩ =>
    let fields := world.handle handle
    if fields.opened = false then .error .freed
    else if wrote then
      .ok { world.setHandle handle { fields with caughtSignals := fields.caughtSignals + 1 } with
        pass := some ⟨signum, rest, false⟩ }
    else if full then
      .ok { world with
        pass := some ⟨signum, rest, false⟩
        dropped := Function.update world.dropped handle (world.dropped handle + 1) }
    else
      .ok { world.setLoop fields.loop { world.loop fields.loop with
          pipe := (world.loop fields.loop).pipe ++ [(handle, signum)] } with
        pass := some ⟨signum, handle :: rest, true⟩ }

end Handler

section Event

/-- `read` into `buf`, which has room for 32 messages. -/
def readPipe (loop : ℓ) : SignalWorld ℓ ν :=
  let fields := world.loop loop
  world.setLoop loop { fields with
    pipe := fields.pipe.drop 32
    buf := fields.pipe.take 32
    full := decide (32 ≤ fields.pipe.length)
    place := if fields.pipe = [] then .poll else .scan }

/-- What `uv__signal_event` does behind a message, or behind its callback. -/
def dispatched (loop : ℓ) (handle : ν) : Except SignalFault (SignalWorld ℓ ν) := do
  let world := world.setLoop loop { world.loop loop with place := .scan }
  let fields := world.handle handle
  let world := world.setHandle handle { fields with
    dispatchedSignals := fields.dispatchedSignals + 1 }
  let world ← if fields.oneShot then world.signalStop handle else .ok world
  let fields := world.handle handle
  if fields.closing = true ∧ fields.caughtSignals = fields.dispatchedSignals then
    world.makeClosePending handle
  else .ok world

/-- `uv__signal_event` comes to its next message. -/
def signalEvent (loop : ℓ) : Except SignalFault (SignalWorld ℓ ν) :=
  let fields := world.loop loop
  match fields.buf with
  | [] =>
    if fields.full then .ok (world.readPipe loop)
    else .ok (world.setLoop loop { fields with place := .poll })
  | (handle, signum) :: rest =>
    let world := world.setLoop loop { fields with buf := rest }
    if (world.handle handle).opened = false then .error .freed
    else if signum = (world.handle handle).signum then
      if (world.handle handle).closing then .error .assertion
      else .ok { world.setLoop loop { world.loop loop with place := .callback handle } with
        calls := Function.update world.calls handle (world.calls handle + 1) }
    else
      { world with stale := Function.update world.stale handle (world.stale handle + 1) }.dispatched
        loop handle

/-- The program returns from a callback. -/
def signalReturn (loop : ℓ) : Except SignalFault (SignalWorld ℓ ν) :=
  match (world.loop loop).place with
  | .callback handle => world.dispatched loop handle
  | .poll | .scan => .ok world

end Event

section Counts

/-- The messages for a handle. -/
def messages (handle : ν) (list : List (ν × Nat)) : Nat :=
  list.countP fun message => message.1 = handle

/-- The messages for a handle that have not been looked at. -/
def waiting (handle : ν) : Nat :=
  messages handle (world.loop (world.handle handle).loop).pipe +
    messages handle (world.loop (world.handle handle).loop).buf

/-- The messages for a handle that have not been dispatched. -/
def inFlight (handle : ν) : Nat :=
  world.waiting handle +
    if (world.loop (world.handle handle).loop).place = .callback handle then 1 else 0

/-- The message that has been written for the handle and not been counted. -/
def uncounted (handle : ν) : Nat :=
  if world.pass.bind SignalPass.written = some handle then 1 else 0

/-- The visit of the signal handler that is still to come, or not over. -/
def visiting (handle : ν) : Nat :=
  if world.pass.any fun pass => handle ∈ pass.rest then 1 else 0

end Counts

end SignalWorld

inductive SignalStep (ℓ ν : Type) where
  | init (handle : ν) (loop : ℓ)
  | start (handle : ν) (signum : Nat) (oneshot error : Bool)
  | stop (handle : ν)
  | close (handle : ν)
  | finishClose (handle : ν)
  | arrive (signum : Nat)
  | enter (signum : Nat)
  | pass (full : Bool)
  | poll (loop : ℓ)
  | scan (loop : ℓ)
  | resume (loop : ℓ)

namespace SignalWorld

variable {ℓ ν : Type} [LinearOrder ℓ] [LinearOrder ν]
  (world : SignalWorld ℓ ν)

/-- Before the first handle is initialised. -/
def initial (memory : ν → UvSignal ℓ) : SignalWorld ℓ ν where
  handle handle := { memory handle with opened := false }
  loop _ := ⟨[], [], false, .poll, []⟩
  tree := []
  action _ := .default
  arrived := []
  pass := none
  raised _ := 0
  dropped _ := 0
  calls _ := 0
  stale _ := 0

def step : SignalStep ℓ ν → Except SignalFault (SignalWorld ℓ ν)
  | .init handle loop => .ok (world.uvSignalInit handle loop)
  | .start handle signum oneshot error => .ok (world.signalStart handle signum oneshot error)
  | .stop handle => world.signalStop handle
  | .close handle => world.signalClose handle
  | .finishClose handle => world.finishClose handle
  | .arrive signum => .ok (world.arrive signum)
  | .enter signum => .ok (world.enterHandler signum)
  | .pass full => world.signalHandler full
  | .poll loop => .ok (world.readPipe loop)
  | .scan loop => world.signalEvent loop
  | .resume loop => world.signalReturn loop

/-- The thread of a loop runs code of the program. -/
def Calling (loop : ℓ) : Prop := (world.loop loop).place ≠ .scan

/-- A handle that is open, not closing, and on whose thread the program runs. -/
def Usable (handle : ν) : Prop :=
  (world.handle handle).opened = true ∧ (world.handle handle).closing = false ∧
    world.Calling (world.handle handle).loop

/-- `uv__signal_stop` does not have to wait for the lock. -/
def Stoppable (handle : ν) : Prop := (world.handle handle).signum = 0 ∨ world.Unlocked

/-- Handles are used on the thread of their loop, and neither after `uv_close` nor before
`uv_signal_init`. Whoever needs the lock waits until it is free. -/
def Permits : SignalStep ℓ ν → Prop
  | .init handle loop => (world.handle handle).opened = false ∧ world.Calling loop
  | .start handle signum _ _ => world.Usable handle ∧
      (signum = 0 ∨ signum = (world.handle handle).signum ∨
        (world.handle handle).signum = 0 ∧ world.Unlocked)
  | .stop handle => world.Usable handle ∧ world.Stoppable handle
  | .close handle => world.Usable handle ∧ world.Stoppable handle
  | .finishClose handle =>
    handle ∈ (world.loop (world.handle handle).loop).closingHandles ∧
      (world.loop (world.handle handle).loop).place = .poll
  | .arrive signum => world.action signum ≠ .default
  | .enter signum => signum ∈ world.arrived ∧ world.Unlocked
  | .pass _ => ¬world.Unlocked
  | .poll loop => (world.loop loop).place = .poll ∧ (world.loop loop).pipe ≠ []
  -- A message that leads to a callback is followed by the callback and not by the lock.
  | .scan loop => (world.loop loop).place = .scan ∧
      ∀ message ∈ (world.loop loop).buf.head?, message.2 ≠ (world.handle message.1).signum →
        (world.handle message.1).oneShot = true → world.Stoppable message.1
  | .resume loop => ∃ handle, (world.loop loop).place = .callback handle ∧
      ((world.handle handle).oneShot = true → world.Stoppable handle)

section Decide

variable [Fintype ν]

instance (world : SignalWorld ℓ ν) (handle : ν) : Decidable (world.Usable handle) :=
  inferInstanceAs (Decidable (_ ∧ _ ∧ (_ ≠ _)))

instance (world : SignalWorld ℓ ν) (handle : ν) : Decidable (world.Stoppable handle) :=
  inferInstanceAs (Decidable (_ ∨ _))

instance (world : SignalWorld ℓ ν) : (action : SignalStep ℓ ν) → Decidable (world.Permits action)
  | .init handle loop => inferInstanceAs (Decidable ((world.handle handle).opened = false ∧
      (world.loop loop).place ≠ .scan))
  | .start handle signum _ _ => inferInstanceAs (Decidable (world.Usable handle ∧
      (signum = 0 ∨ signum = (world.handle handle).signum ∨
        (world.handle handle).signum = 0 ∧ world.Unlocked)))
  | .stop handle | .close handle =>
    inferInstanceAs (Decidable (world.Usable handle ∧ world.Stoppable handle))
  | .finishClose handle => decidable_of_iff
      ((world.loop (world.handle handle).loop).closingHandles.any (· = handle) = true ∧
        (world.loop (world.handle handle).loop).place = .poll) (by simp [Permits])
  | .arrive signum => inferInstanceAs (Decidable (world.action signum ≠ .default))
  | .enter signum => decidable_of_iff
      (world.arrived.any (· = signum) = true ∧ world.Unlocked) (by simp [Permits])
  | .pass _ => inferInstanceAs (Decidable (¬world.Unlocked))
  | .poll loop => inferInstanceAs (Decidable
      ((world.loop loop).place = .poll ∧ (world.loop loop).pipe ≠ []))
  | .scan loop => inferInstanceAs (Decidable ((world.loop loop).place = .scan ∧
      ∀ message ∈ (world.loop loop).buf.head?, message.2 ≠ (world.handle message.1).signum →
        (world.handle message.1).oneShot = true → world.Stoppable message.1))
  | .resume loop => inferInstanceAs (Decidable (∃ handle,
      (world.loop loop).place = .callback handle ∧
        ((world.handle handle).oneShot = true → world.Stoppable handle)))

end Decide

end SignalWorld

def signalSystem (ℓ ν : Type) [LinearOrder ℓ] [LinearOrder ν] :
    Foundation.Execution.System (SignalWorld ℓ ν) (SignalStep ℓ ν) SignalFault where
  enabled := SignalWorld.Permits
  step := SignalWorld.step

instance {ℓ ν : Type} [LinearOrder ℓ] [LinearOrder ν] [Fintype ν] (world : SignalWorld ℓ ν)
    (action : SignalStep ℓ ν) : Decidable ((signalSystem ℓ ν).enabled world action) :=
  inferInstanceAs (Decidable (world.Permits action))

end MoeUV
