import MoeUV.Failure
import MoeUV.Foundation.Execution
import Mathlib.Data.Finset.Card
import Mathlib.Logic.Function.Basic

/-!
# The workers of the thread pool

What libuv does between `uv_queue_work` and the two callbacks. Worker threads, one
thread for each loop and the thread that leaves the process share a queue under a
mutex and a condition variable. Each loop has a queue of its own for the finished
requests, under a second mutex.

A step takes a thread from one call of a lock, of the condition variable or of a
callback to the next, so the steps of the threads are interleaved in any order between
them. A thread that waits for the condition may be woken by a signal or without one.
-/

namespace MoeUV

/-- The threads that use the pool: a worker, the thread of a loop, and the one that
calls `cleanup`. -/
inductive PoolThread (τ ℓ : Type) where
  | worker (thread : τ)
  | loop (name : ℓ)
  | cleanup
deriving DecidableEq

/-- A node of the global `wq`. -/
inductive Message (ω : Type) where
  | work (request : ω)
  | exitMessage
deriving DecidableEq

/-- What `w->work` points to. -/
inductive WorkFunction where
  | null
  | work
  | cancelled
deriving DecidableEq

/-- The parts of `struct uv__work` that the pool uses. -/
structure UvWork (ℓ : Type) where
  loop : ℓ
  work : WorkFunction
  /-- `QUEUE_EMPTY(&w->wq)` -/
  empty : Bool

/-- Where a worker is. -/
inductive WorkerPlace (ω : Type) where
  /-- Before `uv_mutex_lock(&mutex)`. -/
  | lock
  /-- At the condition of the inner loop, with the mutex. -/
  | check
  /-- In `uv_cond_wait`, not yet woken. -/
  | wait
  /-- In `uv_cond_wait`, before it has the mutex again. -/
  | wake
  /-- Before the call of `w->work`. -/
  | call (request : ω)
  /-- In `w->work`. -/
  | run (request : ω)
  /-- Before `uv_mutex_lock(&w->loop->wq_mutex)`. -/
  | lockStore (request : ω)
  /-- With the mutex of the loop. -/
  | store (request : ω)
  | exited
deriving DecidableEq

/-- Which of the functions of the pool the thread of a loop is in. -/
inductive LoopCall (ω : Type) where
  | returned
  /-- In `post`, before it has the mutex. -/
  | lockPost (request : ω)
  | post (request : ω)
  /-- In `uv__work_cancel`, before it has the first mutex. -/
  | lockCancel (request : ω)
  /-- With the first, before it has the second. -/
  | lockCancelLoop (request : ω)
  | cancel (request : ω)
  /-- With neither, before it has the second again. -/
  | lockCancelled (request : ω)
  | storeCancelled (request : ω)
  /-- In `uv__work_done`, before it has the mutex. -/
  | lockDone
  | moveDone
deriving DecidableEq

/-- The thread that leaves the process, in `post(&exit_message)` and behind it. -/
inductive CleanupPlace where
  | notCalled
  | lockPost
  | post
  | join
deriving DecidableEq

/-- The parts of `uv_loop_t` that the pool uses, and the thread that runs it. -/
structure PoolLoop (τ ω ℓ : Type) where
  wqMutex : Option (PoolThread τ ℓ)
  wq : List ω
  /-- `uv_async_send` was called for `wq_async`, and the loop has not seen it. -/
  wqAsync : Bool
  /-- `active_reqs` -/
  activeReqs : Nat
  call : LoopCall ω
  /-- Inside of the loop of `uv__work_done`. -/
  draining : Bool
  /-- The local variable `wq` of `uv__work_done`. -/
  moved : List ω

inductive PoolEvent (ω : Type) where
  | submitted (request : ω)
  | executed (request : ω)
  /-- `uv_cancel` returned zero. -/
  | cancelled (request : ω)
  /-- `uv_cancel` returned `UV_EBUSY`. -/
  | refused (request : ω)
  | done (request : ω) (err : Int)
deriving DecidableEq

def PoolEvent.request {ω : Type} : PoolEvent ω → ω
  | .submitted request | .executed request | .cancelled request | .refused request
  | .done request _ => request

structure WorkerPool (τ ω ℓ : Type) where
  mutex : Option (PoolThread τ ℓ)
  idleThreads : Nat
  wq : List (Message ω)
  worker : τ → WorkerPlace ω
  cleanup : CleanupPlace
  work : ω → UvWork ℓ
  loop : ℓ → PoolLoop τ ω ℓ
  /-- The requests that were submitted and whose `done` was not called. -/
  inUse : Finset ω
  events : List (PoolEvent ω)

inductive PoolFault where
  /-- `w->work` was a null pointer. -/
  | nullWork
  /-- `uv__cancelled` was called. -/
  | aborted
  /-- `assert(uv__has_active_reqs(loop))` -/
  | noActiveReqs
deriving DecidableEq

inductive PoolAction (τ ω ℓ : Type) where
  | queueWork (name : ℓ) (request : ω)
  | cancel (name : ℓ) (request : ω)
  /-- The loop calls `uv__work_done`. -/
  | workDone (name : ℓ)
  | exit
  /-- `uv_cond_wait` returns without a signal. -/
  | wakeUp (thread : τ)
  /-- A thread goes on. If it signals the condition, it wakes one of the waiting. -/
  | step (thread : PoolThread τ ℓ) (woken : Option τ)

namespace WorkerPool

variable {τ ω ℓ : Type} [DecidableEq τ] [DecidableEq ω] [DecidableEq ℓ] (pool : WorkerPool τ ω ℓ)

/-- The threads have been created, and no request has been submitted. -/
def initial (work : ω → UvWork ℓ) : WorkerPool τ ω ℓ where
  mutex := none
  idleThreads := 0
  wq := []
  worker := fun _ => .lock
  cleanup := .notCalled
  work := work
  loop := fun _ => ⟨none, [], false, 0, .returned, false, []⟩
  inUse := ∅
  events := []

def setWorker (thread : τ) (place : WorkerPlace ω) : WorkerPool τ ω ℓ :=
  { pool with worker := Function.update pool.worker thread place }

def setWork (request : ω) (work : UvWork ℓ) : WorkerPool τ ω ℓ :=
  { pool with work := Function.update pool.work request work }

def setLoop (name : ℓ) (loop : PoolLoop τ ω ℓ) : WorkerPool τ ω ℓ :=
  { pool with loop := Function.update pool.loop name loop }

def setCall (name : ℓ) (call : LoopCall ω) : WorkerPool τ ω ℓ :=
  pool.setLoop name { pool.loop name with call := call }

def setMutex (owner : Option (PoolThread τ ℓ)) : WorkerPool τ ω ℓ := { pool with mutex := owner }

def setWqMutex (name : ℓ) (owner : Option (PoolThread τ ℓ)) : WorkerPool τ ω ℓ :=
  pool.setLoop name { pool.loop name with wqMutex := owner }

def record (event : PoolEvent ω) : WorkerPool τ ω ℓ :=
  { pool with events := pool.events ++ [event] }

/-- `uv_cond_signal` -/
def signal (woken : Option τ) : WorkerPool τ ω ℓ :=
  { pool with worker := fun thread => if woken = some thread then .wake else pool.worker thread }

/-- `post`, with the mutex. -/
def post (message : Message ω) (woken : Option τ) : WorkerPool τ ω ℓ :=
  let pool := { pool with wq := pool.wq ++ [message] }
  pool.signal (if 0 < pool.idleThreads then woken else none)

/-- `QUEUE_INSERT_TAIL(&loop->wq, &w->wq)` and `uv_async_send(&loop->wq_async)`. -/
def insertDone (name : ℓ) (request : ω) : WorkerPool τ ω ℓ :=
  let loop := pool.loop name
  (pool.setLoop name { loop with wq := loop.wq ++ [request], wqAsync := true }).setWork request
    { pool.work request with empty := false }

/-- `QUEUE_REMOVE(&w->wq)`, in whichever queue the request is. -/
def queueRemove (request : ω) : WorkerPool τ ω ℓ :=
  { pool with
    wq := pool.wq.filter (· ≠ .work request)
    loop := fun name =>
      { pool.loop name with
        wq := (pool.loop name).wq.filter (· ≠ request)
        moved := (pool.loop name).moved.filter (· ≠ request) } }

section Steps

/-- The condition of `uv__work_cancel`. -/
def cancellable (request : ω) : Bool :=
  !(pool.work request).empty && decide ((pool.work request).work ≠ .null)

/-- `worker` -/
def workerStep (thread : τ) (woken : Option τ) : Except PoolFault (WorkerPool τ ω ℓ) :=
  match pool.worker thread with
  | .lock => pure ((pool.setWorker thread .check).setMutex (some (.worker thread)))
  | .check =>
    match pool.wq with
    | [] =>
      let pool := { pool with idleThreads := pool.idleThreads + 1 }
      pure ((pool.setWorker thread .wait).setMutex none)
    | .exitMessage :: _ => pure (((pool.setWorker thread .exited).signal woken).setMutex none)
    | .work request :: rest =>
      let pool := { pool with wq := rest }
      let pool := pool.setWork request { pool.work request with empty := true }
      pure ((pool.setWorker thread (.call request)).setMutex none)
  | .wake =>
    let pool := { pool with idleThreads := pool.idleThreads - 1 }
    pure ((pool.setWorker thread .check).setMutex (some (.worker thread)))
  | .call request =>
    match (pool.work request).work with
    | .null => throw .nullWork
    | .cancelled => throw .aborted
    | .work => pure ((pool.setWorker thread (.run request)).record (.executed request))
  | .run request => pure (pool.setWorker thread (.lockStore request))
  | .lockStore request =>
    let name := (pool.work request).loop
    pure ((pool.setWorker thread (.store request)).setWqMutex name (some (.worker thread)))
  | .store request =>
    let name := (pool.work request).loop
    let pool := pool.setWork request { pool.work request with work := .null }
    pure (((pool.insertDone name request).setWorker thread .lock).setWqMutex name none)
  | .wait | .exited => pure pool

/-- `uv__work_submit` up to `post`, from `uv_queue_work`. -/
def uvQueueWork (name : ℓ) (request : ω) : WorkerPool τ ω ℓ :=
  let loop := pool.loop name
  let pool := pool.setLoop name { loop with activeReqs := loop.activeReqs + 1 }
  let pool := pool.setWork request { pool.work request with loop := name, work := .work }
  { (pool.setCall name (.lockPost request)).record (.submitted request) with
    inUse := insert request pool.inUse }

/-- `uv__req_unregister` -/
def reqUnregister (name : ℓ) : Except PoolFault (WorkerPool τ ω ℓ) :=
  let loop := pool.loop name
  if 0 < loop.activeReqs then
    pure (pool.setLoop name { loop with activeReqs := loop.activeReqs - 1 })
  else throw .noActiveReqs

/-- `uv__queue_done`, up to the callback of the request. -/
def queueDone (name : ℓ) (request : ω) (err : Int) : Except PoolFault (WorkerPool τ ω ℓ) := do
  let pool ← pool.reqUnregister name
  pure { pool.record (.done request err) with inUse := pool.inUse.erase request }

/-- One round of the loop of `uv__work_done`. -/
def workDonePass (name : ℓ) : Except PoolFault (WorkerPool τ ω ℓ) :=
  let loop := pool.loop name
  match loop.moved with
  | [] => pure (pool.setLoop name { loop with draining := false })
  | request :: rest =>
    let err := if (pool.work request).work = .cancelled then UV_ECANCELED else 0
    (pool.setLoop name { loop with moved := rest }).queueDone name request err

/-- The thread of a loop, in the functions of the pool. -/
def loopStep (name : ℓ) (woken : Option τ) : Except PoolFault (WorkerPool τ ω ℓ) :=
  let loop := pool.loop name
  match loop.call with
  | .returned => pool.workDonePass name
  | .lockPost request => pure ((pool.setCall name (.post request)).setMutex (some (.loop name)))
  | .post request =>
    let pool := pool.setWork request { pool.work request with empty := false }
    pure (((pool.post (.work request) woken).setCall name .returned).setMutex none)
  | .lockCancel request =>
    pure ((pool.setCall name (.lockCancelLoop request)).setMutex (some (.loop name)))
  | .lockCancelLoop request =>
    pure ((pool.setCall name (.cancel request)).setWqMutex (pool.work request).loop
      (some (.loop name)))
  | .cancel request =>
    let cancelled := pool.cancellable request
    let pool := if cancelled then pool.queueRemove request else pool
    let pool := (pool.setWqMutex (pool.work request).loop none).setMutex none
    if cancelled then
      let pool := pool.setWork request { pool.work request with work := .cancelled }
      pure (pool.setCall name (.lockCancelled request))
    else pure ((pool.setCall name .returned).record (.refused request))
  | .lockCancelled request =>
    pure ((pool.setCall name (.storeCancelled request)).setWqMutex name (some (.loop name)))
  | .storeCancelled request =>
    let pool := ((pool.insertDone name request).setCall name .returned).setWqMutex name none
    pure (pool.record (.cancelled request))
  | .lockDone => pure ((pool.setCall name .moveDone).setWqMutex name (some (.loop name)))
  | .moveDone =>
    let loop := { loop with
      moved := loop.wq, wq := [], wqMutex := none, draining := true, call := .returned }
    pure (pool.setLoop name loop)

/-- `cleanup`, up to the joins. -/
def cleanupStep (woken : Option τ) : WorkerPool τ ω ℓ :=
  match pool.cleanup with
  | .lockPost => { pool with cleanup := .post, mutex := some .cleanup }
  | .post => { pool.post .exitMessage woken with cleanup := .join, mutex := none }
  | .notCalled | .join => pool

def act : PoolAction τ ω ℓ → Except PoolFault (WorkerPool τ ω ℓ)
  | .queueWork name request => pure (pool.uvQueueWork name request)
  | .cancel name request => pure (pool.setCall name (.lockCancel request))
  | .workDone name =>
    pure (pool.setLoop name { pool.loop name with wqAsync := false, call := .lockDone })
  | .exit => pure { pool with cleanup := .lockPost }
  | .wakeUp thread => pure (pool.setWorker thread .wake)
  | .step (.worker thread) woken => pool.workerStep thread woken
  | .step (.loop name) woken => pool.loopStep name woken
  | .step .cleanup woken => pure (pool.cleanupStep woken)

end Steps

section Environment

/-- A thread does not wait for a lock, for a signal or for a call. -/
def Ready : PoolThread τ ℓ → Prop
  | .worker thread =>
    match pool.worker thread with
    | .lock | .wake => pool.mutex = none
    | .check | .call _ | .run _ | .store _ => True
    | .lockStore request => (pool.loop (pool.work request).loop).wqMutex = none
    | .wait | .exited => False
  | .loop name =>
    match (pool.loop name).call with
    | .returned => (pool.loop name).draining = true
    | .lockPost _ | .lockCancel _ => pool.mutex = none
    | .lockCancelLoop request => (pool.loop (pool.work request).loop).wqMutex = none
    | .lockCancelled _ | .lockDone => (pool.loop name).wqMutex = none
    | .post _ | .cancel _ | .storeCancelled _ | .moveDone => True
  | .cleanup =>
    match pool.cleanup with
    | .lockPost => pool.mutex = none
    | .post => True
    | .notCalled | .join => False

/-- A signal wakes one of the threads that wait, if there is one. -/
def Wakes : Option τ → Prop
  | none => ∀ thread, pool.worker thread ≠ .wait
  | some thread => pool.worker thread = .wait

/-- Requests belong to the thread of their loop, from `uv_queue_work` to their `done`. -/
def Permits : PoolAction τ ω ℓ → Prop
  | .queueWork name request => (pool.loop name).call = .returned ∧ request ∉ pool.inUse
  | .cancel name request => (pool.loop name).call = .returned ∧ request ∈ pool.inUse ∧
      (pool.work request).loop = name
  | .workDone name => (pool.loop name).call = .returned ∧ (pool.loop name).draining = false ∧
      (pool.loop name).wqAsync = true
  | .exit => pool.cleanup = .notCalled
  | .wakeUp thread => pool.worker thread = .wait
  | .step thread woken => pool.Ready thread ∧ pool.Wakes woken

end Environment

end WorkerPool

def workerSystem (τ ω ℓ : Type) [DecidableEq τ] [DecidableEq ω] [DecidableEq ℓ] :
    Foundation.Execution.System (WorkerPool τ ω ℓ) (PoolAction τ ω ℓ) PoolFault where
  enabled := WorkerPool.Permits
  step := WorkerPool.act

end MoeUV
