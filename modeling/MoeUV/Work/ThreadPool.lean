import MoeUV.Handle.Tag
import MoeUV.Foundation.Execution
import Mathlib.Logic.Function.Basic

/-!
# Work queued to the thread pool

`QueueWork` runs on the loop thread, step by step, while the workers of libuv take
published requests and run their callbacks in any order. Where libuv holds a
request is a place: in its queue, with a worker, in the list of finished
requests, or handed back to the loop thread. Any queued request may be taken
next, by any of an unlimited number of workers.

A worker reads `Request.data` as soon as it runs `WorkCallback`. `QueueWork`
writes it only after `uv_queue_work` has returned, and nothing orders the two.

The events record what each request found in `data` and which callbacks it made.
A callback that `QueueWork` got as an empty function is not made. Exceptions of
callbacks are caught by their callers and change nothing here. `OnAfterWork` may
call `QueueWork` again; `OnWork` cannot, since a worker has no run loop.
-/

namespace MoeUV

/-- A `UVWorkReq`, named by the order of the calls to `QueueWork`. -/
abbrev RequestId := Nat

variable {Callback : Type}

/-- The arguments of one call to `QueueWork`. -/
structure Job (Callback : Type) where
  work : Option Callback
  afterWork : Option Callback
  userData : Word

structure UVWorkReq (Callback : Type) where
  /-- `Request.data` -/
  data : Option RequestId
  onWork : Option Callback
  onAfterWork : Option Callback
  userData : Word

/-- How far a call of `QueueWork` has come. -/
inductive Stage where
  | created
  | filled
  | published
deriving DecidableEq

/-- The call of `QueueWork` that the loop thread is in. -/
structure QueueCall (Callback : Type) where
  object : RequestId
  stage : Stage
  job : Job Callback

/-- Where libuv holds a request. -/
inductive Place where
  | queued
  | taken
  | worked
  | done
  | returned
deriving DecidableEq

inductive WorkEvent (Callback : Type) where
  /-- `WorkCallback` found its `UVWorkReq` behind `Request.data`. -/
  | found (request self : RequestId)
  | work (request : RequestId) (callback : Callback) (userData : Word)
  | afterWork (request : RequestId) (callback : Callback) (status : Int) (userData : Word)
  | released (self : RequestId)

def WorkEvent.request : WorkEvent Callback → RequestId
  | .found request _ => request
  | .work request _ _ => request
  | .afterWork request _ _ _ => request
  | .released self => self

inductive WorkFault where
  | nullRequest (request : RequestId)
  | danglingRequest (request : RequestId)
deriving DecidableEq

structure ThreadPool (Callback : Type) where
  requests : RequestId → Option (UVWorkReq Callback)
  queueing : Option (QueueCall Callback)
  place : RequestId → Option Place
  /-- The `self` of the `AfterWorkCallback` that the loop thread is in. -/
  returning : Option RequestId
  /-- The arguments of all calls so far. -/
  calls : List (Job Callback)
  events : List (WorkEvent Callback)

namespace ThreadPool

def initial : ThreadPool Callback where
  requests _ := none
  queueing := none
  place _ := none
  returning := none
  calls := []
  events := []

variable (pool : ThreadPool Callback)

/-- The events of one request, the latest first. -/
def history (id : RequestId) : List (WorkEvent Callback) :=
  pool.events.filter fun event => event.request = id

def deref (id : RequestId) : Except WorkFault (UVWorkReq Callback) :=
  match pool.requests id with
  | some request => .ok request
  | none => .error (.danglingRequest id)

def setRequest (id : RequestId) (request : Option (UVWorkReq Callback)) : ThreadPool Callback :=
  { pool with requests := Function.update pool.requests id request }

def setPlace (id : RequestId) (place : Place) : ThreadPool Callback :=
  { pool with place := Function.update pool.place id (some place) }

def record (events : List (WorkEvent Callback)) : ThreadPool Callback :=
  { pool with events := events ++ pool.events }

section QueueWork

/-- `MOE_UV_NEW(UVWorkReq)` at the beginning of a call. -/
def create (job : Job Callback) : ThreadPool Callback :=
  { pool.setRequest pool.calls.length (some ⟨none, none, none, 0⟩) with
    queueing := some ⟨pool.calls.length, .created, job⟩
    calls := pool.calls ++ [job] }

/-- The three assignments to `object`. -/
def fill (call : QueueCall Callback) : Except WorkFault (ThreadPool Callback) := do
  let object ← pool.deref call.object
  pure { pool.setRequest call.object (some { object with
      onWork := call.job.work
      onAfterWork := call.job.afterWork
      userData := call.job.userData }) with
    queueing := some { call with stage := .filled } }

/-- `uv_queue_work`, which succeeds for any callback that is not null. -/
def publish (call : QueueCall Callback) : ThreadPool Callback :=
  { pool.setPlace call.object .queued with queueing := some { call with stage := .published } }

/-- `MOVE_OWNER_SELF`, the end of the call. -/
def moveOwnerSelf (call : QueueCall Callback) : Except WorkFault (ThreadPool Callback) := do
  let raw ← pool.deref call.object
  pure { pool.setRequest call.object (some { raw with data := some call.object }) with
    queueing := none }

end QueueWork

section Callbacks

/-- `static_cast<UVWorkReq*>(req->data)`, which both callbacks go on to use. -/
def self (request : RequestId) : Except WorkFault (RequestId × UVWorkReq Callback) := do
  let req ← pool.deref request
  match req.data with
  | none => throw (.nullRequest request)
  | some self => do
    let object ← pool.deref self
    pure (self, object)

/-- `WorkCallback`, on a worker. -/
def workCallback (request : RequestId) : Except WorkFault (ThreadPool Callback) := do
  let (self, object) ← pool.self request
  let called := (object.onWork.map fun callback => .work request callback object.userData).toList
  pure ((pool.record (called ++ [.found request self])).setPlace request .worked)

/-- `AfterWorkCallback` up to the end of `OnAfterWork`. -/
def afterWorkCallback (request : RequestId) : Except WorkFault (ThreadPool Callback) := do
  let (self, object) ← pool.self request
  let called :=
    (object.onAfterWork.map fun callback => .afterWork request callback 0 object.userData).toList
  pure { (pool.record called).setPlace request .returned with returning := some self }

/-- The destructor of `self` at the end of `AfterWorkCallback`. -/
def release (self : RequestId) : Except WorkFault (ThreadPool Callback) := do
  let _ ← pool.deref self
  pure { (pool.setRequest self none).record [.released self] with returning := none }

end Callbacks

end ThreadPool

/-- The steps of the loop thread, of the workers and of libuv between them. -/
inductive WorkAction (Callback : Type) where
  | create (job : Job Callback)
  | fill
  | publish
  | moveOwnerSelf
  | take (request : RequestId)
  | workCallback (request : RequestId)
  | workDone (request : RequestId)
  | afterWorkCallback (request : RequestId)
  | release

def WorkAction.run (pool : ThreadPool Callback) :
    WorkAction Callback → Except WorkFault (ThreadPool Callback)
  | .create job => pure (pool.create job)
  | .fill =>
    match pool.queueing with
    | none => pure pool
    | some call => pool.fill call
  | .publish =>
    match pool.queueing with
    | none => pure pool
    | some call => pure (pool.publish call)
  | .moveOwnerSelf =>
    match pool.queueing with
    | none => pure pool
    | some call => pool.moveOwnerSelf call
  | .take request => pure (pool.setPlace request .taken)
  | .workCallback request => pool.workCallback request
  | .workDone request => pure (pool.setPlace request .done)
  | .afterWorkCallback request => pool.afterWorkCallback request
  | .release =>
    match pool.returning with
    | none => pure pool
    | some self => pool.release self

/-- The loop thread is in one place of its program. It may call `QueueWork` from
an `OnAfterWork`, and finishes that call before it goes on. -/
def WorkAction.Enabled (pool : ThreadPool Callback) : WorkAction Callback → Prop
  | .create _ => pool.queueing.map QueueCall.stage = none
  | .fill => pool.queueing.map QueueCall.stage = some .created
  | .publish => pool.queueing.map QueueCall.stage = some .filled
  | .moveOwnerSelf => pool.queueing.map QueueCall.stage = some .published
  | .take request => pool.place request = some .queued
  | .workCallback request => pool.place request = some .taken
  | .workDone request => pool.place request = some .worked
  | .afterWorkCallback request => pool.place request = some .done ∧
      pool.queueing.map QueueCall.stage = none ∧ pool.returning = none
  | .release => pool.queueing.map QueueCall.stage = none ∧ pool.returning ≠ none

def threadPoolSystem : Foundation.Execution.System (ThreadPool Callback) (WorkAction Callback)
    WorkFault where
  enabled pool action := action.Enabled pool
  step pool action := action.run pool

instance (pool : ThreadPool Callback) : (action : WorkAction Callback) →
    Decidable (threadPoolSystem.enabled pool action)
  | .create _ => inferInstanceAs (Decidable (pool.queueing.map QueueCall.stage = none))
  | .fill => inferInstanceAs (Decidable (pool.queueing.map QueueCall.stage = some .created))
  | .publish => inferInstanceAs (Decidable (pool.queueing.map QueueCall.stage = some .filled))
  | .moveOwnerSelf =>
    inferInstanceAs (Decidable (pool.queueing.map QueueCall.stage = some .published))
  | .take request => inferInstanceAs (Decidable (pool.place request = some .queued))
  | .workCallback request => inferInstanceAs (Decidable (pool.place request = some .taken))
  | .workDone request => inferInstanceAs (Decidable (pool.place request = some .worked))
  | .afterWorkCallback request => inferInstanceAs (Decidable (pool.place request = some .done ∧
      pool.queueing.map QueueCall.stage = none ∧ pool.returning = none))
  | .release => inferInstanceAs (Decidable (pool.queueing.map QueueCall.stage = none ∧
      pool.returning ≠ none))

/-- No worker runs `WorkCallback` of a request before the loop thread has set its
`data` and left `QueueWork`. -/
def WorkAction.Ordered (pool : ThreadPool Callback) : WorkAction Callback → Prop
  | .workCallback request => pool.queueing.map QueueCall.object ≠ some request
  | _ => True

instance (pool : ThreadPool Callback) : (action : WorkAction Callback) →
    Decidable (action.Ordered pool)
  | .workCallback request =>
    inferInstanceAs (Decidable (pool.queueing.map QueueCall.object ≠ some request))
  | .create _ | .fill | .publish | .moveOwnerSelf | .take _ | .workDone _ | .afterWorkCallback _
  | .release => inferInstanceAs (Decidable True)

end MoeUV
