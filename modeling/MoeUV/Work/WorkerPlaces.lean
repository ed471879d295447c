import MoeUV.Foundation.Location
import MoeUV.Work.Workers

/-!
# Where a request is in the thread pool

From `uv_queue_work` to its `done` a request is in one place: with the thread of its
loop, in one of the queues, or with one worker. The fields of the request tell
`uv__work_cancel` as much of that as it needs.
-/

namespace MoeUV

open Foundation.Location

inductive WorkPlace (τ : Type) where
  /-- In `post`. -/
  | posting
  /-- In the global queue. -/
  | queued
  /-- With a worker that has not called it. -/
  | taken (thread : τ)
  | executing (thread : τ)
  /-- In the queue of the loop. -/
  | finished
  /-- In the local queue of `uv__work_done`. -/
  | moved
  /-- In `uv__work_cancel`, in no queue. -/
  | cancelling
deriving DecidableEq

/-- The request that the worker has not called. -/
def WorkerPlace.takes {ω : Type} : WorkerPlace ω → Option ω
  | .call request => some request
  | _ => none

def WorkerPlace.executes {ω : Type} : WorkerPlace ω → Option ω
  | .run request | .lockStore request | .store request => some request
  | _ => none

def LoopCall.posts {ω : Type} : LoopCall ω → Option ω
  | .lockPost request | .post request => some request
  | _ => none

/-- The request that `uv__work_cancel` looks at. -/
def LoopCall.cancels {ω : Type} : LoopCall ω → Option ω
  | .lockCancel request | .lockCancelLoop request | .cancel request => some request
  | _ => none

/-- The request that `uv__work_cancel` has taken out of its queue. -/
def LoopCall.stores {ω : Type} : LoopCall ω → Option ω
  | .lockCancelled request | .storeCancelled request => some request
  | _ => none

/-- In `uv__work_done`, before it has moved the queue. -/
def LoopCall.InWorkDone {ω : Type} : LoopCall ω → Prop
  | .lockDone | .moveDone => True
  | _ => False

/-- What the fields of a request are in a place. -/
def WorkPlace.Fits {τ ℓ : Type} (fields : UvWork ℓ) : WorkPlace τ → Prop
  | .posting => fields.work = .work
  | .queued => fields.work = .work ∧ fields.empty = false
  | .taken _ | .executing _ => fields.work = .work ∧ fields.empty = true
  | .finished | .moved => fields.work ≠ .work ∧ fields.empty = false
  | .cancelling => fields.work = .cancelled

/-- What has been reported about a request since its last `uv_queue_work`. -/
inductive WorkLife where
  /-- Never submitted, or `done` was called. -/
  | free
  | submitted
  /-- `uv_cancel` has found that a worker has it. -/
  | refused
  | executed
  | cancelled
deriving DecidableEq

/-- The reports that may come next. -/
def WorkLife.after {ω : Type} : WorkLife → PoolEvent ω → Option WorkLife
  | .free, .submitted _ => some .submitted
  | .submitted, .executed _ | .refused, .executed _ => some .executed
  | .submitted, .refused _ | .refused, .refused _ => some .refused
  | .submitted, .cancelled _ | .cancelled, .cancelled _ => some .cancelled
  | .executed, .refused _ => some .executed
  | .executed, .done _ err => if err = 0 then some .free else none
  | .cancelled, .done _ err => if err = UV_ECANCELED then some .free else none
  | _, _ => none

/-- What the reports about a request come to, or nothing if one of them was out of
order. -/
def lifeOf {ω : Type} [DecidableEq ω] (events : List (PoolEvent ω)) (request : ω) :
    Option WorkLife :=
  (events.filter fun event => event.request = request).foldlM WorkLife.after .free

/-- A report is the last one of its request, and is none of another. -/
theorem lifeOf_append {ω : Type} [DecidableEq ω] (events : List (PoolEvent ω))
    (event : PoolEvent ω) (request : ω) : lifeOf (events ++ [event]) request =
      if event.request = request then (lifeOf events request).bind (·.after event)
      else lifeOf events request := by
  rw [lifeOf, List.filter_append, List.foldlM_append]
  by_cases same : event.request = request
  · rw [if_pos same, List.filter_cons_of_pos (by simpa using same), lifeOf]
    cases List.foldlM WorkLife.after WorkLife.free
      (events.filter fun event => event.request = request) with
    | none => rfl
    | some life => simp
  · rw [if_neg same, List.filter_cons_of_neg (by simpa using same)]
    simp [lifeOf]

/-- The reports about a request in a place. -/
def WorkPlace.Lived {τ : Type} (function : WorkFunction) (life : Option WorkLife) :
    WorkPlace τ → Prop
  | .posting | .queued => life = some .submitted
  | .taken _ => life = some .submitted ∨ life = some .refused
  | .executing _ => life = some .executed
  | .finished | .moved => life = some (if function = .cancelled then .cancelled else .executed)
  | .cancelling => life = some .submitted ∨ life = some .cancelled

/-- The function of a finished request tells whether it was cancelled. -/
theorem finished_cancelled_iff {function : WorkFunction} {life : Option WorkLife}
    (lived : life = some (if function = .cancelled then .cancelled else .executed)) :
    life = some .cancelled ↔ function = .cancelled := by
  rw [lived]
  by_cases cancelled : function = .cancelled
  · rw [if_pos cancelled]
    exact iff_of_true rfl cancelled
  · rw [if_neg cancelled]
    exact iff_of_false (by simp) cancelled

/-- Something has been reported about a request that is in a place, and not its `done`. -/
theorem WorkPlace.Lived.not_free {τ : Type} {function : WorkFunction} {life : Option WorkLife}
    {held : WorkPlace τ} (lived : held.Lived function life) :
    ∃ reported, life = some reported ∧ reported ≠ .free := by
  have finished (lived : life = some (if function = .cancelled then .cancelled else .executed)) :
      ∃ reported, life = some reported ∧ reported ≠ .free := by
    refine ⟨_, lived, ?_⟩
    by_cases cancelled : function = .cancelled
    · rw [if_pos cancelled]
      simp
    · rw [if_neg cancelled]
      simp
  cases held with
  | posting => exact ⟨.submitted, lived, by simp⟩
  | queued => exact ⟨.submitted, lived, by simp⟩
  | taken thread => exact lived.elim (⟨.submitted, ·, by simp⟩) (⟨.refused, ·, by simp⟩)
  | executing thread => exact ⟨.executed, lived, by simp⟩
  | finished => exact finished lived
  | moved => exact finished lived
  | cancelling => exact lived.elim (⟨.submitted, ·, by simp⟩) (⟨.cancelled, ·, by simp⟩)

/-- A request that is not cancelled goes on when `uv_cancel` returns `UV_EBUSY`, and the report
fits in where it is. -/
theorem WorkPlace.Lived.refused {τ ω : Type} {function : WorkFunction} {life : Option WorkLife}
    {held : WorkPlace τ} {request : ω} (lived : held.Lived function life)
    (notPosting : held ≠ .posting) (notQueued : held ≠ .queued)
    (notCancelling : held ≠ .cancelling) (uncancelled : life ≠ some .cancelled) :
    held.Lived function (life.bind (·.after (.refused request))) := by
  have executed (lived : life = some (if function = .cancelled then .cancelled else .executed)) :
      life.bind (·.after (.refused request)) =
        some (if function = .cancelled then .cancelled else .executed) := by
    by_cases cancelled : function = .cancelled
    · rw [if_pos cancelled] at lived
      exact absurd lived uncancelled
    · rw [if_neg cancelled] at lived ⊢
      rw [lived]
      rfl
  cases held with
  | posting => exact absurd rfl notPosting
  | queued => exact absurd rfl notQueued
  | cancelling => exact absurd rfl notCancelling
  | taken thread =>
    refine Or.inr ?_
    rcases lived with submitted | refused
    · rw [submitted]
      rfl
    · rw [refused]
      rfl
  | executing thread =>
    have executed : life = some .executed := lived
    rw [executed]
    rfl
  | finished => exact executed lived
  | moved => exact executed lived

/-- A loop has the request in one of its queues, or its thread is busy with it. -/
def PoolLoop.Has {τ ω ℓ : Type} (loop : PoolLoop τ ω ℓ) (request : ω) : Prop :=
  request ∈ loop.wq ∨ request ∈ loop.moved ∨ loop.call.posts = some request ∨
    loop.call.stores = some request ∨ loop.call.cancels = some request

/-- How far a loop is with its own queue. -/
structure PoolLoop.Drained {τ ω ℓ : Type} (loop : PoolLoop τ ω ℓ) : Prop where
  moved : loop.draining = false → loop.moved = []
  done : loop.call.InWorkDone → loop.draining = false
  async : loop.wq ≠ [] → loop.wqAsync = true ∨ loop.call.InWorkDone

namespace WorkerPool

variable {τ ω ℓ : Type} [DecidableEq τ] [DecidableEq ω] [DecidableEq ℓ]
  {pool next : WorkerPool τ ω ℓ} {place : ω → Option (WorkPlace τ)} {woken : Option τ}
  {thread : τ} {name : ℓ}

section Fields

variable {β : Type}

omit [DecidableEq ω] [DecidableEq ℓ] in
/-- A worker that goes on leaves the others, and what its new place has in common with the
old one. -/
theorem setWorker_same (there : WorkerPlace ω) (field : WorkerPlace ω → β)
    (same : field there = field (pool.worker thread)) (other : τ) :
    field ((pool.setWorker thread there).worker other) = field (pool.worker other) :=
  update_same field same other

omit [DecidableEq τ] [DecidableEq ℓ] in
/-- A request that is written leaves the others, and what it has in common with the old one. -/
theorem setWork_same {request : ω} (work : UvWork ℓ) (field : UvWork ℓ → β)
    (same : field work = field (pool.work request)) (other : ω) :
    field ((pool.setWork request work).work other) = field (pool.work other) :=
  update_same field same other

omit [DecidableEq τ] [DecidableEq ω] in
/-- A loop that goes on leaves the others, and what it has in common with the old one. -/
theorem setLoop_same (loop : PoolLoop τ ω ℓ) (field : PoolLoop τ ω ℓ → β)
    (same : field loop = field (pool.loop name)) (other : ℓ) :
    field ((pool.setLoop name loop).loop other) = field (pool.loop other) :=
  update_same field same other

omit [DecidableEq τ] [DecidableEq ω] [DecidableEq ℓ] in
/-- The worker that a signal wakes waits for it. -/
theorem Wakes.waiting (wakes : pool.Wakes woken) {other : τ} (same : woken = some other) :
    pool.worker other = .wait := by
  rw [same] at wakes
  exact wakes

omit [DecidableEq τ] [DecidableEq ω] [DecidableEq ℓ] in
/-- A worker that does not wait is not woken. -/
theorem Wakes.apart (wakes : pool.Wakes woken) (goes : pool.worker thread ≠ .wait) :
    woken ≠ some thread :=
  fun same => goes (wakes.waiting same)

omit [DecidableEq ω] [DecidableEq ℓ] in
/-- A worker that is woken comes to the mutex. -/
theorem signal_some (thread : τ) : pool.signal (some thread) = pool.setWorker thread .wake := by
  rw [signal, setWorker]
  congr 1
  funext other
  rw [Function.update_apply]
  by_cases same : other = thread
  · rw [if_pos (congrArg some same.symm), if_pos same]
  · rw [if_neg fun woke => same (Option.some.inj woke).symm, if_neg same]

omit [DecidableEq ω] [DecidableEq ℓ] in
/-- The others are not moved by a signal. -/
theorem signal_apart (apart : woken ≠ some thread) :
    (pool.signal woken).worker thread = pool.worker thread := by
  simp only [signal, if_neg apart]

omit [DecidableEq ω] [DecidableEq ℓ] in
/-- The worker that signals another goes on without regard to it. -/
theorem setWorker_signal (there : WorkerPlace ω) (apart : woken ≠ some thread) :
    (pool.setWorker thread there).signal woken = (pool.signal woken).setWorker thread there := by
  simp only [signal, setWorker]
  congr 1
  funext other
  by_cases own : other = thread
  · rw [own, if_neg apart, Function.update_self, Function.update_self]
  · rw [Function.update_of_ne own, Function.update_of_ne own]

omit [DecidableEq ω] [DecidableEq ℓ] in
/-- A signal changes nothing that waiting and waking have in common. -/
theorem signal_same (field : WorkerPlace ω → β) (alike : field .wake = field .wait)
    (waiting : ∀ other, woken = some other → pool.worker other = .wait) (other : τ) :
    field ((pool.signal woken).worker other) = field (pool.worker other) := by
  simp only [signal]
  by_cases same : woken = some other
  · rw [if_pos same, waiting other same, alike]
  · rw [if_neg same]

omit [DecidableEq ω] [DecidableEq ℓ] in
/-- Neither does `post`. -/
theorem post_same (field : WorkerPlace ω → β) (alike : field .wake = field .wait)
    (wakes : pool.Wakes woken) (message : Message ω) (other : τ) :
    field ((pool.post message woken).worker other) = field (pool.worker other) := by
  rw [post]
  refine signal_same field alike (fun woke same => ?_) other
  by_cases idle : 0 < pool.idleThreads
  · exact wakes.waiting ((if_pos idle).symm.trans same)
  · cases (if_neg idle).symm.trans same

end Fields

/-- The request is in the place. -/
def Holds (pool : WorkerPool τ ω ℓ) : WorkPlace τ → ω → Prop
  | .posting, request => ∃ name, (pool.loop name).call.posts = some request
  | .queued, request => .work request ∈ pool.wq
  | .taken thread, request => (pool.worker thread).takes = some request
  | .executing thread, request => (pool.worker thread).executes = some request
  | .finished, request => ∃ name, request ∈ (pool.loop name).wq
  | .moved, request => ∃ name, request ∈ (pool.loop name).moved
  | .cancelling, request => ∃ name, (pool.loop name).call.stores = some request

/-- The fields of a request and the reports about it are what they are in the place. -/
def Told (pool : WorkerPool τ ω ℓ) (request : ω) : Option (WorkPlace τ) → Prop
  | none => lifeOf pool.events request = some .free
  | some held => held.Fits (pool.work request) ∧
      held.Lived (pool.work request).work (lifeOf pool.events request)

/-- Each request in use is in one place, and its loop is the only one that has it. -/
structure Placed (pool : WorkerPool τ ω ℓ) (place : ω → Option (WorkPlace τ)) : Prop where
  located : Located pool.Holds place
  inUse : ∀ request, request ∈ pool.inUse ↔ place request ≠ none
  own : ∀ name request, (pool.loop name).Has request → (pool.work request).loop = name
  asked : ∀ name request, (pool.loop name).call.cancels = some request → request ∈ pool.inUse
  told : ∀ request, pool.Told request (place request)
  once : pool.wq.Nodup
  onceFinished : ∀ name, (pool.loop name).wq.Nodup
  onceMoved : ∀ name, (pool.loop name).moved.Nodup

section Reading

omit [DecidableEq τ] [DecidableEq ℓ]

/-- The fields of a request in a place. -/
theorem Placed.fits (placed : pool.Placed place) {request : ω} {held : WorkPlace τ}
    (here : place request = some held) : held.Fits (pool.work request) := by
  have told := placed.told request
  rw [here] at told
  exact told.1

/-- The reports about a request in a place. -/
theorem Placed.lived (placed : pool.Placed place) {request : ω} {held : WorkPlace τ}
    (here : place request = some held) :
    held.Lived (pool.work request).work (lifeOf pool.events request) := by
  have told := placed.told request
  rw [here] at told
  exact told.2

/-- The reports about a request in no place. -/
theorem Placed.free (placed : pool.Placed place) {request : ω} (here : place request = none) :
    lifeOf pool.events request = some .free := by
  have told := placed.told request
  rw [here] at told
  exact told

/-- A request in some place is in use. -/
theorem Placed.used (placed : pool.Placed place) {request : ω} {held : WorkPlace τ}
    (here : place request = some held) : request ∈ pool.inUse := by
  rw [placed.inUse, here]
  exact Option.some_ne_none held

/-- A request that a worker is about to call has been taken by it. -/
theorem Placed.taken (placed : pool.Placed place) {request : ω}
    (here : (pool.worker thread).takes = some request) :
    place request = some (.taken thread) := (placed.located _ _).mp here

/-- A request that a worker has called is executed by it. -/
theorem Placed.executing (placed : pool.Placed place) {request : ω}
    (here : (pool.worker thread).executes = some request) :
    place request = some (.executing thread) := (placed.located _ _).mp here

/-- A request that the thread of a loop posts belongs to the loop. -/
theorem Placed.posting (placed : pool.Placed place) {request : ω}
    (here : (pool.loop name).call.posts = some request) :
    place request = some .posting ∧ (pool.work request).loop = name :=
  ⟨(placed.located _ _).mp ⟨name, here⟩, placed.own name request (by simp [PoolLoop.Has, here])⟩

/-- So does one that it stores behind its cancellation. -/
theorem Placed.cancelling (placed : pool.Placed place) {request : ω}
    (here : (pool.loop name).call.stores = some request) :
    place request = some .cancelling ∧ (pool.work request).loop = name :=
  ⟨(placed.located _ _).mp ⟨name, here⟩, placed.own name request (by simp [PoolLoop.Has, here])⟩

/-- So does one in its local queue. -/
theorem Placed.moved (placed : pool.Placed place) {request : ω}
    (member : request ∈ (pool.loop name).moved) :
    place request = some .moved ∧ (pool.work request).loop = name :=
  ⟨(placed.located _ _).mp ⟨name, member⟩, placed.own name request (by simp [PoolLoop.Has, member])⟩

/-- So does one that it has been asked to cancel. -/
theorem Placed.cancels (placed : pool.Placed place) {request : ω}
    (here : (pool.loop name).call.cancels = some request) :
    place request ≠ none ∧ (pool.work request).loop = name :=
  ⟨(placed.inUse request).mp (placed.asked name request here),
    placed.own name request (by simp [PoolLoop.Has, here])⟩

end Reading

/-- Nothing has changed that tells where the requests are. -/
structure Alike (pool next : WorkerPool τ ω ℓ) : Prop where
  inUse : next.inUse = pool.inUse
  wq : next.wq = pool.wq
  work : next.work = pool.work
  events : next.events = pool.events
  takes : ∀ thread, (next.worker thread).takes = (pool.worker thread).takes
  executes : ∀ thread, (next.worker thread).executes = (pool.worker thread).executes
  finished : ∀ name, (next.loop name).wq = (pool.loop name).wq
  moved : ∀ name, (next.loop name).moved = (pool.loop name).moved
  posts : ∀ name, (next.loop name).call.posts = (pool.loop name).call.posts
  cancels : ∀ name, (next.loop name).call.cancels = (pool.loop name).call.cancels
  stores : ∀ name, (next.loop name).call.stores = (pool.loop name).call.stores

section Quiet

omit [DecidableEq τ] [DecidableEq ω] [DecidableEq ℓ] in
/-- One step after the other. -/
theorem Alike.trans {last : WorkerPool τ ω ℓ} (first : pool.Alike next)
    (second : next.Alike last) : pool.Alike last where
  inUse := second.inUse.trans first.inUse
  wq := second.wq.trans first.wq
  work := second.work.trans first.work
  events := second.events.trans first.events
  takes thread := (second.takes thread).trans (first.takes thread)
  executes thread := (second.executes thread).trans (first.executes thread)
  finished name := (second.finished name).trans (first.finished name)
  moved name := (second.moved name).trans (first.moved name)
  posts name := (second.posts name).trans (first.posts name)
  cancels name := (second.cancels name).trans (first.cancels name)
  stores name := (second.stores name).trans (first.stores name)

omit [DecidableEq τ] [DecidableEq ω] [DecidableEq ℓ] in
/-- No request depends on the global mutex, on the number of idle threads or on the end of
the process. -/
theorem Alike.aside (mutex : Option (PoolThread τ ℓ)) (idleThreads : Nat)
    (cleanup : CleanupPlace) : pool.Alike { pool with
      mutex := mutex, idleThreads := idleThreads, cleanup := cleanup } :=
  ⟨rfl, rfl, rfl, rfl, fun _ => rfl, fun _ => rfl, fun _ => rfl, fun _ => rfl, fun _ => rfl,
    fun _ => rfl, fun _ => rfl⟩

omit [DecidableEq ω] [DecidableEq ℓ] in
/-- A worker goes on with the same request, or without one. -/
theorem Alike.worker {here there : WorkerPlace ω} (at_here : pool.worker thread = here)
    (takes : there.takes = here.takes) (executes : there.executes = here.executes) :
    pool.Alike (pool.setWorker thread there) := by
  subst at_here
  exact ⟨rfl, rfl, rfl, rfl, setWorker_same there WorkerPlace.takes takes,
    setWorker_same there WorkerPlace.executes executes, fun _ => rfl, fun _ => rfl, fun _ => rfl,
    fun _ => rfl, fun _ => rfl⟩

omit [DecidableEq ω] [DecidableEq ℓ] in
/-- A worker that waits is woken. -/
theorem Alike.signal (waiting : ∀ other, woken = some other → pool.worker other = .wait) :
    pool.Alike (pool.signal woken) :=
  ⟨rfl, rfl, rfl, rfl, signal_same WorkerPlace.takes rfl waiting,
    signal_same WorkerPlace.executes rfl waiting, fun _ => rfl, fun _ => rfl, fun _ => rfl,
    fun _ => rfl, fun _ => rfl⟩

omit [DecidableEq τ] [DecidableEq ω] in
/-- A loop keeps its queues, and its thread goes on with the same request or without one. -/
theorem Alike.loop {loop : PoolLoop τ ω ℓ} (finished : loop.wq = (pool.loop name).wq)
    (moved : loop.moved = (pool.loop name).moved)
    (posts : loop.call.posts = (pool.loop name).call.posts)
    (cancels : loop.call.cancels = (pool.loop name).call.cancels)
    (stores : loop.call.stores = (pool.loop name).call.stores) :
    pool.Alike (pool.setLoop name loop) :=
  ⟨rfl, rfl, rfl, rfl, fun _ => rfl, fun _ => rfl, setLoop_same loop PoolLoop.wq finished,
    setLoop_same loop PoolLoop.moved moved,
    setLoop_same loop (fun loop : PoolLoop τ ω ℓ => loop.call.posts) posts,
    setLoop_same loop (fun loop : PoolLoop τ ω ℓ => loop.call.cancels) cancels,
    setLoop_same loop (fun loop : PoolLoop τ ω ℓ => loop.call.stores) stores⟩

omit [DecidableEq τ] [DecidableEq ω] in
/-- The thread of a loop goes on with the same request, or without one. -/
theorem Alike.call {here there : LoopCall ω} (at_here : (pool.loop name).call = here)
    (posts : there.posts = here.posts) (cancels : there.cancels = here.cancels)
    (stores : there.stores = here.stores) : pool.Alike (pool.setCall name there) := by
  subst at_here
  exact .loop rfl rfl posts cancels stores

omit [DecidableEq τ] [DecidableEq ω] in
/-- No request depends on the mutex of a loop. -/
theorem Alike.wqMutex (name : ℓ) (owner : Option (PoolThread τ ℓ)) :
    pool.Alike (pool.setWqMutex name owner) :=
  .loop rfl rfl rfl rfl rfl

omit [DecidableEq τ] [DecidableEq ω] [DecidableEq ℓ] in
/-- A loop has what it had, with the same queues and the same request of its thread. -/
theorem Alike.has (alike : pool.Alike next) {request : ω} :
    (next.loop name).Has request ↔ (pool.loop name).Has request := by
  rw [PoolLoop.Has, alike.finished, alike.moved, alike.posts, alike.stores, alike.cancels]
  exact Iff.rfl

omit [DecidableEq τ] [DecidableEq ω] [DecidableEq ℓ] in
/-- The places hold what they held. -/
theorem Alike.holds (alike : pool.Alike next) (somewhere : WorkPlace τ) (request : ω) :
    next.Holds somewhere request ↔ pool.Holds somewhere request := by
  cases somewhere with
  | posting => exact exists_congr fun name => by rw [alike.posts]
  | queued => exact iff_of_eq (congrArg (Message.work request ∈ ·) alike.wq)
  | taken thread => exact iff_of_eq (congrArg (· = some request) (alike.takes thread))
  | executing thread => exact iff_of_eq (congrArg (· = some request) (alike.executes thread))
  | finished => exact exists_congr fun name => by rw [alike.finished]
  | moved => exact exists_congr fun name => by rw [alike.moved]
  | cancelling => exact exists_congr fun name => by rw [alike.stores]

omit [DecidableEq τ] [DecidableEq ℓ] in
/-- The requests stay where they are. Nothing that the description of their places speaks of has
changed. -/
theorem Placed.quiet (placed : pool.Placed place) (alike : pool.Alike next) :
    next.Placed place where
  located := placed.located.stay alike.holds
  inUse := by
    rw [alike.inUse]
    exact placed.inUse
  own name request has := by
    rw [alike.work]
    exact placed.own name request (alike.has.mp has)
  asked name request cancels := by
    rw [alike.inUse]
    exact placed.asked name request ((alike.cancels name).symm.trans cancels)
  told request := by
    have told := placed.told request
    cases here : place request with
    | none =>
      rw [here] at told
      rw [Told, alike.events]
      exact told
    | some held =>
      rw [here] at told
      rw [Told, alike.events, alike.work]
      exact told
  once := by
    rw [alike.wq]
    exact placed.once
  onceFinished name := by
    rw [alike.finished]
    exact placed.onceFinished name
  onceMoved name := by
    rw [alike.moved]
    exact placed.onceMoved name

end Quiet

section Reports

omit [DecidableEq τ] [DecidableEq ℓ]

/-- What is told about a request depends on its fields and on the reports about it. -/
theorem Told.congr {request : ω} {held : Option (WorkPlace τ)} (told : pool.Told request held)
    (work : next.work request = pool.work request)
    (life : lifeOf next.events request = lifeOf pool.events request) : next.Told request held := by
  cases held with
  | none =>
    rw [Told, life]
    exact told
  | some held =>
    rw [Told, life, work]
    exact told

/-- A step with one request leaves what is told about the others. -/
theorem Placed.told_update (placed : pool.Placed place) {request : ω}
    {target : Option (WorkPlace τ)} (told : next.Told request target)
    (work : ∀ other, other ≠ request → next.work other = pool.work other)
    (life : ∀ other, other ≠ request → lifeOf next.events other = lifeOf pool.events other)
    (other : ω) : next.Told other (Function.update place request target other) := by
  by_cases own : other = request
  · rw [own, Function.update_self]
    exact told
  · rw [Function.update_of_ne own]
    exact (placed.told other).congr (work other own) (life other own)

/-- A request that goes from one place to another is in use before and after. -/
theorem Placed.inUse_update (placed : pool.Placed place) {request : ω} {source : WorkPlace τ}
    (held : place request = some source) (target : WorkPlace τ) (other : ω) :
    other ∈ pool.inUse ↔ Function.update place request (some target) other ≠ none := by
  by_cases own : other = request
  · rw [own, Function.update_self]
    exact iff_of_true (placed.used held) (Option.some_ne_none target)
  · rw [Function.update_of_ne own]
    exact placed.inUse other

/-- A report is about its own request only. -/
theorem lifeOf_other {events : List (PoolEvent ω)} {event : PoolEvent ω} {request : ω}
    (about : event.request = request) (other : ω) (different : other ≠ request) :
    lifeOf (events ++ [event]) other = lifeOf events other := by
  rw [lifeOf_append, if_neg fun same => different (same.symm.trans about)]

/-- A report takes the life of its request on. -/
theorem lifeOf_own {events : List (PoolEvent ω)} {event : PoolEvent ω} {request : ω}
    (about : event.request = request) :
    lifeOf (events ++ [event]) request = (lifeOf events request).bind (·.after event) := by
  rw [lifeOf_append, if_pos about]

end Reports

section Places

variable {somewhere : WorkPlace τ} {request : ω}

omit [DecidableEq ω] [DecidableEq ℓ] in
/-- A worker that goes on changes the places that are its own. -/
theorem setWorker_holds {there : WorkerPlace ω}
    (takes : somewhere = .taken thread → there.takes = (pool.worker thread).takes)
    (executes : somewhere = .executing thread → there.executes = (pool.worker thread).executes)
    (other : ω) : (pool.setWorker thread there).Holds somewhere other ↔
      pool.Holds somewhere other := by
  cases somewhere with
  | taken someone =>
    change (Function.update pool.worker thread there someone).takes = some other ↔ _
    by_cases own : someone = thread
    · rw [own, Function.update_self, takes (congrArg WorkPlace.taken own)]
      exact Iff.rfl
    · rw [Function.update_of_ne own]
      exact Iff.rfl
  | executing someone =>
    change (Function.update pool.worker thread there someone).executes = some other ↔ _
    by_cases own : someone = thread
    · rw [own, Function.update_self, executes (congrArg WorkPlace.executing own)]
      exact Iff.rfl
    · rw [Function.update_of_ne own]
      exact Iff.rfl
  | _ => exact Iff.rfl

omit [DecidableEq ω] [DecidableEq ℓ] in
/-- The request that the worker has not called is in its hands. -/
theorem setWorker_taken (there : WorkerPlace ω) (other : ω) :
    (pool.setWorker thread there).Holds (.taken thread) other ↔ there.takes = some other := by
  change (Function.update pool.worker thread there thread).takes = some other ↔ _
  rw [Function.update_self]

omit [DecidableEq ω] [DecidableEq ℓ] in
/-- So is the request that it has called. -/
theorem setWorker_executing (there : WorkerPlace ω) (other : ω) :
    (pool.setWorker thread there).Holds (.executing thread) other ↔
      there.executes = some other := by
  change (Function.update pool.worker thread there thread).executes = some other ↔ _
  rw [Function.update_self]

omit [DecidableEq τ] [DecidableEq ω] in
/-- The thread of a loop that goes on changes the places that are its own. -/
theorem setCall_holds {there : LoopCall ω}
    (posts : somewhere = .posting → there.posts = (pool.loop name).call.posts)
    (stores : somewhere = .cancelling → there.stores = (pool.loop name).call.stores)
    (other : ω) : (pool.setCall name there).Holds somewhere other ↔
      pool.Holds somewhere other := by
  cases somewhere with
  | posting =>
    exact exists_update_stay (fun loop : PoolLoop τ ω ℓ => (loop.call.posts = some ·))
      (fun _ => by rw [posts rfl]) other
  | cancelling =>
    exact exists_update_stay (fun loop : PoolLoop τ ω ℓ => (loop.call.stores = some ·))
      (fun _ => by rw [stores rfl]) other
  | finished =>
    exact exists_update_stay (fun loop : PoolLoop τ ω ℓ => (· ∈ loop.wq)) (fun _ => by rfl) other
  | moved =>
    exact exists_update_stay (fun loop : PoolLoop τ ω ℓ => (· ∈ loop.moved)) (fun _ => by rfl) other
  | _ => exact Iff.rfl

omit [DecidableEq τ] in
/-- A finished request is put into the queue of the loop. -/
theorem insertDone_finished (other : ω) :
    (pool.insertDone name request).Holds .finished other ↔
      other = request ∨ pool.Holds .finished other := by
  exact exists_update_put (· = request) (fun loop : PoolLoop τ ω ℓ => (· ∈ loop.wq))
    (fun other => by exact mem_append_singleton_iff other) other

omit [DecidableEq τ] in
/-- Nothing else changes its place then. -/
theorem insertDone_holds (notFinished : somewhere ≠ .finished) (other : ω) :
    (pool.insertDone name request).Holds somewhere other ↔ pool.Holds somewhere other := by
  cases somewhere with
  | posting =>
    exact exists_update_stay (fun loop : PoolLoop τ ω ℓ => (loop.call.posts = some ·))
      (fun _ => by rfl) other
  | cancelling =>
    exact exists_update_stay (fun loop : PoolLoop τ ω ℓ => (loop.call.stores = some ·))
      (fun _ => by rfl) other
  | moved =>
    exact exists_update_stay (fun loop : PoolLoop τ ω ℓ => (· ∈ loop.moved)) (fun _ => by rfl) other
  | finished => exact absurd rfl notFinished
  | _ => exact Iff.rfl

omit [DecidableEq τ] [DecidableEq ℓ] in
/-- A request that is written has what is written. -/
theorem setWork_self (work : UvWork ℓ) : (pool.setWork request work).work request = work := by
  simp only [setWork, Function.update_self]

omit [DecidableEq τ] [DecidableEq ℓ] in
/-- The other requests have what they had. -/
theorem setWork_other {other : ω} (different : other ≠ request) (work : UvWork ℓ) :
    (pool.setWork request work).work other = pool.work other := by
  simp only [setWork, Function.update_of_ne different]

omit [DecidableEq τ] in
/-- The request is linked into a queue then. -/
theorem insertDone_self :
    (pool.insertDone name request).work request = { pool.work request with empty := false } :=
  setWork_self _

omit [DecidableEq τ] in
/-- The fields of the others stay. -/
theorem insertDone_other {other : ω} (different : other ≠ request) :
    (pool.insertDone name request).work other = pool.work other :=
  setWork_other different _

omit [DecidableEq τ] in
/-- No request changes its loop. -/
theorem insertDone_loop (other : ω) :
    ((pool.insertDone name request).work other).loop = (pool.work other).loop :=
  setWork_same { pool.work request with empty := false } UvWork.loop rfl other

omit [DecidableEq τ] in
/-- The local queue of the loop and the call its thread is in stay as well. -/
theorem insertDone_same {β : Type} (field : PoolLoop τ ω ℓ → β)
    (same : ∀ (loop : PoolLoop τ ω ℓ) (wq : List ω) (wqAsync : Bool),
      field { loop with wq := wq, wqAsync := wqAsync } = field loop) (other : ℓ) :
    field ((pool.insertDone name request).loop other) = field (pool.loop other) :=
  setLoop_same _ field (same (pool.loop name) _ _) other

omit [DecidableEq τ] in
/-- The loop has what it had, and the request that is put into its queue. -/
theorem insertDone_has (name' : ℓ) {other : ω}
    (has : ((pool.insertDone name request).loop name').Has other) :
    (pool.loop name').Has other ∨ name' = name ∧ other = request := by
  change (Function.update pool.loop name _ name').Has other at has
  by_cases own : name' = name
  · rw [own, Function.update_self] at has
    rcases has with finished | has
    · rcases (mem_append_singleton_iff other).mp finished with same | member
      · exact Or.inr ⟨own, same⟩
      · exact Or.inl (own ▸ Or.inl member)
    · exact Or.inl (own ▸ Or.inr has)
  · rw [Function.update_of_ne own] at has
    exact Or.inl has

omit [DecidableEq τ] in
/-- The queues of the loops stay without repetitions. -/
theorem insertDone_nodup (once : ∀ name, (pool.loop name).wq.Nodup)
    (absent : request ∉ (pool.loop name).wq) (name' : ℓ) :
    ((pool.insertDone name request).loop name').wq.Nodup := by
  change (Function.update pool.loop name _ name').wq.Nodup
  by_cases own : name' = name
  · rw [own, Function.update_self]
    exact nodup_append_singleton (once name) absent
  · rw [Function.update_of_ne own]
    exact once name'

omit [DecidableEq τ] [DecidableEq ω] in
/-- A thread that goes on changes nothing of its loop but the call it is in. -/
theorem setCall_same {β : Type} {there : LoopCall ω} (field : PoolLoop τ ω ℓ → β)
    (same : ∀ (loop : PoolLoop τ ω ℓ) (call : LoopCall ω),
      field { loop with call := call } = field loop) (other : ℓ) :
    field ((pool.setCall name there).loop other) = field (pool.loop other) :=
  setLoop_same _ field (same (pool.loop name) there) other

omit [DecidableEq τ] [DecidableEq ω] in
/-- A mutex that changes hands changes nothing else of its loop. -/
theorem setWqMutex_same {β : Type} {owner : Option (PoolThread τ ℓ)} (field : PoolLoop τ ω ℓ → β)
    (same : ∀ (loop : PoolLoop τ ω ℓ) (owner : Option (PoolThread τ ℓ)),
      field { loop with wqMutex := owner } = field loop) (other : ℓ) :
    field ((pool.setWqMutex name owner).loop other) = field (pool.loop other) :=
  setLoop_same _ field (same (pool.loop name) owner) other

omit [DecidableEq τ] [DecidableEq ω] in
/-- In particular the queues of the loops stay without repetitions. -/
theorem setCall_nodup {there : LoopCall ω} (queue : PoolLoop τ ω ℓ → List ω)
    (same : ∀ (loop : PoolLoop τ ω ℓ) (call : LoopCall ω),
      queue { loop with call := call } = queue loop)
    (once : ∀ name, (queue (pool.loop name)).Nodup) (other : ℓ) :
    (queue ((pool.setCall name there).loop other)).Nodup := by
  rw [setCall_same queue same]
  exact once other

omit [DecidableEq τ] [DecidableEq ω] in
/-- The thread of a loop is done with a request. -/
theorem setCall_take {there : LoopCall ω} (part : LoopCall ω → Option ω)
    (here : part (pool.loop name).call = some request) (gone : part there = none)
    (only : ∀ owner, part (pool.loop owner).call = some request → owner = name) (other : ω) :
    (∃ owner, part ((pool.setCall name there).loop owner).call = some other) ↔
      (∃ owner, part (pool.loop owner).call = some other) ∧ other ≠ request := by
  refine exists_update_take (· = request)
    (fun (loop : PoolLoop τ ω ℓ) other => part loop.call = some other) ?_ ?_ other
  · rintro other owner rfl has
    exact only owner has
  · intro other
    change part there = some other ↔ part (pool.loop name).call = some other ∧ ¬ other = request
    rw [here, gone]
    exact iff_of_false (by simp) fun still => still.2 (Option.some.inj still.1).symm

omit [DecidableEq τ] [DecidableEq ω] in
/-- The thread of a loop begins with a request. -/
theorem setCall_put {there : LoopCall ω} (part : LoopCall ω → Option ω)
    (vacant : part (pool.loop name).call = none) (gets : part there = some request) (other : ω) :
    (∃ owner, part ((pool.setCall name there).loop owner).call = some other) ↔
      other = request ∨ ∃ owner, part (pool.loop owner).call = some other := by
  refine exists_update_put (· = request)
    (fun (loop : PoolLoop τ ω ℓ) other => part loop.call = some other) ?_ other
  intro other
  change part there = some other ↔ other = request ∨ part (pool.loop name).call = some other
  rw [vacant, gets, Option.some_inj]
  simp [eq_comm]

omit [DecidableEq τ] [DecidableEq ω] in
/-- A loop has what it had, but for the request that its thread is busy with. -/
theorem setCall_has {there : LoopCall ω} (name' : ℓ) {other : ω}
    (has : ((pool.setCall name there).loop name').Has other) :
    (pool.loop name').Has other ∨ name' = name ∧ (there.posts = some other ∨
      there.stores = some other ∨ there.cancels = some other) := by
  change (Function.update pool.loop name _ name').Has other at has
  by_cases own : name' = name
  · rw [own, Function.update_self] at has
    rcases has with finished | moved | busy
    · exact Or.inl (own ▸ Or.inl finished)
    · exact Or.inl (own ▸ Or.inr (Or.inl moved))
    · exact Or.inr ⟨own, busy⟩
  · rw [Function.update_of_ne own] at has
    exact Or.inl has

omit [DecidableEq τ] [DecidableEq ω] in
/-- A thread that is asked for a request now was before, or has just been asked. -/
theorem setCall_cancels {there : LoopCall ω} (name' : ℓ) {other : ω}
    (cancels : ((pool.setCall name there).loop name').call.cancels = some other) :
    (pool.loop name').call.cancels = some other ∨ there.cancels = some other := by
  change (Function.update pool.loop name _ name').call.cancels = some other at cancels
  by_cases own : name' = name
  · rw [own, Function.update_self] at cancels
    exact Or.inr cancels
  · rw [Function.update_of_ne own] at cancels
    exact Or.inl cancels

omit [DecidableEq ω] [DecidableEq ℓ] in
/-- A message is posted: it is in the queue, -/
theorem post_queued (woken : Option τ) (message : Message ω) (other : ω) :
    (pool.post message woken).Holds .queued other ↔
      .work other = message ∨ pool.Holds .queued other :=
  mem_append_singleton_iff (Message.work other)

omit [DecidableEq ω] [DecidableEq ℓ] in
/-- and nothing else changes its place. -/
theorem post_holds (wakes : pool.Wakes woken) (message : Message ω)
    (notQueued : somewhere ≠ .queued) (other : ω) :
    (pool.post message woken).Holds somewhere other ↔ pool.Holds somewhere other := by
  cases somewhere with
  | taken someone =>
    have same := post_same WorkerPlace.takes rfl wakes message someone
    exact iff_of_eq (congrArg (· = some other) same)
  | executing someone =>
    have same := post_same WorkerPlace.executes rfl wakes message someone
    exact iff_of_eq (congrArg (· = some other) same)
  | queued => exact absurd rfl notQueued
  | _ => exact Iff.rfl

end Places

end WorkerPool

end MoeUV
