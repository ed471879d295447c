import MoeUV.Foundation.Exclusion
import MoeUV.Work.WorkerMoves

/-!
# The mutexes of the thread pool

Each mutex belongs to the thread that is between its lock and its unlock, so a place of
a thread tells which mutexes it has. No worker ever has both. A thread that waits for a
mutex is not alone: the owner of the mutex goes on, or waits for the mutex of a loop,
whose owner goes on.
-/

namespace MoeUV

open Foundation.Exclusion

/-- The request that the worker stores, with the mutex of its loop. -/
def WorkerPlace.stores {ω : Type} : WorkerPlace ω → Option ω
  | .store request => some request
  | _ => none

/-- Between the lock and the unlock of the global mutex. -/
def LoopCall.InMutex {ω : Type} : LoopCall ω → Prop
  | .post _ | .lockCancelLoop _ | .cancel _ => True
  | _ => False

/-- Between the lock and the unlock of the mutex of the loop. -/
def LoopCall.InWqMutex {ω : Type} : LoopCall ω → Prop
  | .cancel _ | .storeCancelled _ | .moveDone => True
  | _ => False

namespace WorkerPool

variable {τ ω ℓ : Type} [DecidableEq τ] [DecidableEq ω] [DecidableEq ℓ]
  {pool next : WorkerPool τ ω ℓ} {woken : Option τ} {thread : τ} {name : ℓ}
  {place : ω → Option (WorkPlace τ)} {mover : PoolThread τ ℓ}

/-- A thread is between the lock and the unlock of the global mutex. -/
def InMutex (pool : WorkerPool τ ω ℓ) : PoolThread τ ℓ → Prop
  | .worker thread => pool.worker thread = .check
  | .loop name => (pool.loop name).call.InMutex
  | .cleanup => pool.cleanup = .post

/-- A thread is between the lock and the unlock of the mutex of a loop. -/
def InWqMutex (pool : WorkerPool τ ω ℓ) (name : ℓ) : PoolThread τ ℓ → Prop
  | .worker thread => (pool.worker thread).stores.map (fun request => (pool.work request).loop) =
      some name
  | .loop other => other = name ∧ (pool.loop name).call.InWqMutex
  | .cleanup => False

/-- Each mutex belongs to the thread that is between its lock and its unlock. -/
structure Locked (pool : WorkerPool τ ω ℓ) : Prop where
  mutex : Guards pool.mutex pool.InMutex
  wqMutex : ∀ name, Guards (pool.loop name).wqMutex (pool.InWqMutex name)

/-- The threads but one are where they were, as far as the mutexes go. -/
structure Elsewhere (pool : WorkerPool τ ω ℓ) (mover : PoolThread τ ℓ)
    (next : WorkerPool τ ω ℓ) : Prop where
  mutex : ∀ other, other ≠ mover → (next.InMutex other ↔ pool.InMutex other)
  wqMutex : ∀ name other, other ≠ mover → (next.InWqMutex name other ↔ pool.InWqMutex name other)

section Elsewhere

omit [DecidableEq τ] [DecidableEq ω] [DecidableEq ℓ] in
/-- One step after the other. -/
theorem Elsewhere.trans {last : WorkerPool τ ω ℓ} (first : pool.Elsewhere mover next)
    (second : next.Elsewhere mover last) : pool.Elsewhere mover last :=
  ⟨fun other apart => (second.mutex other apart).trans (first.mutex other apart),
    fun name other apart =>
      (second.wqMutex name other apart).trans (first.wqMutex name other apart)⟩

omit [DecidableEq τ] [DecidableEq ω] [DecidableEq ℓ] in
/-- No thread goes on, whatever is written: it is enough that a request keeps its loop. -/
theorem Elsewhere.quiet (worker : next.worker = pool.worker)
    (call : ∀ name, (next.loop name).call = (pool.loop name).call)
    (cleanup : next.cleanup = pool.cleanup)
    (home : ∀ request, (next.work request).loop = (pool.work request).loop) :
    pool.Elsewhere mover next := by
  constructor
  · intro other _
    cases other with
    | worker thread => rw [InMutex, InMutex, worker]
    | loop name => rw [InMutex, InMutex, call]
    | cleanup => rw [InMutex, InMutex, cleanup]
  · intro name other _
    cases other with
    | worker thread =>
      rw [InWqMutex, InWqMutex, worker, funext home]
    | loop other => rw [InWqMutex, InWqMutex, call]
    | cleanup => exact Iff.rfl

omit [DecidableEq ω] [DecidableEq ℓ] in
/-- One worker goes on. -/
theorem Elsewhere.worker (thread : τ) (there : WorkerPlace ω) :
    pool.Elsewhere (.worker thread) (pool.setWorker thread there) := by
  have apart (other : τ) (away : PoolThread.worker (ℓ := ℓ) other ≠ .worker thread) :
      (pool.setWorker thread there).worker other = pool.worker other := by
    have different : other ≠ thread := fun same => away (congrArg PoolThread.worker same)
    simp only [setWorker, Function.update_of_ne different]
  constructor
  · intro other away
    cases other with
    | worker other => rw [InMutex, InMutex, apart other away]
    | _ => exact Iff.rfl
  · intro name other away
    cases other with
    | worker other =>
      rw [InWqMutex, InWqMutex, apart other away]
      exact Iff.rfl
    | _ => exact Iff.rfl

omit [DecidableEq τ] [DecidableEq ω] in
/-- One loop is written by its thread. -/
theorem Elsewhere.setLoop (name : ℓ) (loop : PoolLoop τ ω ℓ) :
    pool.Elsewhere (.loop name) (pool.setLoop name loop) := by
  have apart (other : ℓ) (away : PoolThread.loop (τ := τ) other ≠ .loop name) :
      (pool.setLoop name loop).loop other = pool.loop other := by
    have different : other ≠ name := fun same => away (congrArg PoolThread.loop same)
    simp only [WorkerPool.setLoop, Function.update_of_ne different]
  constructor
  · intro other away
    cases other with
    | loop other => rw [InMutex, InMutex, apart other away]
    | _ => exact Iff.rfl
  · intro name' other away
    cases other with
    | loop other =>
      refine and_congr_right fun same => ?_
      rw [← same, apart other away]
    | _ => exact Iff.rfl

omit [DecidableEq τ] [DecidableEq ω] in
/-- The thread of one loop goes on. -/
theorem Elsewhere.call (name : ℓ) (there : LoopCall ω) :
    pool.Elsewhere (.loop name) (pool.setCall name there) :=
  .setLoop name { pool.loop name with call := there }

omit [DecidableEq τ] [DecidableEq ω] [DecidableEq ℓ] in
/-- The thread that leaves the process goes on. -/
theorem Elsewhere.cleanup (there : CleanupPlace) (owner : Option (PoolThread τ ℓ)) :
    pool.Elsewhere .cleanup { pool with cleanup := there, mutex := owner } := by
  constructor
  · intro other away
    cases other with
    | cleanup => exact absurd rfl away
    | _ => exact Iff.rfl
  · exact fun _ _ _ => Iff.rfl

omit [DecidableEq τ] [DecidableEq ℓ] in
/-- A request is written, maybe for another loop, that no worker stores. -/
theorem Elsewhere.setWork {request : ω} (work : UvWork ℓ)
    (fresh : ∀ thread, (pool.worker thread).stores ≠ some request) :
    pool.Elsewhere mover (pool.setWork request work) := by
  constructor
  · intro other _
    cases other with
    | _ => exact Iff.rfl
  · intro name other _
    cases other with
    | worker thread =>
      rw [InWqMutex, InWqMutex]
      change (pool.worker thread).stores.map _ = _ ↔ _
      cases stores : (pool.worker thread).stores with
      | none => exact Iff.rfl
      | some stored =>
        have different : stored ≠ request := fun same => fresh thread (stores.trans (by rw [same]))
        simp only [WorkerPool.setWork, Option.map_some, Function.update_of_ne different]
    | _ => exact Iff.rfl

omit [DecidableEq ω] [DecidableEq ℓ] in
/-- A worker that waits is woken, and comes to the mutex. -/
theorem Elsewhere.signal (waiting : ∀ other, woken = some other → pool.worker other = .wait) :
    pool.Elsewhere mover (pool.signal woken) := by
  constructor
  · intro other _
    cases other with
    | worker other =>
      rw [InMutex, InMutex]
      simp only [WorkerPool.signal]
      by_cases same : woken = some other
      · rw [if_pos same, waiting other same]
        exact iff_of_false (by simp) (by simp)
      · rw [if_neg same]
    | _ => exact Iff.rfl
  · intro name other _
    cases other with
    | worker other =>
      rw [InWqMutex, InWqMutex, signal_same WorkerPlace.stores rfl waiting]
      exact Iff.rfl
    | _ => exact Iff.rfl

omit [DecidableEq ω] [DecidableEq ℓ] in
/-- So it is when a message is posted. -/
theorem Elsewhere.post (wakes : pool.Wakes woken) (message : Message ω) :
    pool.Elsewhere mover (pool.post message woken) := by
  have queued : pool.Elsewhere mover { pool with wq := pool.wq ++ [message] } :=
    .quiet rfl (fun _ => rfl) rfl fun _ => rfl
  refine queued.trans (.signal fun other same => ?_)
  by_cases idle : 0 < pool.idleThreads
  · exact wakes.waiting ((if_pos idle).symm.trans same)
  · cases (if_neg idle).symm.trans same

end Elsewhere

section Transitions

variable {owner : Option (PoolThread τ ℓ)}

omit [DecidableEq τ] [DecidableEq ω] [DecidableEq ℓ] in
/-- The global mutex does not change hands. -/
theorem Elsewhere.mutex_stay (elsewhere : pool.Elsewhere mover next)
    (guards : Guards owner pool.InMutex) (inside : next.InMutex mover ↔ pool.InMutex mover) :
    Guards owner next.InMutex := by
  refine guards.stay fun thread => ?_
  by_cases own : thread = mover
  · rw [own]
    exact inside
  · exact elsewhere.mutex thread own

omit [DecidableEq τ] [DecidableEq ω] [DecidableEq ℓ] in
/-- The mutex of a loop does not change hands. -/
theorem Elsewhere.wqMutex_stay (elsewhere : pool.Elsewhere mover next)
    (guards : Guards owner (pool.InWqMutex name))
    (inside : next.InWqMutex name mover ↔ pool.InWqMutex name mover) :
    Guards owner (next.InWqMutex name) := by
  refine guards.stay fun thread => ?_
  by_cases own : thread = mover
  · rw [own]
    exact inside
  · exact elsewhere.wqMutex name thread own

omit [DecidableEq τ] [DecidableEq ω] [DecidableEq ℓ] in
/-- No thread comes to a lock or leaves one, and no mutex changes hands. -/
theorem Locked.quiet (locked : pool.Locked) (elsewhere : pool.Elsewhere .cleanup next)
    (cleanup : next.cleanup = pool.cleanup) (mutex : next.mutex = pool.mutex)
    (wqMutex : ∀ name, (next.loop name).wqMutex = (pool.loop name).wqMutex) : next.Locked := by
  constructor
  · rw [mutex]
    refine elsewhere.mutex_stay locked.mutex ?_
    rw [InMutex, InMutex, cleanup]
  · intro name
    rw [wqMutex]
    exact elsewhere.wqMutex_stay (locked.wqMutex name) Iff.rfl

omit [DecidableEq ω] [DecidableEq ℓ] in
/-- A worker has the global mutex when it looks at the queue. -/
theorem setWorker_inMutex (there : WorkerPlace ω) :
    (pool.setWorker thread there).InMutex (.worker thread) ↔ there = .check := by
  change Function.update pool.worker thread there thread = .check ↔ _
  rw [Function.update_self]

omit [DecidableEq ω] [DecidableEq ℓ] in
/-- A worker has the mutex of the loop whose request it stores. -/
theorem setWorker_inWqMutex (there : WorkerPlace ω) (name : ℓ) :
    (pool.setWorker thread there).InWqMutex name (.worker thread) ↔
      there.stores.map (fun request => (pool.work request).loop) = some name := by
  change (Function.update pool.worker thread there thread).stores.map _ = some name ↔ _
  rw [Function.update_self]
  exact Iff.rfl

omit [DecidableEq ω] [DecidableEq ℓ] in
/-- A worker goes on, and neither before nor behind it stores a request. -/
theorem Locked.worker_aside (locked : pool.Locked) {here there : WorkerPlace ω}
    (at_here : pool.worker thread = here) (before : here.stores = none)
    (behind : there.stores = none) (name : ℓ) :
    Guards (pool.loop name).wqMutex ((pool.setWorker thread there).InWqMutex name) := by
  refine (Elsewhere.worker thread there).wqMutex_stay (locked.wqMutex name) ?_
  rw [setWorker_inWqMutex, InWqMutex, at_here, before, behind]

omit [DecidableEq τ] [DecidableEq ω] in
/-- The mutex of one loop changes hands. -/
theorem setWqMutex_guards {inside : ℓ → PoolThread τ ℓ → Prop} (own : Guards owner (inside name))
    (others : ∀ other, other ≠ name → Guards (pool.loop other).wqMutex (inside other)) (other : ℓ) :
    Guards ((pool.setWqMutex name owner).loop other).wqMutex (inside other) := by
  by_cases same : other = name
  · rw [same]
    simp only [setWqMutex, setLoop, Function.update_self]
    exact own
  · simp only [setWqMutex, setLoop, Function.update_of_ne same]
    exact others other same

omit [DecidableEq τ] [DecidableEq ω] in
/-- No thread goes on when a mutex changes hands. -/
theorem Elsewhere.setWqMutex (name : ℓ) (owner : Option (PoolThread τ ℓ)) :
    pool.Elsewhere mover (pool.setWqMutex name owner) :=
  .quiet rfl (setWqMutex_same PoolLoop.call fun _ _ => rfl) rfl fun _ => rfl

/-- A worker goes from lock to unlock and on to the next. The cases are the places of a worker.
It holds the global mutex where it looks at the queue, and the mutex of a loop where it hands a
request to it. -/
theorem Locked.workerStep (locked : pool.Locked)
    (ready : pool.Ready (.worker thread)) (wakes : pool.Wakes woken)
    (stepped : pool.workerStep thread woken = .ok next) :
    next.Locked := by
  rw [WorkerPool.workerStep] at stepped
  rw [Ready] at ready
  have mutex := locked.mutex
  cases here : pool.worker thread with
  | lock =>
    rw [here] at stepped ready
    cases stepped
    rw [ready] at mutex
    exact ⟨mutex.enter ((setWorker_inMutex .check).mpr rfl) (Elsewhere.worker thread .check).mutex,
      locked.worker_aside here rfl rfl⟩
  | check =>
    rw [here] at stepped
    dsimp only at stepped
    have inside : pool.InMutex (.worker thread) := here
    have outside {there : WorkerPlace ω} (leaves : there ≠ .check) :
        ¬ (pool.setWorker thread there).InMutex (.worker thread) := by
      rw [setWorker_inMutex]
      exact leaves
    split at stepped
    case h_1 wq =>
      cases stepped
      refine ⟨mutex.leave inside ?_ (Elsewhere.worker thread .wait).mutex,
        locked.worker_aside here rfl rfl⟩
      exact outside (by simp)
    case h_2 rest wq =>
      cases stepped
      have waiting (other : τ) (same : woken = some other) :
          (pool.setWorker thread .exited).worker other = .wait := by
        have apart : other ≠ thread := by
          rintro rfl
          exact wakes.apart (by rw [here]; simp) same
        simp only [setWorker, Function.update_of_ne apart]
        exact wakes.waiting same
      have woke : (pool.setWorker thread .exited).Elsewhere .cleanup
          ((pool.setWorker thread .exited).signal woken) := .signal waiting
      have goes : pool.Elsewhere (.worker thread) ((pool.setWorker thread .exited).signal woken) :=
        (Elsewhere.worker thread .exited).trans (.signal waiting)
      refine ⟨mutex.leave inside ?_ goes.mutex, fun name =>
        goes.wqMutex_stay (locked.wqMutex name) ?_⟩
      · exact (woke.mutex (.worker thread) (by simp)).not.mpr (outside (by simp))
      · refine (woke.wqMutex name (.worker thread) (by simp)).trans ?_
        rw [setWorker_inWqMutex, InWqMutex, here]
        exact Iff.rfl
    case h_3 request rest wq =>
      cases stepped
      have called : pool.Elsewhere (.worker thread) ((({ pool with wq := rest }.setWork request
          { pool.work request with empty := true }).setWorker thread (.call request)).setMutex
            none) :=
        (Elsewhere.worker thread (.call request)).trans (.quiet rfl (fun _ => rfl) rfl
          (setWork_same { pool.work request with empty := true } UvWork.loop rfl))
      refine ⟨mutex.leave inside ?_ called.mutex, fun name =>
        called.wqMutex_stay (locked.wqMutex name) ?_⟩
      · exact outside (by simp)
      · refine (setWorker_inWqMutex (.call request) name).trans ?_
        rw [InWqMutex, here]
        exact Iff.rfl
  | wake =>
    rw [here] at stepped ready
    cases stepped
    rw [ready] at mutex
    exact ⟨mutex.enter ((setWorker_inMutex .check).mpr rfl) (Elsewhere.worker thread .check).mutex,
      locked.worker_aside here rfl rfl⟩
  | call request =>
    rw [here] at stepped
    dsimp only at stepped
    split at stepped
    case h_1 function => cases stepped
    case h_2 function => cases stepped
    case h_3 function =>
      cases stepped
      refine ⟨(Elsewhere.worker thread _).mutex_stay mutex ?_, locked.worker_aside here rfl rfl⟩
      rw [setWorker_inMutex, InMutex, here]
      exact iff_of_false (by simp) (by simp)
  | run request =>
    rw [here] at stepped
    cases stepped
    refine ⟨(Elsewhere.worker thread _).mutex_stay mutex ?_, locked.worker_aside here rfl rfl⟩
    rw [setWorker_inMutex, InMutex, here]
    exact iff_of_false (by simp) (by simp)
  | lockStore request =>
    rw [here] at stepped ready
    cases stepped
    have goes : pool.Elsewhere (.worker thread) (pool.setWorker thread (.store request)) :=
      .worker thread (.store request)
    have elsewhere := goes.trans (Elsewhere.setWqMutex (pool.work request).loop
      (some (.worker thread)))
    have free := locked.wqMutex (pool.work request).loop
    rw [ready] at free
    refine ⟨elsewhere.mutex_stay mutex ?_, setWqMutex_guards ?_ fun other apart => ?_⟩
    · refine (setWorker_inMutex (.store request)).trans ?_
      rw [InMutex, here]
      exact iff_of_false (by simp) (by simp)
    · refine free.enter ?_ (elsewhere.wqMutex _)
      exact (setWorker_inWqMutex (.store request) (pool.work request).loop).mpr rfl
    · refine elsewhere.wqMutex_stay (locked.wqMutex other) ?_
      refine (setWorker_inWqMutex (.store request) other).trans ?_
      rw [InWqMutex, here]
      exact iff_of_false (fun same => apart (Option.some.inj same).symm)
        (by simp [WorkerPlace.stores])
  | store request =>
    rw [here] at stepped
    cases stepped
    have stored : pool.Elsewhere (.worker thread) ((pool.setWork request
        { pool.work request with work := .null }).insertDone (pool.work request).loop request) := by
      refine .quiet rfl (insertDone_same PoolLoop.call fun _ _ _ => rfl) rfl fun other => ?_
      exact (insertDone_loop other).trans (setWork_same _ UvWork.loop (by rfl) other)
    have elsewhere := (stored.trans (.worker thread .lock)).trans
      (Elsewhere.setWqMutex (pool.work request).loop none)
    refine ⟨elsewhere.mutex_stay mutex ?_, setWqMutex_guards ?_ fun other apart => ?_⟩
    · refine (setWorker_inMutex .lock).trans ?_
      rw [InMutex, here]
      exact iff_of_false (by simp) (by simp)
    · refine (locked.wqMutex (pool.work request).loop).leave ?_ ?_ (elsewhere.wqMutex _)
      · rw [InWqMutex, here]
        rfl
      · exact (setWorker_inWqMutex .lock (pool.work request).loop).not.mpr
          (by simp [WorkerPlace.stores])
    · change Guards (((pool.setWork request _).insertDone _ request).loop other).wqMutex _
      rw [insertDone_same PoolLoop.wqMutex fun _ _ _ => rfl]
      refine elsewhere.wqMutex_stay (locked.wqMutex other) ?_
      refine (setWorker_inWqMutex .lock other).trans ?_
      rw [InWqMutex, here]
      exact iff_of_false (by simp [WorkerPlace.stores]) fun same =>
        apart (Option.some.inj same).symm
  | wait => rw [here] at ready; cases ready
  | exited => rw [here] at ready; cases ready

omit [DecidableEq τ] [DecidableEq ω] in
/-- The thread of a loop has the global mutex in some of its calls. -/
theorem setCall_inMutex (there : LoopCall ω) :
    (pool.setCall name there).InMutex (.loop name) ↔ there.InMutex := by
  change (Function.update pool.loop name _ name).call.InMutex ↔ _
  rw [Function.update_self]

omit [DecidableEq τ] [DecidableEq ω] in
/-- It has no mutex of a loop but its own. -/
theorem setCall_inWqMutex (there : LoopCall ω) (other : ℓ) :
    (pool.setCall name there).InWqMutex other (.loop name) ↔
      name = other ∧ there.InWqMutex := by
  refine and_congr_right fun same => ?_
  change (Function.update pool.loop name _ other).call.InWqMutex ↔ _
  rw [← same, Function.update_self]

omit [DecidableEq τ] [DecidableEq ω] in
/-- The thread of a loop goes on and takes or leaves the global mutex only. -/
theorem Locked.call_aside (locked : pool.Locked) {here there : LoopCall ω}
    (at_here : (pool.loop name).call = here) (same : there.InWqMutex ↔ here.InWqMutex)
    (other : ℓ) : Guards ((pool.setCall name there).loop other).wqMutex
      ((pool.setCall name there).InWqMutex other) := by
  rw [setCall_same PoolLoop.wqMutex fun _ _ => rfl]
  refine (Elsewhere.call name there).wqMutex_stay (locked.wqMutex other) ?_
  rw [setCall_inWqMutex, InWqMutex]
  refine and_congr_right fun own => ?_
  rw [← own, at_here, same]

omit [DecidableEq τ] [DecidableEq ω] [DecidableEq ℓ] in
/-- The thread of a loop takes the mutex of its loop. -/
theorem Locked.loop_lock (locked : pool.Locked) (elsewhere : pool.Elsewhere (.loop name) next)
    (free : (pool.loop name).wqMutex = none)
    (taken : (next.loop name).wqMutex = some (.loop name))
    (inside : (next.loop name).call.InWqMutex)
    (others : ∀ other, other ≠ name → (next.loop other).wqMutex = (pool.loop other).wqMutex)
    (other : ℓ) : Guards (next.loop other).wqMutex (next.InWqMutex other) := by
  by_cases same : other = name
  · rw [same, taken]
    have guards := locked.wqMutex name
    rw [free] at guards
    exact guards.enter ⟨rfl, inside⟩ (elsewhere.wqMutex name)
  · rw [others other same]
    refine elsewhere.wqMutex_stay (locked.wqMutex other) ?_
    exact iff_of_false (fun held => same held.1.symm) fun held => same held.1.symm

omit [DecidableEq τ] [DecidableEq ω] [DecidableEq ℓ] in
/-- The thread of a loop gives the mutex of its loop back. -/
theorem Locked.loop_unlock (locked : pool.Locked) (elsewhere : pool.Elsewhere (.loop name) next)
    (inside : (pool.loop name).call.InWqMutex) (freed : (next.loop name).wqMutex = none)
    (outside : ¬ (next.loop name).call.InWqMutex)
    (others : ∀ other, other ≠ name → (next.loop other).wqMutex = (pool.loop other).wqMutex)
    (other : ℓ) : Guards (next.loop other).wqMutex (next.InWqMutex other) := by
  by_cases same : other = name
  · rw [same, freed]
    have before : pool.InWqMutex name (.loop name) := ⟨rfl, inside⟩
    exact (locked.wqMutex name).leave before (fun held => outside held.2) (elsewhere.wqMutex name)
  · rw [others other same]
    refine elsewhere.wqMutex_stay (locked.wqMutex other) ?_
    exact iff_of_false (fun held => same held.1.symm) fun held => same held.1.symm

omit [DecidableEq τ] [DecidableEq ω] in
/-- The thread of a loop goes on, and the mutex of its loop changes hands with it. -/
theorem relock_loop (there : LoopCall ω) :
    ((pool.setCall name there).setWqMutex name owner).loop name =
      { pool.loop name with call := there, wqMutex := owner } := by
  simp only [setWqMutex, setCall, setLoop, Function.update_self]

omit [DecidableEq τ] [DecidableEq ω] in
/-- The other loops stay then. -/
theorem relock_other {there : LoopCall ω} {other : ℓ} (apart : other ≠ name) :
    ((pool.setCall name there).setWqMutex name owner).loop other = pool.loop other := by
  simp only [setWqMutex, setCall, setLoop, Function.update_of_ne apart]

omit [DecidableEq τ] [DecidableEq ω] in
/-- The thread of a loop goes on to where it has the mutex of its loop. -/
theorem Locked.lock (locked : pool.Locked) {here there : LoopCall ω}
    (at_here : (pool.loop name).call = here) (free : (pool.loop name).wqMutex = none)
    (same : there.InMutex ↔ here.InMutex) (inside : there.InWqMutex) :
    ((pool.setCall name there).setWqMutex name (some (.loop name))).Locked := by
  have goes : pool.Elsewhere (.loop name)
      ((pool.setCall name there).setWqMutex name (some (.loop name))) :=
    (Elsewhere.call name there).trans (.setWqMutex name _)
  refine ⟨goes.mutex_stay locked.mutex ?_, locked.loop_lock goes free ?_ ?_ fun other apart => ?_⟩
  · rw [InMutex, InMutex, relock_loop, at_here]
    exact same
  · rw [relock_loop]
  · rw [relock_loop]
    exact inside
  · rw [relock_other apart]

omit [DecidableEq τ] [DecidableEq ω] in
/-- The thread of a loop goes on from where it has the mutex of its loop. -/
theorem Locked.unlock (locked : pool.Locked) {here there : LoopCall ω}
    (at_here : (pool.loop name).call = here) (same : there.InMutex ↔ here.InMutex)
    (inside : here.InWqMutex) (outside : ¬ there.InWqMutex) :
    ((pool.setCall name there).setWqMutex name none).Locked := by
  have goes : pool.Elsewhere (.loop name) ((pool.setCall name there).setWqMutex name none) :=
    (Elsewhere.call name there).trans (.setWqMutex name none)
  refine ⟨goes.mutex_stay locked.mutex ?_, locked.loop_unlock goes ?_ ?_ ?_ fun other apart => ?_⟩
  · rw [InMutex, InMutex, relock_loop, at_here]
    exact same
  · rw [at_here]
    exact inside
  · rw [relock_loop]
  · rw [relock_loop]
    exact outside
  · rw [relock_other apart]

omit [DecidableEq τ] [DecidableEq ω] [DecidableEq ℓ] in
/-- The thread of a loop releases both mutexes at the end of `uv__work_cancel`. -/
theorem Locked.release (locked : pool.Locked) {request : ω} {there : LoopCall ω}
    (at_here : (pool.loop name).call = .cancel request)
    (elsewhere : pool.Elsewhere (.loop name) next)
    (call : (next.loop name).call = there) (outside : ¬ there.InMutex ∧ ¬ there.InWqMutex)
    (freed : next.mutex = none) (freed' : (next.loop name).wqMutex = none)
    (others : ∀ other, other ≠ name → (next.loop other).wqMutex = (pool.loop other).wqMutex) :
    next.Locked := by
  have inside : pool.InMutex (.loop name) := by
    rw [InMutex, at_here]
    trivial
  refine ⟨?_, locked.loop_unlock elsewhere ?_ freed' ?_ others⟩
  · rw [freed]
    refine locked.mutex.leave inside ?_ elsewhere.mutex
    rw [InMutex, call]
    exact outside.1
  · rw [at_here]
    trivial
  · rw [call]
    exact outside.2

omit [DecidableEq τ] [DecidableEq ω] [DecidableEq ℓ] in
/-- The thread of a loop goes on, and comes to no lock. -/
theorem Locked.loop_aside (locked : pool.Locked) (elsewhere : pool.Elsewhere (.loop name) next)
    (mutex : next.mutex = pool.mutex)
    (wqMutex : ∀ other, (next.loop other).wqMutex = (pool.loop other).wqMutex)
    (before : (pool.loop name).call = .returned)
    (behind : ¬ (next.loop name).call.InMutex ∧ ¬ (next.loop name).call.InWqMutex) :
    next.Locked := by
  constructor
  · rw [mutex]
    refine elsewhere.mutex_stay locked.mutex (iff_of_false behind.1 ?_)
    rw [InMutex, before]
    exact id
  · intro other
    rw [wqMutex]
    refine elsewhere.wqMutex_stay (locked.wqMutex other) (and_congr_right ?_)
    rintro rfl
    rw [before]
    exact iff_of_false behind.2 id

/-- The thread of a loop goes from lock to unlock. It has both mutexes in `uv__work_cancel`, and
releases them together. -/
theorem Locked.loopStep (locked : pool.Locked) (placed : pool.Placed place)
    (ready : pool.Ready (.loop name)) (wakes : pool.Wakes woken)
    (stepped : pool.loopStep name woken = .ok next) : next.Locked := by
  rw [WorkerPool.loopStep] at stepped
  rw [Ready] at ready
  have mutex := locked.mutex
  cases call : (pool.loop name).call with
  | returned =>
    rw [call] at stepped
    rcases workDonePass_cases stepped with ⟨head, rfl⟩ | ⟨request, rest, head, rfl⟩
    · exact locked.quiet (.quiet rfl (setLoop_same _ PoolLoop.call (by rfl)) rfl fun _ => rfl) rfl
        rfl (setLoop_same _ PoolLoop.wqMutex (by rfl))
    · exact locked.quiet (.quiet rfl (setLoop_same _ PoolLoop.call (by rfl)) rfl fun _ => rfl) rfl
        rfl (setLoop_same _ PoolLoop.wqMutex (by rfl))
  | lockPost request =>
    rw [call] at stepped ready
    cases stepped
    rw [ready] at mutex
    have goes : pool.Elsewhere (.loop name) (pool.setCall name (.post request)) :=
      .call name (.post request)
    exact ⟨mutex.enter ((setCall_inMutex (.post request)).mpr trivial) goes.mutex,
      locked.call_aside call Iff.rfl⟩
  | post request =>
    rw [call] at stepped
    cases stepped
    have written : pool.Elsewhere .cleanup (pool.setWork request { pool.work request with
        empty := false }) :=
      .quiet rfl (fun _ => rfl) rfl (setWork_same _ UvWork.loop (by rfl))
    have wakes' : (pool.setWork request { pool.work request with
        empty := false }).Wakes woken := wakes
    generalize same : (pool.setWork request { pool.work request with
      empty := false }).post (.work request) woken = posted
    have elsewhere : pool.Elsewhere .cleanup posted := by
      rw [← same]
      exact written.trans (.post wakes' _)
    have kept : posted.Locked := by
      refine locked.quiet elsewhere ?_ ?_ fun _ => ?_
      all_goals rw [← same]; rfl
    have call' : (posted.loop name).call = .post request := by
      rw [← same]
      exact call
    have goes : posted.Elsewhere (.loop name) (posted.setCall name .returned) :=
      .call name .returned
    have inside : posted.InMutex (.loop name) := by
      rw [InMutex, call']
      trivial
    refine ⟨kept.mutex.leave inside ?_ goes.mutex, kept.call_aside call' Iff.rfl⟩
    exact (setCall_inMutex .returned).not.mpr id
  | lockCancel request =>
    rw [call] at stepped ready
    cases stepped
    rw [ready] at mutex
    have goes : pool.Elsewhere (.loop name) (pool.setCall name (.lockCancelLoop request)) :=
      .call name (.lockCancelLoop request)
    exact ⟨mutex.enter ((setCall_inMutex (.lockCancelLoop request)).mpr trivial) goes.mutex,
      locked.call_aside call Iff.rfl⟩
  | lockCancelLoop request =>
    have asked : (pool.loop name).call.cancels = some request := by rw [call]; rfl
    rw [call] at stepped ready
    dsimp only at stepped ready
    rw [(placed.cancels asked).2] at stepped ready
    cases stepped
    exact locked.lock call ready Iff.rfl trivial
  | cancel request =>
    have asked : (pool.loop name).call.cancels = some request := by rw [call]; rfl
    have home := (placed.cancels asked).2
    rw [call] at stepped
    dsimp only at stepped
    by_cases cancelled : pool.cancellable request = true
    · have home' : ((pool.queueRemove request).work request).loop = name := home
      rw [if_pos cancelled, if_pos cancelled, home'] at stepped
      cases stepped
      have removed : pool.Elsewhere (.loop name) (pool.queueRemove request) :=
        .quiet rfl (fun _ => rfl) rfl fun _ => rfl
      have written : pool.Elsewhere (.loop name) ((((pool.queueRemove request).setWqMutex name
          none).setMutex none).setWork request { pool.work request with work := .cancelled }) :=
        (removed.trans (.setWqMutex name none)).trans
          (.quiet rfl (fun _ => rfl) rfl (setWork_same _ UvWork.loop (by rfl)))
      have outside : ¬ (LoopCall.lockCancelled request).InMutex ∧
          ¬ (LoopCall.lockCancelled request).InWqMutex := ⟨id, id⟩
      refine locked.release call (written.trans (.call name (.lockCancelled request))) ?_ outside
        rfl ?_ fun other apart => ?_
      · simp only [setCall, setLoop, Function.update_self]
      · simp only [setCall, setLoop, setWqMutex, setMutex, setWork, Function.update_self]
      · simp only [setCall, setLoop, setWqMutex, setMutex, setWork, queueRemove,
          Function.update_of_ne apart]
    · rw [if_neg cancelled, if_neg cancelled, home] at stepped
      cases stepped
      have unlocked : pool.Elsewhere (.loop name) ((pool.setWqMutex name none).setMutex none) :=
        (Elsewhere.setWqMutex name none).trans (.quiet rfl (fun _ => rfl) rfl fun _ => rfl)
      have refused : pool.Elsewhere (.loop name) ((((pool.setWqMutex name none).setMutex
          none).setCall name .returned).record (.refused request)) :=
        (unlocked.trans (.call name .returned)).trans (.quiet rfl (fun _ => rfl) rfl fun _ => rfl)
      have outside : ¬ (LoopCall.returned : LoopCall ω).InMutex ∧
          ¬ (LoopCall.returned : LoopCall ω).InWqMutex := ⟨id, id⟩
      refine locked.release call refused ?_ outside rfl ?_ fun other apart => ?_
      · simp only [record, setCall, setLoop, Function.update_self]
      · simp only [record, setCall, setLoop, setWqMutex, setMutex, Function.update_self]
      · simp only [record, setCall, setLoop, setWqMutex, setMutex, Function.update_of_ne apart]
  | lockCancelled request =>
    rw [call] at stepped ready
    cases stepped
    exact locked.lock call ready Iff.rfl trivial
  | storeCancelled request =>
    rw [call] at stepped
    cases stepped
    have inserted : (pool.insertDone name request).Locked :=
      locked.quiet (.quiet rfl (insertDone_same PoolLoop.call fun _ _ _ => rfl) rfl insertDone_loop)
        rfl rfl (insertDone_same PoolLoop.wqMutex fun _ _ _ => rfl)
    have call' : ((pool.insertDone name request).loop name).call = .storeCancelled request :=
      (insertDone_same PoolLoop.call (fun _ _ _ => rfl) name).trans call
    have stored : (((pool.insertDone name request).setCall name .returned).setWqMutex name
        none).Locked := inserted.unlock call' Iff.rfl trivial id
    exact stored.quiet (.quiet rfl (fun _ => rfl) rfl fun _ => rfl) rfl rfl fun _ => rfl
  | lockDone =>
    rw [call] at stepped ready
    cases stepped
    exact locked.lock call ready Iff.rfl trivial
  | moveDone =>
    rw [call] at stepped
    cases stepped
    refine ⟨(Elsewhere.setLoop name _).mutex_stay mutex ?_,
      locked.loop_unlock (.setLoop name _) ?_ ?_ ?_ fun other apart => ?_⟩
    · simp only [InMutex, setLoop, Function.update_self]
      rw [call]
      exact Iff.rfl
    · rw [call]
      trivial
    · simp only [setLoop, Function.update_self]
    · simp only [setLoop, Function.update_self]
      exact fun inside => inside
    · simp only [setLoop, Function.update_of_ne apart]

omit [DecidableEq ω] [DecidableEq ℓ] in
/-- The thread that leaves the process takes the mutex for `post`. -/
theorem Locked.cleanupStep (locked : pool.Locked) (ready : pool.Ready .cleanup)
    (wakes : pool.Wakes woken) : (pool.cleanupStep woken).Locked := by
  rw [WorkerPool.cleanupStep]
  rw [Ready] at ready
  have mutex := locked.mutex
  cases here : pool.cleanup with
  | lockPost =>
    rw [here] at ready
    rw [ready] at mutex
    have goes : pool.Elsewhere .cleanup { pool with cleanup := .post, mutex := some .cleanup } :=
      .cleanup .post (some .cleanup)
    exact ⟨mutex.enter rfl goes.mutex, fun name =>
      goes.wqMutex_stay (locked.wqMutex name) Iff.rfl⟩
  | post =>
    have goes : pool.Elsewhere .cleanup { pool.post .exitMessage woken with
        cleanup := .join, mutex := none } :=
      (Elsewhere.post wakes .exitMessage).trans (.cleanup .join none)
    have inside : pool.InMutex .cleanup := here
    refine ⟨mutex.leave inside ?_ goes.mutex, fun name =>
      goes.wqMutex_stay (locked.wqMutex name) Iff.rfl⟩
    rw [InMutex]
    simp
  | notCalled => rw [here] at ready; cases ready
  | join => rw [here] at ready; cases ready

omit [DecidableEq τ] [DecidableEq ℓ] in
/-- No worker stores a request that is not in use. -/
theorem Placed.not_stored (placed : pool.Placed place) {request : ω}
    (fresh : request ∉ pool.inUse) (thread : τ) : (pool.worker thread).stores ≠ some request := by
  intro stores
  have executes : (pool.worker thread).executes = some request := by
    cases here : pool.worker thread with
    | store other =>
      rw [here] at stores
      exact stores
    | _ => rw [here] at stores; cases stores
  exact fresh (placed.used (placed.executing executes))

/-- Every step passes each mutex from a thread that leaves it to one that comes to it. The cases
are the steps. A call only takes its thread to the place before the first lock, and waking up
without a signal takes a worker to the place before its lock. -/
theorem Locked.act (locked : pool.Locked) (placed : pool.Placed place)
    {action : PoolAction τ ω ℓ} (permits : pool.Permits action)
    (acts : pool.act action = .ok next) : next.Locked := by
  cases action with
  | queueWork name request =>
    obtain ⟨returned, fresh⟩ := permits
    cases acts
    have counted : pool.Elsewhere (.loop name) (pool.setLoop name { pool.loop name with
        activeReqs := (pool.loop name).activeReqs + 1 }) := .setLoop name _
    have written : pool.Elsewhere (.loop name) ((pool.setLoop name { pool.loop name with
        activeReqs := (pool.loop name).activeReqs + 1 }).setWork request
          { pool.work request with loop := name, work := .work }) :=
      counted.trans (.setWork _ (placed.not_stored fresh))
    have called := written.trans (.call name (.lockPost request))
    have goes : pool.Elsewhere (.loop name) (pool.uvQueueWork name request) :=
      called.trans (.quiet rfl (fun _ => rfl) rfl fun _ => rfl)
    refine locked.loop_aside goes rfl (fun other => ?_) returned ?_
    · refine (setCall_same PoolLoop.wqMutex (fun _ _ => rfl) other).trans ?_
      exact setLoop_same _ PoolLoop.wqMutex (by rfl) other
    · simp only [uvQueueWork, record, setCall, setLoop, Function.update_self]
      exact ⟨id, id⟩
  | cancel name request =>
    obtain ⟨returned, _⟩ := permits
    cases acts
    refine locked.loop_aside (.call name (.lockCancel request)) rfl
      (setCall_same PoolLoop.wqMutex fun _ _ => rfl) returned ?_
    simp only [setCall, setLoop, Function.update_self]
    exact ⟨id, id⟩
  | workDone name =>
    obtain ⟨returned, _⟩ := permits
    cases acts
    refine locked.loop_aside (.setLoop name _) rfl (setLoop_same _ PoolLoop.wqMutex (by rfl))
      returned ?_
    simp only [setLoop, Function.update_self]
    exact ⟨id, id⟩
  | exit =>
    have notCalled : pool.cleanup = .notCalled := permits
    cases acts
    have goes : pool.Elsewhere .cleanup { pool with cleanup := .lockPost } :=
      .cleanup .lockPost pool.mutex
    refine ⟨goes.mutex_stay locked.mutex ?_, fun name =>
      goes.wqMutex_stay (locked.wqMutex name) Iff.rfl⟩
    rw [InMutex, InMutex, notCalled]
    exact iff_of_false (by simp) (by simp)
  | wakeUp thread =>
    have waits : pool.worker thread = .wait := permits
    cases acts
    refine ⟨(Elsewhere.worker thread .wake).mutex_stay locked.mutex ?_,
      locked.worker_aside waits rfl rfl⟩
    rw [setWorker_inMutex, InMutex, waits]
    exact iff_of_false (by simp) (by simp)
  | step thread woken =>
    obtain ⟨ready, wakes⟩ := permits
    cases thread with
    | worker thread => exact locked.workerStep ready wakes acts
    | loop name => exact locked.loopStep placed ready wakes acts
    | cleanup =>
      cases acts
      exact locked.cleanupStep ready wakes

end Transitions

section Rest

variable (locked : pool.Locked) (rests : ∀ thread, ¬ pool.Ready thread)

include locked rests

omit [DecidableEq τ] [DecidableEq ω] [DecidableEq ℓ]

/-- The owner of the mutex of a loop always goes on. -/
theorem Locked.wqMutex_free (name : ℓ) : (pool.loop name).wqMutex = none := by
  cases owner : (pool.loop name).wqMutex with
  | none => rfl
  | some thread =>
    have inside := (locked.wqMutex name thread).mp owner
    have ready := rests thread
    cases thread with
    | worker thread =>
      rw [InWqMutex] at inside
      rw [Ready] at ready
      cases here : pool.worker thread with
      | store request =>
        rw [here] at ready
        exact absurd trivial ready
      | _ => rw [here] at inside; cases inside
    | loop other =>
      obtain ⟨rfl, inside⟩ := inside
      rw [Ready] at ready
      cases call : (pool.loop other).call with
      | cancel request | storeCancelled request | moveDone =>
        rw [call] at ready
        exact absurd trivial ready
      | _ => rw [call] at inside; cases inside
    | cleanup => cases inside

/-- The owner of the global mutex goes on, or waits for the mutex of a loop. Whoever holds it
while nothing can move would wait for the mutex of a loop, but these are free. -/
theorem Locked.mutex_free : pool.mutex = none := by
  have free := locked.wqMutex_free rests
  cases owner : pool.mutex with
  | none => rfl
  | some thread =>
    have inside := (locked.mutex thread).mp owner
    have ready := rests thread
    cases thread with
    | worker thread =>
      have here : pool.worker thread = .check := inside
      rw [Ready, here] at ready
      exact absurd trivial ready
    | loop name =>
      rw [InMutex] at inside
      rw [Ready] at ready
      cases call : (pool.loop name).call with
      | post request | cancel request =>
        rw [call] at ready
        exact absurd trivial ready
      | lockCancelLoop request =>
        rw [call] at ready
        exact absurd (free _) ready
      | _ => rw [call] at inside; cases inside
    | cleanup =>
      have here : pool.cleanup = .post := inside
      rw [Ready, here] at ready
      exact absurd trivial ready

/-- A worker that does not go on waits for a request, or has left its loop. -/
theorem Locked.worker_rests (thread : τ) :
    pool.worker thread = .wait ∨ pool.worker thread = .exited := by
  have ready := rests (.worker thread)
  rw [Ready] at ready
  cases here : pool.worker thread with
  | wait => exact Or.inl rfl
  | exited => exact Or.inr rfl
  | lock | wake =>
    rw [here] at ready
    exact absurd (locked.mutex_free rests) ready
  | lockStore request =>
    rw [here] at ready
    exact absurd (locked.wqMutex_free rests _) ready
  | check | call request | run request | store request =>
    rw [here] at ready
    exact absurd trivial ready

/-- The thread of a loop that does not go on is in none of the functions of the pool. -/
theorem Locked.loop_rests (name : ℓ) :
    (pool.loop name).call = .returned ∧ (pool.loop name).draining = false := by
  have ready := rests (.loop name)
  rw [Ready] at ready
  cases call : (pool.loop name).call with
  | returned =>
    rw [call] at ready
    exact ⟨rfl, eq_false_of_ne_true ready⟩
  | lockPost request | lockCancel request =>
    rw [call] at ready
    exact absurd (locked.mutex_free rests) ready
  | lockCancelLoop request | lockCancelled request | lockDone =>
    rw [call] at ready
    exact absurd (locked.wqMutex_free rests _) ready
  | post request | cancel request | storeCancelled request | moveDone =>
    rw [call] at ready
    exact absurd trivial ready

/-- The thread that leaves the process does not go on before `post` or behind it. -/
theorem Locked.cleanup_rests : pool.cleanup = .notCalled ∨ pool.cleanup = .join := by
  have ready := rests .cleanup
  rw [Ready] at ready
  cases here : pool.cleanup with
  | notCalled => exact Or.inl rfl
  | join => exact Or.inr rfl
  | lockPost =>
    rw [here] at ready
    exact absurd (locked.mutex_free rests) ready
  | post =>
    rw [here] at ready
    exact absurd trivial ready

end Rest

end WorkerPool

end MoeUV
