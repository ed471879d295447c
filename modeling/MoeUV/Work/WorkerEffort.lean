import MoeUV.Work.WorkerRuns
import Mathlib.Algebra.Order.BigOperators.Group.Finset

/-!
# How long the thread pool goes on

Every place of a thread and every entry of a queue stands for a number of steps that are
still to be taken for it. Each step that a thread takes by itself lowers the sum.
-/

namespace MoeUV

open Foundation.Execution Foundation.Counting

/-- What a worker may still have to do before it waits or leaves, in steps. -/
def WorkerPlace.effort {ω : Type} : WorkerPlace ω → Nat
  | .lock | .wake => 5
  | .check => 4
  | .wait => 3
  | .call _ => 14
  | .run _ => 13
  | .lockStore _ => 12
  | .store _ => 11
  | .exited => 0

/-- What the thread of a loop may still have to do in the function it is in. -/
def LoopCall.effort {ω : Type} : LoopCall ω → Nat
  | .returned => 0
  | .lockPost _ => 15
  | .post _ => 14
  | .lockCancel _ => 10
  | .lockCancelLoop _ => 9
  | .cancel _ => 8
  | .lockCancelled _ => 7
  | .storeCancelled _ => 6
  | .lockDone => 3
  | .moveDone => 2

/-- What the thread that leaves the process still has to do for its message. -/
def CleanupPlace.effort : CleanupPlace → Nat
  | .lockPost => 15
  | .post => 14
  | .notCalled | .join => 0

/-- What the thread of a loop has to do for the call it is in and for its two queues. -/
def PoolLoop.effort {τ ω ℓ : Type} (loop : PoolLoop τ ω ℓ) : Nat :=
  loop.call.effort + (if loop.wqAsync then 4 else 0) + (if loop.draining then 1 else 0) +
    loop.wq.length + loop.moved.length

namespace WorkerPool

variable {τ ω ℓ : Type} [DecidableEq τ] [DecidableEq ω] [DecidableEq ℓ] [Fintype τ] [Fintype ℓ]
  {pool next : WorkerPool τ ω ℓ} {action : PoolAction τ ω ℓ} {woken : Option τ} {thread : τ}
  {name : ℓ}

/-- What the threads may still have to do before the pool is at rest, in steps. -/
def effort (pool : WorkerPool τ ω ℓ) : Nat :=
  ∑ thread, (pool.worker thread).effort + ∑ name, (pool.loop name).effort +
    11 * pool.wq.length + pool.cleanup.effort

section Frames

omit [DecidableEq ω] [DecidableEq ℓ] [Fintype ℓ] in
/-- A signal lets one worker come. -/
theorem effort_signal (pool : WorkerPool τ ω ℓ) (woken : Option τ) (wakes : pool.Wakes woken) :
    ∑ thread, ((pool.signal woken).worker thread).effort ≤
      ∑ thread, (pool.worker thread).effort + 2 := by
  cases woken with
  | none => exact Nat.le_add_right _ 2
  | some thread =>
    have moved := sum_update WorkerPlace.effort pool.worker thread .wake
    rw [wakes.waiting rfl] at moved
    rw [signal_some]
    change ∑ other, (Function.update pool.worker thread .wake other).effort + 3 = _ + 5 at moved
    exact Nat.le_of_eq (Nat.add_right_cancel moved)

omit [DecidableEq ω] [DecidableEq ℓ] [Fintype ℓ] in
/-- So does a message, if there is an idle worker. -/
theorem effort_post (pool : WorkerPool τ ω ℓ) (message : Message ω) (wakes : pool.Wakes woken) :
    ∑ thread, ((pool.post message woken).worker thread).effort ≤
      ∑ thread, (pool.worker thread).effort + 2 := by
  rw [WorkerPool.post]
  by_cases idle : 0 < pool.idleThreads
  · rw [if_pos idle]
    exact effort_signal { pool with wq := pool.wq ++ [message] } woken wakes
  · rw [if_neg idle]
    exact Nat.le_add_right _ 2

omit [DecidableEq ω] [DecidableEq ℓ] in
/-- A worker goes on. What a loop gets from it is less than what the worker has done. -/
theorem effort_worker_lt {here there : WorkerPlace ω} (gained : Nat)
    (at_here : pool.worker thread = here)
    (worker : next.worker = (pool.setWorker thread there).worker)
    (loops : ∑ name, (next.loop name).effort ≤ ∑ name, (pool.loop name).effort + gained)
    (cleanup : next.cleanup = pool.cleanup)
    (less : there.effort + gained + 11 * next.wq.length < here.effort + 11 * pool.wq.length) :
    next.effort < pool.effort := by
  have moved := sum_update WorkerPlace.effort pool.worker thread there
  rw [at_here] at moved
  rw [effort, effort, worker, cleanup]
  change ∑ other, (Function.update pool.worker thread there other).effort + _ + _ + _ < _
  omega

omit [DecidableEq τ] [DecidableEq ω] in
/-- The thread of a loop goes on. -/
theorem effort_loop_lt (gained : Nat)
    (workers : ∑ thread, (next.worker thread).effort ≤
      ∑ thread, (pool.worker thread).effort + gained)
    (cleanup : next.cleanup = pool.cleanup)
    (others : ∀ other, other ≠ name → next.loop other = pool.loop other)
    (less : (next.loop name).effort + gained + 11 * next.wq.length <
      (pool.loop name).effort + 11 * pool.wq.length) :
    next.effort < pool.effort := by
  have turned := sum_le_of_others name fun other apart =>
    Nat.le_of_eq (congrArg PoolLoop.effort (others other apart))
  rw [effort, effort, cleanup]
  omega

omit [DecidableEq τ] [DecidableEq ω] in
/-- The thread of a loop goes on in a function of the pool, and the queues of the loop stay. -/
theorem effort_call_lt {here : LoopCall ω} (there : LoopCall ω)
    (owner : Option (PoolThread τ ℓ)) (gained : Nat)
    (at_here : (pool.loop name).call = here)
    (own : next.loop name = { pool.loop name with call := there, wqMutex := owner })
    (others : ∀ other, other ≠ name → next.loop other = pool.loop other)
    (workers : ∑ thread, (next.worker thread).effort ≤
      ∑ thread, (pool.worker thread).effort + gained)
    (cleanup : next.cleanup = pool.cleanup)
    (less : there.effort + gained + 11 * next.wq.length < here.effort + 11 * pool.wq.length) :
    next.effort < pool.effort := by
  refine effort_loop_lt gained workers cleanup others ?_
  rw [own, PoolLoop.effort, PoolLoop.effort, at_here]
  dsimp only
  omega

omit [DecidableEq τ] [Fintype τ] in
/-- A loop has a request to move, and a wakeup to see to. -/
theorem effort_insertDone (pool : WorkerPool τ ω ℓ) (name : ℓ) (request : ω) :
    ∑ other, ((pool.insertDone name request).loop other).effort ≤
      ∑ other, (pool.loop other).effort + 5 := by
  have turned := sum_update PoolLoop.effort pool.loop name
    { pool.loop name with wq := (pool.loop name).wq ++ [request], wqAsync := true }
  change ∑ other, ((pool.insertDone name request).loop other).effort + _ = _ at turned
  simp only [PoolLoop.effort, List.length_append, List.length_singleton, if_true] at turned ⊢
  omega

omit [DecidableEq τ] [DecidableEq ℓ] in
/-- A request that is taken out of its queue is less to do. -/
theorem effort_queueRemove (pool : WorkerPool τ ω ℓ) (request : ω) :
    (pool.queueRemove request).effort ≤ pool.effort := by
  have loops : ∑ name, ((pool.queueRemove request).loop name).effort ≤
      ∑ name, (pool.loop name).effort := by
    refine Finset.sum_le_sum fun name _ => ?_
    have finished := List.length_filter_le (fun held => decide (held ≠ request)) (pool.loop name).wq
    have moved := List.length_filter_le (fun held => decide (held ≠ request)) (pool.loop name).moved
    exact Nat.add_le_add (Nat.add_le_add_left finished _) moved
  have shorter : (pool.queueRemove request).wq.length ≤ pool.wq.length :=
    List.length_filter_le _ pool.wq
  have workers : (pool.queueRemove request).worker = pool.worker := rfl
  have cleanup : (pool.queueRemove request).cleanup = pool.cleanup := rfl
  rw [effort, effort, workers, cleanup]
  omega

end Frames

/-- Each step of a worker is one of those that are still to be taken. The places of a worker are
weighted so that each one is followed by lighter ones; what it hands to a loop is paid for by
the request that it gives up. -/
theorem effort_workerStep (ready : pool.Ready (.worker thread)) (wakes : pool.Wakes woken)
    (stepped : pool.workerStep thread woken = .ok next) : next.effort < pool.effort := by
  rw [WorkerPool.workerStep] at stepped
  rw [Ready] at ready
  have unchanged : ∑ name, (pool.loop name).effort ≤ ∑ name, (pool.loop name).effort + 0 :=
    Nat.le_refl _
  cases here : pool.worker thread with
  | lock =>
    rw [here] at stepped
    cases stepped
    exact effort_worker_lt 0 here rfl unchanged rfl (Nat.add_lt_add_right (Nat.lt_succ_self 4) _)
  | check =>
    rw [here] at stepped
    cases wq : pool.wq with
    | nil =>
      rw [wq] at stepped
      cases stepped
      refine effort_worker_lt 0 here rfl unchanged rfl ?_
      rw [wq]
      exact Nat.add_lt_add_right (Nat.lt_succ_self 3) _
    | cons message rest =>
      rw [wq] at stepped
      cases message with
      | work request =>
        cases stepped
        refine effort_worker_lt 0 here rfl unchanged rfl ?_
        rw [wq, List.length_cons]
        -- The request goes with the worker.
        change 14 + 0 + 11 * rest.length < 4 + 11 * (rest.length + 1)
        omega
      | exitMessage =>
        cases stepped
        have apart : woken ≠ some thread := wakes.apart (by rw [here]; simp)
        have here' : (pool.signal woken).worker thread = .check := (signal_apart apart).trans here
        have woke := effort_signal pool woken wakes
        have moved := sum_update WorkerPlace.effort (pool.signal woken).worker thread .exited
        rw [here'] at moved
        rw [setWorker_signal .exited apart]
        change ∑ other, (Function.update (pool.signal woken).worker thread .exited other).effort +
          4 = _ + 0 at moved
        change ∑ other, (Function.update (pool.signal woken).worker thread .exited other).effort +
          ∑ name, (pool.loop name).effort + 11 * pool.wq.length + pool.cleanup.effort < pool.effort
        rw [effort]
        omega
  | wake =>
    rw [here] at stepped
    cases stepped
    exact effort_worker_lt 0 here rfl unchanged rfl (Nat.add_lt_add_right (Nat.lt_succ_self 4) _)
  | call request =>
    rw [here] at stepped
    dsimp only at stepped
    split at stepped
    case h_1 function => cases stepped
    case h_2 function => cases stepped
    case h_3 function =>
      cases stepped
      exact effort_worker_lt 0 here rfl unchanged rfl (Nat.add_lt_add_right (Nat.lt_succ_self 13) _)
  | run request =>
    rw [here] at stepped
    cases stepped
    exact effort_worker_lt 0 here rfl unchanged rfl (Nat.add_lt_add_right (Nat.lt_succ_self 12) _)
  | lockStore request =>
    rw [here] at stepped
    cases stepped
    refine effort_worker_lt 0 here rfl ?_ rfl (Nat.add_lt_add_right (Nat.lt_succ_self 11) _)
    refine Nat.le_of_eq (Finset.sum_congr rfl fun name _ => ?_)
    exact setWqMutex_same PoolLoop.effort (fun _ _ => rfl) name
  | store request =>
    rw [here] at stepped
    cases stepped
    refine effort_worker_lt 5 here rfl ?_ rfl (Nat.add_lt_add_right (Nat.lt_succ_self 10) _)
    refine (Nat.le_of_eq (Finset.sum_congr rfl fun name _ => ?_)).trans
      (effort_insertDone _ (pool.work request).loop request)
    exact setWqMutex_same PoolLoop.effort (fun _ _ => rfl) name
  | wait => rw [here] at ready; cases ready
  | exited => rw [here] at ready; cases ready

/-- So is each step of the thread of a loop. A callback is paid for by the request that is done,
and going through the local queue by its length. -/
theorem effort_loopStep {place : ω → Option (WorkPlace τ)} (placed : pool.Placed place)
    (ready : pool.Ready (.loop name)) (wakes : pool.Wakes woken)
    (stepped : pool.loopStep name woken = .ok next) : next.effort < pool.effort := by
  rw [WorkerPool.loopStep] at stepped
  rw [Ready] at ready
  have unchanged : ∑ thread, (pool.worker thread).effort ≤
      ∑ thread, (pool.worker thread).effort + 0 := Nat.le_refl _
  have apart {loop : PoolLoop τ ω ℓ} (other : ℓ) (different : other ≠ name) :
      (pool.setLoop name loop).loop other = pool.loop other :=
    Function.update_of_ne different _ _
  have own {loop : PoolLoop τ ω ℓ} : (pool.setLoop name loop).loop name = loop :=
    Function.update_self _ _ _
  cases here : (pool.loop name).call with
  | returned =>
    rw [here] at stepped ready
    dsimp only at ready
    rcases workDonePass_cases stepped with ⟨head, rfl⟩ | ⟨request, rest, head, rfl⟩
    · refine effort_loop_lt 0 unchanged rfl apart (Nat.add_lt_add_right ?_ _)
      rw [own]
      simp only [PoolLoop.effort, ready]
      simp
    · refine effort_loop_lt 0 unchanged rfl apart (Nat.add_lt_add_right ?_ _)
      change ((pool.setLoop name _).loop name).effort + 0 < _
      rw [own]
      simp only [PoolLoop.effort, head, List.length_cons]
      omega
  | lockPost request =>
    rw [here] at stepped
    cases stepped
    exact effort_call_lt (.post request) _ 0 here own apart unchanged rfl
      (Nat.add_lt_add_right (Nat.lt_succ_self 14) _)
  | post request =>
    rw [here] at stepped
    cases stepped
    refine effort_call_lt .returned _ 2 here own apart ?_ rfl ?_
    · exact effort_post (pool.setWork request { pool.work request with empty := false })
        (Message.work request) wakes
    · have length : (pool.wq ++ [Message.work request]).length = pool.wq.length + 1 :=
        List.length_append
      change 0 + 2 + 11 * (pool.wq ++ [Message.work request]).length < 14 + 11 * pool.wq.length
      omega
  | lockCancel request =>
    rw [here] at stepped
    cases stepped
    exact effort_call_lt (.lockCancelLoop request) _ 0 here own apart unchanged rfl
      (Nat.add_lt_add_right (Nat.lt_succ_self 9) _)
  | lockCancelLoop request =>
    have asked : (pool.loop name).call.cancels = some request := by rw [here]; rfl
    rw [here] at stepped
    dsimp only at stepped
    rw [(placed.cancels asked).2] at stepped
    cases stepped
    exact effort_call_lt (.cancel request) _ 0 here (relock_loop _) (fun _ => relock_other)
      unchanged rfl (Nat.add_lt_add_right (Nat.lt_succ_self 8) _)
  | cancel request =>
    have asked : (pool.loop name).call.cancels = some request := by rw [here]; rfl
    have home := (placed.cancels asked).2
    rw [here] at stepped
    dsimp only at stepped
    by_cases cancelled : pool.cancellable request = true
    · have home' : ((pool.queueRemove request).work request).loop = name := home
      have here' : ((pool.queueRemove request).loop name).call = .cancel request := here
      rw [if_pos cancelled, if_pos cancelled, home'] at stepped
      cases stepped
      refine lt_of_lt_of_le ?_ (effort_queueRemove pool request)
      refine effort_call_lt (.lockCancelled request) none 0 here' ?_ (fun other apart => ?_)
        (Nat.le_refl _) rfl (Nat.add_lt_add_right (Nat.lt_succ_self 7) _)
      · simp only [setCall, setLoop, setWqMutex, setMutex, setWork, Function.update_self]
      · simp only [setCall, setLoop, setWqMutex, setMutex, setWork, Function.update_of_ne apart]
    · rw [if_neg cancelled, if_neg cancelled, home] at stepped
      cases stepped
      refine effort_call_lt .returned none 0 here ?_ (fun other apart => ?_) unchanged rfl
        (Nat.add_lt_add_right (Nat.succ_pos 7) _)
      · simp only [record, setCall, setLoop, setWqMutex, setMutex, Function.update_self]
      · simp only [record, setCall, setLoop, setWqMutex, setMutex, Function.update_of_ne apart]
  | lockCancelled request =>
    rw [here] at stepped
    cases stepped
    exact effort_call_lt (.storeCancelled request) _ 0 here (relock_loop _) (fun _ => relock_other)
      unchanged rfl (Nat.add_lt_add_right (Nat.lt_succ_self 6) _)
  | storeCancelled request =>
    rw [here] at stepped
    cases stepped
    refine effort_loop_lt 0 unchanged rfl (fun other (apart : other ≠ name) => ?_)
      (Nat.add_lt_add_right ?_ _)
    · simp only [record, insertDone, setCall, setLoop, setWqMutex, setWork,
        Function.update_of_ne apart]
    · simp only [record, insertDone, setCall, setLoop, setWqMutex, setWork, Function.update_self,
        PoolLoop.effort, here, LoopCall.effort, if_true, List.length_append, List.length_singleton]
      omega
  | lockDone =>
    rw [here] at stepped
    cases stepped
    exact effort_call_lt .moveDone _ 0 here (relock_loop _) (fun _ => relock_other) unchanged
      rfl (Nat.add_lt_add_right (Nat.lt_succ_self 2) _)
  | moveDone =>
    rw [here] at stepped
    cases stepped
    refine effort_loop_lt 0 unchanged rfl apart (Nat.add_lt_add_right ?_ _)
    rw [own, PoolLoop.effort, PoolLoop.effort, here]
    simp [LoopCall.effort]
    omega

/-- Each step that a thread takes by itself brings the pool nearer to its rest. The cases are
the steps without calls: those of the workers, those of the loops, and the beginning of
`uv__work_done`. -/
theorem effort_act (kept : pool.Kept) (permits : pool.Permits action)
    (internal : action.internal = true) (acts : pool.act action = .ok next) :
    next.effort < pool.effort := by
  cases action with
  | workDone name =>
    obtain ⟨returned, still, sent⟩ := permits
    cases acts
    refine effort_loop_lt 0 (Nat.le_refl _) rfl
      (fun other different => Function.update_of_ne different _ _) (Nat.add_lt_add_right ?_ _)
    change (Function.update pool.loop name _ name).effort + 0 < _
    rw [Function.update_self]
    simp only [PoolLoop.effort, returned, sent, if_true, Bool.false_eq_true, if_false,
      LoopCall.effort]
    omega
  | step thread woken =>
    obtain ⟨ready, wakes⟩ := permits
    cases thread with
    | worker thread => exact effort_workerStep ready wakes acts
    | loop name =>
      obtain ⟨place, placed⟩ := kept.placed
      exact effort_loopStep placed ready wakes acts
    | cleanup =>
      cases acts
      rw [Ready] at ready
      rw [cleanupStep]
      cases here : pool.cleanup with
      | lockPost =>
        rw [effort, effort, here]
        exact Nat.add_lt_add_left (Nat.lt_succ_self 14) _
      | post =>
        have woke := effort_post pool .exitMessage wakes
        have length : (pool.wq ++ [Message.exitMessage]).length = pool.wq.length + 1 :=
          List.length_append
        rw [effort, effort, here]
        change ∑ thread, ((pool.post .exitMessage woken).worker thread).effort +
          ∑ name, (pool.loop name).effort + 11 * (pool.wq ++ [Message.exitMessage]).length + 0 <
            _ + _ + _ + 14
        omega
      | notCalled => rw [here] at ready; cases ready
      | join => rw [here] at ready; cases ready
  | queueWork name request => cases internal
  | cancel name request => cases internal
  | exit => cases internal
  | wakeUp thread => cases internal

/-- As many steps can be taken as are still to be taken. -/
theorem internal_le {actions : List (PoolAction τ ω ℓ)} (kept : pool.Kept)
    (legal : (workerSystem τ ω ℓ).Legal pool actions)
    (internal : ∀ action ∈ actions, action.internal = true) : actions.length ≤ pool.effort := by
  induction actions generalizing pool with
  | nil => exact Nat.zero_le _
  | cons action rest inductionHypothesis =>
    obtain ⟨permits, onward⟩ := legal
    obtain ⟨next, acts, kept'⟩ := act_kept kept permits
    have closer := effort_act kept permits (internal action List.mem_cons_self) acts
    have bounded := inductionHypothesis kept' (onward next acts)
      fun later member => internal later (List.mem_cons_of_mem _ member)
    rw [List.length_cons]
    omega

/-- The threads of the pool do not go on for ever: in a run without new calls from outside,
and in which no worker wakes without a signal, the pool is at rest after as many steps as
its state tells. A worker that wakes without a signal only goes back to sleep, but it may
do so for ever. -/
theorem pool_comes_to_rest (work : ω → UvWork ℓ) (before actions : List (PoolAction τ ω ℓ))
    (legal : (workerSystem τ ω ℓ).Legal (initial work) before)
    (reached : (workerSystem τ ω ℓ).exec (initial work) before = .ok pool)
    (legal' : (workerSystem τ ω ℓ).Legal pool actions)
    (internal : ∀ action ∈ actions, action.internal = true) : actions.length ≤ pool.effort :=
  internal_le ((throughout_kept legal).final _ reached) legal' internal

/-- After the two calls the effort of the pool bounds the steps that are left. -/
theorem pool_comes_to_rest_two : ∃ pool,
    (workerSystem Bool Bool Unit).exec (initial fun _ => ⟨(), .null, true⟩) twoRequests =
      .ok pool ∧ twoDone.length ≤ pool.effort :=
  ⟨_, rfl, pool_comes_to_rest (fun _ => ⟨(), .null, true⟩) twoRequests twoDone
    ((workerSystem _ _ _).legal_of_check (by decide)) rfl
    ((workerSystem _ _ _).legal_of_check (by decide)) (by decide)⟩

end WorkerPool

end MoeUV
