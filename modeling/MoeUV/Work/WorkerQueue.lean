import MoeUV.Foundation.Counting
import MoeUV.Work.WorkerLocks

/-!
# The queue of the thread pool and those that come for it

No wakeup is lost: while a worker waits for the condition, as many workers are on their
way to the queue as there are messages in it. The message that ends the workers is
never taken out of the queue. Each loop counts the requests that it waits for.
-/

namespace MoeUV

open Foundation.Counting Foundation.Location

/-- The worker looks at the queue before it does anything else. -/
def WorkerPlace.comes {ω : Type} : WorkerPlace ω → Bool
  | .lock | .check | .wake => true
  | _ => false

/-- The worker counts as idle. -/
def WorkerPlace.idles {ω : Type} : WorkerPlace ω → Bool
  | .wait | .wake => true
  | _ => false

namespace WorkerPool

variable {τ ω ℓ : Type} [DecidableEq τ] [DecidableEq ω] [DecidableEq ℓ]
  {pool next : WorkerPool τ ω ℓ} {woken : Option τ} {thread : τ} {name : ℓ}
  {place : ω → Option (WorkPlace τ)}

section Awake

variable [Fintype τ]

/-- How many workers are on their way to the queue. -/
def coming (pool : WorkerPool τ ω ℓ) : Nat :=
  occurrences (fun place : WorkerPlace ω => place.comes = true) pool.worker

/-- How many workers count as idle. -/
def idling (pool : WorkerPool τ ω ℓ) : Nat :=
  occurrences (fun place : WorkerPlace ω => place.idles = true) pool.worker

omit [DecidableEq τ] [DecidableEq ω] [DecidableEq ℓ] in
/-- A worker that waits is counted. -/
theorem idling_pos (idles : (pool.worker thread).idles = true) : 0 < pool.idling := by
  rw [Nat.pos_iff_ne_zero]
  intro nobody
  exact occurrences_eq_zero.mp nobody thread idles

/-- No worker waits while there is more in the queue than others come for. Some of those
that come may be spare. -/
structure Awake (pool : WorkerPool τ ω ℓ) (spare : Nat) : Prop where
  idle : pool.idleThreads = pool.idling
  served : ∀ thread, pool.worker thread = .wait → pool.wq.length + spare ≤ pool.coming

variable {spare spare' : Nat}

omit [DecidableEq τ] [DecidableEq ω] [DecidableEq ℓ] in
/-- No worker goes on, and the queue does not grow. -/
theorem Awake.quiet (awake : pool.Awake spare) (worker : next.worker = pool.worker)
    (idle : next.idleThreads = pool.idleThreads)
    (fewer : next.wq.length + spare' ≤ pool.wq.length + spare) : next.Awake spare' := by
  constructor
  · rw [idle, awake.idle, idling, idling, worker]
  · intro thread waits
    rw [worker] at waits
    have served := awake.served thread waits
    rw [coming] at served ⊢
    rw [worker]
    exact fewer.trans served

omit [DecidableEq ω] [DecidableEq ℓ] in
/-- A worker goes from one place to another. It only waits for an empty queue. A worker that
comes to look at the queue counts for one message, until it has looked. -/
theorem Awake.move (awake : pool.Awake spare) {target : WorkerPlace ω}
    (worker : next.worker = Function.update pool.worker thread target)
    (idle : next.idleThreads + (if (pool.worker thread).idles then 1 else 0) =
      pool.idleThreads + if target.idles then 1 else 0)
    (served : target = .wait ∧ next.wq.length + spare' = 0 ∨ target ≠ .wait ∧
      next.wq.length + spare' + (if (pool.worker thread).comes then 1 else 0) ≤
        pool.wq.length + spare + if target.comes then 1 else 0) : next.Awake spare' := by
  have comings := occurrences_update (fun place : WorkerPlace ω => place.comes = true)
    pool.worker thread target
  have idlings := occurrences_update (fun place : WorkerPlace ω => place.idles = true)
    pool.worker thread target
  rw [← worker] at comings idlings
  change next.coming + _ = pool.coming + _ at comings
  change next.idling + _ = pool.idling + _ at idlings
  constructor
  · have before := awake.idle
    omega
  · intro other waits
    rcases served with ⟨_, empty⟩ | ⟨goes, fewer⟩
    · omega
    · rw [worker, Function.update_apply] at waits
      split at waits
      · exact absurd waits goes
      · have before := awake.served other waits
        omega

omit [DecidableEq ω] [DecidableEq ℓ] in
/-- Whoever is woken by a signal comes in addition to the others. -/
theorem Awake.signal (awake : pool.Awake spare) (wakes : pool.Wakes woken) :
    (pool.signal woken).Awake (spare + 1) := by
  cases woken with
  | none => exact ⟨awake.idle, fun thread waits => absurd waits (wakes thread)⟩
  | some thread =>
    have waits : pool.worker thread = .wait := wakes
    rw [signal_some]
    apply awake.move rfl
    · rw [waits]
      rfl
    · rw [waits]
      exact Or.inr ⟨by simp, Nat.le_refl _⟩

omit [DecidableEq ω] [DecidableEq ℓ] in
/-- A message more, and a worker that comes for it. -/
theorem Awake.post (awake : pool.Awake 0) (wakes : pool.Wakes woken) (message : Message ω) :
    (pool.post message woken).Awake 0 := by
  have length : (pool.wq ++ [message]).length = pool.wq.length + 1 := List.length_append
  rw [WorkerPool.post]
  dsimp only
  by_cases idle : 0 < pool.idleThreads
  · rw [if_pos idle]
    exact (awake.signal wakes).quiet rfl rfl (Nat.le_of_eq length)
  · rw [if_neg idle]
    refine ⟨awake.idle, fun thread waits => ?_⟩
    rw [awake.idle] at idle
    have waits' : pool.worker thread = .wait := waits
    exact absurd (idling_pos (by rw [waits']; rfl)) idle

/-- One step of a worker. The cases are the places of a worker. One that takes a message counts
for that message no more, and one that finds the queue empty may wait. -/
theorem Awake.workerStep (awake : pool.Awake 0) (ready : pool.Ready (.worker thread))
    (wakes : pool.Wakes woken) (stepped : pool.workerStep thread woken = .ok next) :
    next.Awake 0 := by
  rw [WorkerPool.workerStep] at stepped
  rw [Ready] at ready
  cases here : pool.worker thread with
  | lock =>
    rw [here] at stepped
    cases stepped
    exact awake.move rfl (by rw [here]; rfl) (Or.inr ⟨by simp, by rw [here]; exact Nat.le_refl _⟩)
  | check =>
    rw [here] at stepped
    cases wq : pool.wq with
    | nil =>
      rw [wq] at stepped
      cases stepped
      refine awake.move rfl ?_ (Or.inl ⟨rfl, ?_⟩)
      · rw [here]
        rfl
      · rfl
    | cons message rest =>
      rw [wq] at stepped
      cases message with
      | work request =>
        cases stepped
        refine awake.move rfl ?_ (Or.inr ⟨by simp, ?_⟩)
        · rw [here]
          rfl
        · rw [here, wq]
          exact Nat.le_refl _
      | exitMessage =>
        cases stepped
        have apart : woken ≠ some thread := wakes.apart (by rw [here]; simp)
        have stays : (pool.signal woken).worker thread = .check := (signal_apart apart).trans here
        rw [setWorker_signal .exited apart]
        -- The one that is woken comes in its place.
        refine (awake.signal wakes).move rfl ?_ (Or.inr ⟨by simp, ?_⟩)
        · rw [stays]
          rfl
        · rw [stays]
          exact Nat.le_refl _
  | wake =>
    rw [here] at stepped
    cases stepped
    have counted : 0 < pool.idleThreads := by
      rw [awake.idle]
      exact idling_pos (by rw [here]; rfl)
    refine awake.move rfl ?_ (Or.inr ⟨by simp, ?_⟩)
    · rw [here]
      change pool.idleThreads - 1 + 1 = pool.idleThreads + 0
      omega
    · rw [here]
      exact Nat.le_refl _
  | call request =>
    rw [here] at stepped
    dsimp only at stepped
    split at stepped
    · cases stepped
    · cases stepped
    · cases stepped
      exact awake.move rfl (by rw [here]; rfl)
        (Or.inr ⟨by simp, by rw [here]; exact Nat.le_refl _⟩)
  | run request =>
    rw [here] at stepped
    cases stepped
    exact awake.move rfl (by rw [here]; rfl) (Or.inr ⟨by simp, by rw [here]; exact Nat.le_refl _⟩)
  | lockStore request =>
    rw [here] at stepped
    cases stepped
    exact awake.move rfl (by rw [here]; rfl) (Or.inr ⟨by simp, by rw [here]; exact Nat.le_refl _⟩)
  | store request =>
    rw [here] at stepped
    cases stepped
    refine awake.move rfl (by rw [here]; rfl) (Or.inr ⟨by simp, ?_⟩)
    rw [here]
    exact Nat.le_succ _
  | wait => rw [here] at ready; cases ready
  | exited => rw [here] at ready; cases ready

/-- The thread of a loop puts a message into the queue or takes one out of it. A message that is
posted wakes a worker if there is an idle one, and a request that is taken out leaves less to
come for. -/
theorem Awake.loopStep (awake : pool.Awake 0) (wakes : pool.Wakes woken)
    (stepped : pool.loopStep name woken = .ok next) : next.Awake 0 := by
  rw [WorkerPool.loopStep] at stepped
  cases call : (pool.loop name).call with
  | returned =>
    rw [call] at stepped
    rcases workDonePass_cases stepped with ⟨head, rfl⟩ | ⟨request, rest, head, rfl⟩
    · exact awake.quiet rfl rfl (Nat.le_refl _)
    · exact awake.quiet rfl rfl (Nat.le_refl _)
  | post request =>
    rw [call] at stepped
    cases stepped
    exact (awake.post wakes _).quiet rfl rfl (Nat.le_refl _)
  | cancel request =>
    rw [call] at stepped
    dsimp only at stepped
    split at stepped
    · cases stepped
      exact awake.quiet rfl rfl (List.length_filter_le _ pool.wq)
    · cases stepped
      exact awake.quiet rfl rfl (Nat.le_refl _)
  | _ =>
    rw [call] at stepped
    cases stepped
    exact awake.quiet rfl rfl (Nat.le_refl _)

/-- Whoever puts a message into the queue sees to it that a worker comes for it. -/
theorem Awake.act (awake : pool.Awake 0) {action : PoolAction τ ω ℓ} (permits : pool.Permits action)
    (acts : pool.act action = .ok next) : next.Awake 0 := by
  cases action with
  | queueWork name request => cases acts; exact awake.quiet rfl rfl (Nat.le_refl _)
  | cancel name request => cases acts; exact awake.quiet rfl rfl (Nat.le_refl _)
  | workDone name => cases acts; exact awake.quiet rfl rfl (Nat.le_refl _)
  | exit => cases acts; exact awake.quiet rfl rfl (Nat.le_refl _)
  | wakeUp thread =>
    have waits : pool.worker thread = .wait := permits
    cases acts
    refine awake.move rfl (by rw [waits]; rfl) (Or.inr ⟨by simp, ?_⟩)
    rw [waits]
    exact Nat.le_succ _
  | step thread woken =>
    obtain ⟨ready, wakes⟩ := permits
    cases thread with
    | worker thread => exact awake.workerStep ready wakes acts
    | loop name => exact awake.loopStep wakes acts
    | cleanup =>
      cases acts
      rw [cleanupStep]
      split
      · exact awake.quiet rfl rfl (Nat.le_refl _)
      · exact (awake.post wakes _).quiet rfl rfl (Nat.le_refl _)
      · exact awake
      · exact awake

end Awake

section Leaving

/-- The workers leave one after the other when the message is at the head of the queue,
where it stays. -/
structure Leaving (pool : WorkerPool τ ω ℓ) : Prop where
  posted : .exitMessage ∈ pool.wq ↔ pool.cleanup = .join
  left : ∀ thread, pool.worker thread = .exited → ∃ rest, pool.wq = .exitMessage :: rest

omit [DecidableEq τ] [DecidableEq ω] [DecidableEq ℓ] in
/-- The queue stays, and no worker leaves. -/
theorem Leaving.quiet (leaving : pool.Leaving) (wq : next.wq = pool.wq)
    (cleanup : next.cleanup = .join ↔ pool.cleanup = .join)
    (stays : ∀ thread, next.worker thread = .exited → pool.worker thread = .exited) :
    next.Leaving := by
  refine ⟨?_, fun thread exited => ?_⟩
  · rw [wq, cleanup]
    exact leaving.posted
  · rw [wq]
    exact leaving.left thread (stays thread exited)

omit [DecidableEq ω] [DecidableEq ℓ] in
/-- A worker leaves by going to the end of its function only. -/
theorem setWorker_exited {there : WorkerPlace ω} (stays : there ≠ .exited) (other : τ)
    (exited : (pool.setWorker thread there).worker other = .exited) :
    pool.worker other = .exited := by
  change Function.update pool.worker thread there other = .exited at exited
  by_cases own : other = thread
  · rw [own, Function.update_self] at exited
    exact absurd exited stays
  · rw [Function.update_of_ne own] at exited
    exact exited

omit [DecidableEq ω] [DecidableEq ℓ] in
/-- No worker leaves because of a signal. -/
theorem signal_exited (other : τ) (exited : (pool.signal woken).worker other = .exited) :
    pool.worker other = .exited := by
  simp only [signal] at exited
  by_cases same : woken = some other
  · rw [if_pos same] at exited
    cases exited
  · rw [if_neg same] at exited
    exact exited

omit [DecidableEq ω] [DecidableEq ℓ] in
/-- The head of the queue stays when a message is appended. -/
theorem Leaving.post_left (leaving : pool.Leaving) (message : Message ω)
    (exited : (pool.post message woken).worker thread = .exited) :
    ∃ rest, (pool.post message woken).wq = .exitMessage :: rest := by
  have before : pool.worker thread = .exited := signal_exited thread exited
  obtain ⟨rest, wq⟩ := leaving.left thread before
  refine ⟨rest ++ [message], ?_⟩
  change pool.wq ++ [message] = _
  rw [wq, List.cons_append]

omit [DecidableEq ω] [DecidableEq ℓ] in
/-- A request is posted. -/
theorem Leaving.post (leaving : pool.Leaving) (request : ω) :
    (pool.post (.work request) woken).Leaving := by
  refine ⟨?_, fun thread exited => leaving.post_left _ exited⟩
  change Message.exitMessage ∈ pool.wq ++ [.work request] ↔ pool.cleanup = .join
  rw [← leaving.posted]
  exact (mem_append_singleton_iff _).trans (or_iff_right (by simp))

omit [DecidableEq τ] [DecidableEq ℓ] in
/-- A request is taken out of the queue, wherever it is. -/
theorem Leaving.queueRemove (leaving : pool.Leaving) (request : ω) :
    (pool.queueRemove request).Leaving := by
  constructor
  · rw [WorkerPool.queueRemove, mem_filter_ne_iff, ← leaving.posted]
    exact and_iff_left (by simp)
  · intro thread exited
    obtain ⟨rest, wq⟩ := leaving.left thread exited
    refine ⟨rest.filter (· ≠ .work request), ?_⟩
    change pool.wq.filter (· ≠ .work request) = _
    rw [wq, List.filter_cons_of_pos (by simp)]

/-- A worker leaves when the last message is at the head of the queue, and leaves it there. -/
theorem Leaving.workerStep (leaving : pool.Leaving) (ready : pool.Ready (.worker thread))
    (stepped : pool.workerStep thread woken = .ok next) : next.Leaving := by
  rw [WorkerPool.workerStep] at stepped
  rw [Ready] at ready
  cases here : pool.worker thread with
  | lock =>
    rw [here] at stepped
    cases stepped
    exact leaving.quiet rfl (.refl _) (setWorker_exited (by simp))
  | check =>
    rw [here] at stepped
    cases wq : pool.wq with
    | nil =>
      rw [wq] at stepped
      cases stepped
      exact leaving.quiet wq.symm (.refl _) (setWorker_exited (by simp))
    | cons message rest =>
      rw [wq] at stepped
      cases message with
      | work request =>
        cases stepped
        have posted := leaving.posted
        simp only [wq, List.mem_cons, reduceCtorEq, false_or] at posted
        refine ⟨posted, fun other exited => ?_⟩
        -- Nobody has left while a request is at the head.
        obtain ⟨rest', head⟩ := leaving.left other
          (setWorker_exited (by simp) other exited)
        rw [wq] at head
        cases head
      | exitMessage =>
        cases stepped
        exact ⟨leaving.posted, fun other _ => ⟨rest, wq⟩⟩
  | wake =>
    rw [here] at stepped
    cases stepped
    exact leaving.quiet rfl (.refl _) (setWorker_exited (by simp))
  | call request =>
    rw [here] at stepped
    dsimp only at stepped
    split at stepped
    case h_1 function => cases stepped
    case h_2 function => cases stepped
    case h_3 function =>
      cases stepped
      exact leaving.quiet rfl (.refl _) (setWorker_exited (by simp))
  | run request =>
    rw [here] at stepped
    cases stepped
    exact leaving.quiet rfl (.refl _) (setWorker_exited (by simp))
  | lockStore request =>
    rw [here] at stepped
    cases stepped
    exact leaving.quiet rfl (.refl _) (setWorker_exited (by simp))
  | store request =>
    rw [here] at stepped
    cases stepped
    exact leaving.quiet rfl (.refl _) (setWorker_exited (by simp))
  | wait => rw [here] at ready; cases ready
  | exited => rw [here] at ready; cases ready

/-- The threads of the loops only post requests and take them back. A request is posted behind
the last message or before it, and that one is never taken back. -/
theorem Leaving.loopStep (leaving : pool.Leaving)
    (stepped : pool.loopStep name woken = .ok next) : next.Leaving := by
  rw [WorkerPool.loopStep] at stepped
  cases call : (pool.loop name).call with
  | returned =>
    rw [call] at stepped
    rcases workDonePass_cases stepped with ⟨head, rfl⟩ | ⟨request, rest, head, rfl⟩
    · exact leaving.quiet rfl (.refl _) fun _ exited => exited
    · exact leaving.quiet rfl (.refl _) fun _ exited => exited
  | post request =>
    rw [call] at stepped
    cases stepped
    have linked : (pool.setWork request { pool.work request with empty := false }).Leaving :=
      leaving.quiet rfl (.refl _) fun _ exited => exited
    exact (linked.post request).quiet rfl (.refl _) fun _ exited => exited
  | cancel request =>
    rw [call] at stepped
    dsimp only at stepped
    by_cases cancelled : pool.cancellable request = true
    · rw [if_pos cancelled, if_pos cancelled] at stepped
      cases stepped
      exact (leaving.queueRemove request).quiet rfl (.refl _) fun _ exited => exited
    · rw [if_neg cancelled, if_neg cancelled] at stepped
      cases stepped
      exact leaving.quiet rfl (.refl _) fun _ exited => exited
  | _ =>
    rw [call] at stepped
    cases stepped
    exact leaving.quiet rfl (.refl _) fun _ exited => exited

/-- The last message comes with the end of the process. -/
theorem Leaving.act (leaving : pool.Leaving) {action : PoolAction τ ω ℓ}
    (permits : pool.Permits action) (acts : pool.act action = .ok next) : next.Leaving := by
  cases action with
  | queueWork name request =>
    cases acts
    exact leaving.quiet rfl (.refl _) fun _ exited => exited
  | cancel name request =>
    cases acts
    exact leaving.quiet rfl (.refl _) fun _ exited => exited
  | workDone name =>
    cases acts
    exact leaving.quiet rfl (.refl _) fun _ exited => exited
  | exit =>
    have notCalled : pool.cleanup = .notCalled := permits
    cases acts
    refine leaving.quiet rfl ?_ fun _ exited => exited
    rw [notCalled]
    exact iff_of_false (by simp) (by simp)
  | wakeUp thread =>
    cases acts
    exact leaving.quiet rfl (.refl _) (setWorker_exited (by simp))
  | step thread woken =>
    obtain ⟨ready, wakes⟩ := permits
    cases thread with
    | worker thread => exact leaving.workerStep ready acts
    | loop name => exact leaving.loopStep acts
    | cleanup =>
      cases acts
      rw [cleanupStep]
      cases here : pool.cleanup with
      | lockPost =>
        refine leaving.quiet rfl ?_ fun _ exited => exited
        rw [here]
        exact iff_of_false (by simp) (by simp)
      | post =>
        have posted : Message.exitMessage ∈ pool.wq ++ [.exitMessage] :=
          List.mem_append_right _ List.mem_cons_self
        exact ⟨iff_of_true posted rfl, fun thread exited => leaving.post_left .exitMessage exited⟩
      | notCalled => exact leaving
      | join => exact leaving

end Leaving

section Registered

omit [DecidableEq τ] [DecidableEq ω] in
/-- Nothing changes for the count while the requests and their loops stay. -/
theorem Registered.quiet (registered : pool.Registered) (inUse : next.inUse = pool.inUse)
    (activeReqs : ∀ name, (next.loop name).activeReqs = (pool.loop name).activeReqs)
    (own : ∀ request, (next.work request).loop = (pool.work request).loop) : next.Registered := by
  intro name
  simp only [inUse, activeReqs, own]
  exact registered name

/-- The workers do not touch the count. -/
theorem Registered.workerStep (registered : pool.Registered)
    (stepped : pool.workerStep thread woken = .ok next) : next.Registered := by
  rw [WorkerPool.workerStep] at stepped
  cases here : pool.worker thread with
  | check =>
    rw [here] at stepped
    dsimp only at stepped
    split at stepped
    case h_1 wq =>
      cases stepped
      exact registered.quiet rfl (fun _ => rfl) fun _ => rfl
    case h_2 rest wq =>
      cases stepped
      exact registered.quiet rfl (fun _ => rfl) fun _ => rfl
    case h_3 request rest wq =>
      cases stepped
      exact registered.quiet rfl (fun _ => rfl) (setWork_same _ UvWork.loop (by rfl))
  | call request =>
    rw [here] at stepped
    dsimp only at stepped
    split at stepped
    case h_1 function => cases stepped
    case h_2 function => cases stepped
    case h_3 function =>
      cases stepped
      exact registered.quiet rfl (fun _ => rfl) fun _ => rfl
  | lockStore request =>
    rw [here] at stepped
    cases stepped
    exact registered.quiet rfl (setWqMutex_same PoolLoop.activeReqs fun _ _ => rfl) fun _ => rfl
  | store request =>
    rw [here] at stepped
    cases stepped
    have written : (pool.setWork request { pool.work request with work := .null }).Registered :=
      registered.quiet rfl (fun _ => rfl) (setWork_same _ UvWork.loop (by rfl))
    have stored : ((pool.setWork request { pool.work request with work := .null }).insertDone
        (pool.work request).loop request).Registered :=
      written.quiet rfl (insertDone_same PoolLoop.activeReqs fun _ _ _ => rfl) insertDone_loop
    exact stored.quiet rfl (setWqMutex_same PoolLoop.activeReqs fun _ _ => rfl) fun _ => rfl
  | _ =>
    rw [here] at stepped
    cases stepped
    exact registered.quiet rfl (fun _ => rfl) fun _ => rfl

omit [DecidableEq τ] in
/-- `done` unregisters the request. -/
theorem Registered.done (registered : pool.Registered) {request : ω}
    (used : request ∈ pool.inUse) (own : (pool.work request).loop = name)
    (unregistered : (next.loop name).activeReqs = (pool.loop name).activeReqs - 1)
    (others : ∀ other, other ≠ name → (next.loop other).activeReqs = (pool.loop other).activeReqs)
    (work : next.work = pool.work) (inUse : next.inUse = pool.inUse.erase request) :
    next.Registered := by
  intro other
  rw [work, inUse, Finset.filter_erase]
  by_cases same : other = name
  · rw [same, unregistered, Finset.card_erase_of_mem (Finset.mem_filter.mpr ⟨used, own⟩),
      registered name]
  · rw [others other same, Finset.erase_eq_of_notMem, registered other]
    intro member
    exact same ((Finset.mem_filter.mp member).2.symm.trans own)

/-- The thread of a loop unregisters a request when it is done. -/
theorem Registered.loopStep (registered : pool.Registered) (placed : pool.Placed place)
    (stepped : pool.loopStep name woken = .ok next) : next.Registered := by
  rw [WorkerPool.loopStep] at stepped
  cases call : (pool.loop name).call with
  | returned =>
    rw [call] at stepped
    rcases workDonePass_cases stepped with ⟨head, rfl⟩ | ⟨request, rest, head, rfl⟩
    · exact registered.quiet rfl (setLoop_same _ PoolLoop.activeReqs (by rfl)) fun _ => rfl
    · obtain ⟨held, own⟩ := placed.moved (by rw [head]; exact List.mem_cons_self)
      refine registered.done (placed.used held) own ?_ (fun other apart => ?_) rfl rfl
      · simp only [record, setLoop, Function.update_self]
      · simp only [record, setLoop, Function.update_of_ne apart]
  | lockPost request =>
    rw [call] at stepped
    cases stepped
    exact registered.quiet rfl (setCall_same PoolLoop.activeReqs fun _ _ => rfl) fun _ => rfl
  | post request =>
    rw [call] at stepped
    cases stepped
    exact registered.quiet rfl (setCall_same PoolLoop.activeReqs fun _ _ => rfl)
      (setWork_same _ UvWork.loop (by rfl))
  | lockCancel request =>
    rw [call] at stepped
    cases stepped
    exact registered.quiet rfl (setCall_same PoolLoop.activeReqs fun _ _ => rfl) fun _ => rfl
  | cancel request =>
    rw [call] at stepped
    dsimp only at stepped
    by_cases cancelled : pool.cancellable request = true
    · rw [if_pos cancelled, if_pos cancelled] at stepped
      cases stepped
      have removed : (pool.queueRemove request).Registered :=
        registered.quiet rfl (fun _ => rfl) fun _ => rfl
      have unlocked : ((pool.queueRemove request).setWqMutex (pool.work request).loop
          none).Registered :=
        removed.quiet rfl (setWqMutex_same PoolLoop.activeReqs fun _ _ => rfl) fun _ => rfl
      exact unlocked.quiet rfl (setCall_same PoolLoop.activeReqs fun _ _ => rfl)
        (setWork_same _ UvWork.loop (by rfl))
    · rw [if_neg cancelled, if_neg cancelled] at stepped
      cases stepped
      have unlocked : (pool.setWqMutex (pool.work request).loop none).Registered :=
        registered.quiet rfl (setWqMutex_same PoolLoop.activeReqs fun _ _ => rfl) fun _ => rfl
      exact unlocked.quiet rfl (setCall_same PoolLoop.activeReqs fun _ _ => rfl) fun _ => rfl
  | storeCancelled request =>
    rw [call] at stepped
    cases stepped
    have stored : (pool.insertDone name request).Registered :=
      registered.quiet rfl (insertDone_same PoolLoop.activeReqs fun _ _ _ => rfl) insertDone_loop
    have returned : ((pool.insertDone name request).setCall name .returned).Registered :=
      stored.quiet rfl (setCall_same PoolLoop.activeReqs fun _ _ => rfl) fun _ => rfl
    exact returned.quiet rfl (setWqMutex_same PoolLoop.activeReqs fun _ _ => rfl) fun _ => rfl
  | moveDone =>
    rw [call] at stepped
    cases stepped
    exact registered.quiet rfl (setLoop_same _ PoolLoop.activeReqs (by rfl)) fun _ => rfl
  | lockCancelLoop request | lockCancelled request | lockDone =>
    rw [call] at stepped
    cases stepped
    have called {there : LoopCall ω} : (pool.setCall name there).Registered :=
      registered.quiet rfl (setCall_same PoolLoop.activeReqs fun _ _ => rfl) fun _ => rfl
    exact called.quiet rfl (setWqMutex_same PoolLoop.activeReqs fun _ _ => rfl) fun _ => rfl

omit [DecidableEq τ] in
/-- A new request is counted by its loop, whichever it belonged to before. Nobody used it
before, so it was not counted, and its old loop is of no account. -/
theorem Registered.queueWork (registered : pool.Registered) {request : ω}
    (fresh : request ∉ pool.inUse) : (pool.uvQueueWork name request).Registered := by
  have home (held : ω) : ((pool.uvQueueWork name request).work held).loop =
      if held = request then name else (pool.work held).loop := by
    change (Function.update pool.work request _ held).loop = _
    by_cases own : held = request
    · rw [own, Function.update_self, if_pos rfl]
    · rw [Function.update_of_ne own, if_neg own]
  intro other
  have counts (held : ω) : held ∈ ((pool.uvQueueWork name request).inUse.filter fun held =>
      ((pool.uvQueueWork name request).work held).loop = other) ↔
      held = request ∧ name = other ∨ held ∈ pool.inUse.filter fun held =>
        (pool.work held).loop = other := by
    rw [Finset.mem_filter, Finset.mem_filter, home]
    change held ∈ insert request pool.inUse ∧ _ ↔ _
    rw [Finset.mem_insert]
    by_cases own : held = request
    · have absent : held ∉ pool.inUse := own ▸ fresh
      simp [own, fresh]
    · simp [own]
  by_cases same : other = name
  · have grown : ((pool.uvQueueWork name request).inUse.filter fun held =>
        ((pool.uvQueueWork name request).work held).loop = other) =
        insert request (pool.inUse.filter fun held => (pool.work held).loop = other) := by
      ext held
      rw [counts, Finset.mem_insert, and_iff_left same.symm]
    rw [grown, Finset.card_insert_of_notMem fun member => fresh (Finset.mem_filter.mp member).1,
      ← registered other, same]
    simp only [uvQueueWork, setLoop, setCall, setWork, record, Function.update_self]
  · have stays : ((pool.uvQueueWork name request).inUse.filter fun held =>
        ((pool.uvQueueWork name request).work held).loop = other) =
        pool.inUse.filter fun held => (pool.work held).loop = other := by
      ext held
      rw [counts, or_iff_right fun new => same new.2.symm]
    rw [stays, ← registered other]
    simp only [uvQueueWork, setLoop, setCall, setWork, record, Function.update_of_ne same]

end Registered

end WorkerPool

end MoeUV
