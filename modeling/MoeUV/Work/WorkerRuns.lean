import MoeUV.Work.WorkerQueue

/-!
# The thread pool in every interleaving

Requests are executed at most once and done exactly once, whatever the threads do in
between. If nobody calls the pool any more it comes to rest after a number of steps that
the state tells, and then all requests are done, or all workers have left.
-/

namespace MoeUV

open Foundation.Execution Foundation.Counting

/-- A thread goes on by itself. -/
def PoolAction.internal {τ ω ℓ : Type} : PoolAction τ ω ℓ → Bool
  | .workDone _ | .step _ _ => true
  | .queueWork _ _ | .cancel _ _ | .exit | .wakeUp _ => false

namespace WorkerPool

variable {τ ω ℓ : Type} [DecidableEq τ] [DecidableEq ω] [DecidableEq ℓ] [Fintype τ]
  {pool next : WorkerPool τ ω ℓ} {action : PoolAction τ ω ℓ}

/-- What holds between any two steps. -/
structure Kept (pool : WorkerPool τ ω ℓ) : Prop where
  placed : ∃ place, pool.Placed place
  locked : pool.Locked
  drained : pool.Drained
  awake : pool.Awake 0
  leaving : pool.Leaving
  registered : pool.Registered

omit [Fintype τ] in
/-- A call of `uv__work_done` comes with the queue it moved before empty, and takes over the
wakeup of the loop. -/
theorem Drained.act (drained : pool.Drained) (permits : pool.Permits action)
    (acts : pool.act action = .ok next) : next.Drained := by
  cases action with
  | queueWork name request =>
    obtain ⟨returned, _⟩ := permits
    obtain ⟨moved, done, async⟩ := drained name
    cases acts
    have counted : (pool.setLoop name { pool.loop name with
        activeReqs := (pool.loop name).activeReqs + 1 }).Drained :=
      drained.setLoop ⟨moved, done, async⟩
    have returned' : ((pool.setLoop name { pool.loop name with
        activeReqs := (pool.loop name).activeReqs + 1 }).loop name).call = .returned := by
      simp only [WorkerPool.setLoop, Function.update_self]
      exact returned
    exact counted.setCall returned' Iff.rfl
  | cancel name request =>
    cases acts
    exact drained.setCall permits.1 Iff.rfl
  | workDone name =>
    obtain ⟨returned, still, _⟩ := permits
    cases acts
    exact drained.setLoop ⟨(drained name).moved, fun _ => still, fun _ => Or.inr trivial⟩
  | exit =>
    cases acts
    exact drained
  | wakeUp thread =>
    cases acts
    exact drained
  | step thread woken =>
    cases thread with
    | worker thread => exact drained.workerStep acts
    | loop name => exact drained.loopStep acts
    | cleanup =>
      cases acts
      rw [cleanupStep]
      split
      all_goals exact drained

omit [Fintype τ] in
/-- Each loop counts its requests from `uv_queue_work` to their `done`. The cases are the steps.
Only `uv_queue_work` and the end of a request change a count, and both of them change the set of
the requests in use. -/
theorem Registered.act (registered : pool.Registered) {place : ω → Option (WorkPlace τ)}
    (placed : pool.Placed place) (permits : pool.Permits action)
    (acts : pool.act action = .ok next) : next.Registered := by
  cases action with
  | queueWork name request =>
    cases acts
    exact registered.queueWork permits.2
  | cancel name request =>
    cases acts
    exact registered.quiet rfl (setCall_same PoolLoop.activeReqs fun _ _ => rfl) fun _ => rfl
  | workDone name =>
    cases acts
    exact registered.quiet rfl (setLoop_same _ PoolLoop.activeReqs (by rfl)) fun _ => rfl
  | exit =>
    cases acts
    exact registered
  | wakeUp thread =>
    cases acts
    exact registered
  | step thread woken =>
    cases thread with
    | worker thread => exact registered.workerStep acts
    | loop name => exact registered.loopStep placed acts
    | cleanup =>
      cases acts
      rw [cleanupStep]
      split
      all_goals exact registered

omit [Fintype τ] in
/-- No step runs into a fault. The cases are the steps; a fault would be a request that is in
two places or in none, or a count that is zero when a request is done. -/
theorem Placed.act {place : ω → Option (WorkPlace τ)} (placed : pool.Placed place)
    (drained : pool.Drained) (leaving : pool.Leaving) (registered : pool.Registered)
    (permits : pool.Permits action) :
    ∃ next place', pool.act action = .ok next ∧ next.Placed place' := by
  cases action with
  | queueWork name request => exact ⟨_, _, rfl, placed.queueWork permits.1 permits.2⟩
  | cancel name request =>
    exact ⟨_, _, rfl, placed.askCancel permits.1 permits.2.1 permits.2.2⟩
  | workDone name =>
    have returned := permits.1
    refine ⟨_, place, rfl, placed.quiet (.loop rfl rfl ?_ ?_ ?_)⟩
    all_goals
      rw [returned]
      rfl
  | exit => exact ⟨_, place, rfl, placed.quiet (.aside pool.mutex pool.idleThreads .lockPost)⟩
  | wakeUp thread =>
    have waits : pool.worker thread = .wait := permits
    exact ⟨_, place, rfl, placed.quiet (.worker waits rfl rfl)⟩
  | step thread woken =>
    obtain ⟨ready, wakes⟩ := permits
    cases thread with
    | worker thread => exact placed.workerStep ready wakes
    | loop name => exact placed.loopStep drained registered wakes
    | cleanup =>
      rw [WorkerPool.act, cleanupStep]
      cases here : pool.cleanup with
      | lockPost =>
        exact ⟨_, place, rfl, placed.quiet (.aside (some .cleanup) pool.idleThreads .post)⟩
      | post =>
        refine ⟨_, place, rfl, placed.postExit ?_ wakes⟩
        rw [leaving.posted, here]
        simp
      | notCalled => exact ⟨_, place, rfl, placed⟩
      | join => exact ⟨_, place, rfl, placed⟩

/-- Every step goes without a fault and keeps all of it. -/
theorem act_kept (kept : pool.Kept) (permits : pool.Permits action) :
    ∃ next, pool.act action = .ok next ∧ next.Kept := by
  obtain ⟨⟨place, placed⟩, locked, drained, awake, leaving, registered⟩ := kept
  obtain ⟨next, place', acts, placed'⟩ := placed.act drained leaving registered permits
  exact ⟨next, acts, ⟨place', placed'⟩, locked.act placed permits acts, drained.act permits acts,
    awake.act permits acts, leaving.act permits acts, registered.act placed permits acts⟩

omit [DecidableEq τ] [DecidableEq ℓ] [Fintype τ] in
/-- Nothing is anywhere before the first call. Every place is empty, and no request is in
use. -/
theorem initial_placed (work : ω → UvWork ℓ) : (initial (τ := τ) work).Placed fun _ => none where
  located somewhere request := by
    refine iff_of_false (fun held => ?_) (by simp)
    cases somewhere with
    | posting =>
      obtain ⟨name, posts⟩ := held
      cases posts
    | queued => cases held
    | taken thread => cases held
    | executing thread => cases held
    | finished =>
      obtain ⟨name, member⟩ := held
      cases member
    | moved =>
      obtain ⟨name, member⟩ := held
      cases member
    | cancelling =>
      obtain ⟨name, stores⟩ := held
      cases stores
  inUse request := iff_of_false (Finset.notMem_empty request) fun used => used rfl
  own name request has := by
    rcases has with finished | moved | posts | stores | cancels
    · cases finished
    · cases moved
    · cases posts
    · cases stores
    · cases cancels
  asked name request cancels := by cases cancels
  told request := rfl
  once := List.nodup_nil
  onceFinished _ := List.nodup_nil
  onceMoved _ := List.nodup_nil

omit [DecidableEq τ] [DecidableEq ω] [DecidableEq ℓ] [Fintype τ] in
/-- No thread is between a lock and an unlock. -/
theorem initial_locked (work : ω → UvWork ℓ) : (initial (τ := τ) work).Locked := by
  constructor
  · intro thread
    refine iff_of_false (by simp [initial]) fun inside => ?_
    cases thread with
    | worker thread => cases inside
    | loop name => exact inside
    | cleanup => cases inside
  · intro name thread
    refine iff_of_false (by simp [initial]) fun inside => ?_
    cases thread with
    | worker thread => cases inside
    | loop other => exact inside.2
    | cleanup => exact inside

omit [DecidableEq τ] in
/-- All of it holds before the first call. -/
theorem initial_kept (work : ω → UvWork ℓ) : (initial (τ := τ) work).Kept where
  placed := ⟨fun _ => none, initial_placed work⟩
  locked := initial_locked work
  drained _ := ⟨fun _ => rfl, False.elim, fun waits => absurd rfl waits⟩
  awake := by
    refine ⟨(occurrences_eq_zero.mpr fun thread idles => ?_).symm, by simp [initial]⟩
    exact Bool.false_ne_true idles
  leaving := ⟨iff_of_false List.not_mem_nil (by simp [initial]), by simp [initial]⟩
  registered _ := (Finset.card_eq_zero.mpr (Finset.filter_empty _)).symm

/-- So it holds between any two steps of every run. -/
theorem throughout_kept {work : ω → UvWork ℓ} {actions : List (PoolAction τ ω ℓ)}
    (legal : (workerSystem τ ω ℓ).Legal (initial work) actions) :
    (workerSystem τ ω ℓ).Throughout Kept (initial work) actions := by
  refine (workerSystem τ ω ℓ).throughout_of_safe _ ?_ (initial_kept work) legal
  intro pool action kept permits
  exact act_kept kept permits

/-- The reports about each request are in order: `uv_cancel` keeps a request from being
executed exactly if it returns zero, and `done` is called once, with the status that
tells which. -/
theorem works_once (work : ω → UvWork ℓ) (actions : List (PoolAction τ ω ℓ))
    (legal : (workerSystem τ ω ℓ).Legal (initial work) actions) :
    (workerSystem τ ω ℓ).Throughout (fun pool => ∀ request, ∃ life,
      lifeOf pool.events request = some life ∧ (request ∈ pool.inUse ↔ life ≠ .free))
      (initial work) actions := by
  refine System.Throughout.mono _ ?_ (throughout_kept legal)
  rintro pool ⟨⟨place, placed⟩, _⟩ request
  cases held : place request with
  | none =>
    have unused : request ∉ pool.inUse := fun used => (placed.inUse request).mp used held
    exact ⟨.free, placed.free held, iff_of_false unused fun goes => goes rfl⟩
  | some somewhere =>
    obtain ⟨life, lived, goes⟩ := (placed.lived held).not_free
    exact ⟨life, lived, iff_of_true (placed.used held) goes⟩

section Sample

instance (pool : WorkerPool τ ω ℓ) : (thread : PoolThread τ ℓ) → Decidable (pool.Ready thread)
  | .worker thread => by
    dsimp only [Ready]
    generalize pool.worker thread = place
    cases place <;> infer_instance
  | .loop name => by
    dsimp only [Ready]
    generalize (pool.loop name).call = call
    cases call <;> infer_instance
  | .cleanup => by
    dsimp only [Ready]
    generalize pool.cleanup = cleanup
    cases cleanup <;> infer_instance

instance (pool : WorkerPool τ ω ℓ) : (woken : Option τ) → Decidable (pool.Wakes woken)
  | none => inferInstanceAs (Decidable (∀ thread, pool.worker thread ≠ .wait))
  | some thread => inferInstanceAs (Decidable (pool.worker thread = .wait))

instance (pool : WorkerPool τ ω ℓ) : (action : PoolAction τ ω ℓ) →
    Decidable ((workerSystem τ ω ℓ).enabled pool action)
  | .queueWork name request =>
    inferInstanceAs (Decidable ((pool.loop name).call = .returned ∧ request ∉ pool.inUse))
  | .cancel name request => inferInstanceAs (Decidable ((pool.loop name).call = .returned ∧
      request ∈ pool.inUse ∧ (pool.work request).loop = name))
  | .workDone name => inferInstanceAs (Decidable ((pool.loop name).call = .returned ∧
      (pool.loop name).draining = false ∧ (pool.loop name).wqAsync = true))
  | .exit => inferInstanceAs (Decidable (pool.cleanup = .notCalled))
  | .wakeUp thread => inferInstanceAs (Decidable (pool.worker thread = .wait))
  | .step _ _ => inferInstanceAs (Decidable (_ ∧ _))

/-- Two workers, one loop and two requests. One is taken, the other is cancelled. -/
def twoRequests : List (PoolAction Bool Bool Unit) :=
  [.step (.worker false) none, .step (.worker false) none, .queueWork () false,
    .step (.loop ()) (some false), .step (.loop ()) (some false), .queueWork () true,
    .step (.loop ()) none, .step (.loop ()) none, .step (.worker true) none,
    .step (.worker true) none, .step (.worker true) none, .cancel () true, .step (.loop ()) none,
    .step (.loop ()) none, .step (.loop ()) none, .step (.loop ()) none, .step (.loop ()) none,
    .cancel () false, .step (.loop ()) none, .step (.loop ()) none, .step (.loop ()) none,
    .step (.worker false) none, .step (.worker false) none, .step (.worker true) (some false)]

/-- The steps from there to the rest. -/
def twoDone : List (PoolAction Bool Bool Unit) :=
  [.step (.worker true) (some false), .step (.worker true) (some false), .workDone (),
    .step (.loop ()) (some false), .step (.loop ()) (some false), .step (.loop ()) (some false),
    .step (.loop ()) (some false), .step (.loop ()) (some false),
    .step (.worker true) (some false), .step (.worker true) (some false)]

/-- Two threads and two requests, from the first call to the last callback. -/
theorem works_once_two : (workerSystem Bool Bool Unit).Throughout
    (fun pool => ∀ request, ∃ life, lifeOf pool.events request = some life ∧
      (request ∈ pool.inUse ↔ life ≠ .free)) (initial fun _ => ⟨(), .null, true⟩)
    (twoRequests ++ twoDone) :=
  works_once (fun _ => ⟨(), .null, true⟩) (twoRequests ++ twoDone)
    ((workerSystem _ _ _).legal_of_check (by decide))

end Sample

/-- No wakeup is lost: a worker waits only if others come for all that is in the queue. A worker
comes when it is about to take the lock, looks at the queue, or has been sent a signal. -/
theorem wakeups_kept (work : ω → UvWork ℓ) (actions : List (PoolAction τ ω ℓ))
    (legal : (workerSystem τ ω ℓ).Legal (initial work) actions) :
    (workerSystem τ ω ℓ).Throughout (fun pool => ∀ thread, pool.worker thread = .wait →
      pool.wq.length ≤ pool.coming) (initial work) actions := by
  refine System.Throughout.mono _ ?_ (throughout_kept legal)
  intro pool kept
  exact kept.awake.served

/-- In the same run no worker waits beside work that nothing announces. -/
theorem wakeups_kept_two : (workerSystem Bool Bool Unit).Throughout
    (fun pool => ∀ thread, pool.worker thread = .wait → pool.wq.length ≤ pool.coming)
    (initial fun _ => ⟨(), .null, true⟩) (twoRequests ++ twoDone) :=
  wakeups_kept (fun _ => ⟨(), .null, true⟩) (twoRequests ++ twoDone)
    ((workerSystem _ _ _).legal_of_check (by decide))

section Rest

/-- Nothing goes on by itself. -/
def Rests (pool : WorkerPool τ ω ℓ) : Prop :=
  ∀ action : PoolAction τ ω ℓ, action.internal = true → ¬ pool.Permits action

omit [DecidableEq τ] [DecidableEq ω] [DecidableEq ℓ] [Fintype τ] in
/-- A signal can always be sent: it wakes one of the waiting workers if there are any, and none
otherwise. -/
theorem exists_wakes (pool : WorkerPool τ ω ℓ) : ∃ woken, pool.Wakes woken := by
  by_cases waits : ∃ thread, pool.worker thread = .wait
  · obtain ⟨thread, waits⟩ := waits
    exact ⟨some thread, waits⟩
  · exact ⟨none, fun thread same => waits ⟨thread, same⟩⟩

omit [Fintype τ] [DecidableEq τ] [DecidableEq ω] [DecidableEq ℓ] in
/-- In a pool at rest no thread can go on by itself. -/
theorem Rests.not_ready (rests : pool.Rests) (thread : PoolThread τ ℓ) : ¬ pool.Ready thread := by
  intro ready
  obtain ⟨woken, wakes⟩ := pool.exists_wakes
  exact rests (.step thread woken) rfl ⟨ready, wakes⟩

/-- What has come of the requests when the pool is at rest. -/
structure Settled (pool : WorkerPool τ ω ℓ) : Prop where
  /-- Unless the process ends, every request is done, and the workers wait for more. -/
  open_pool : pool.cleanup = .notCalled → pool.inUse = ∅ ∧
    (∀ name, (pool.loop name).activeReqs = 0) ∧ ∀ thread, pool.worker thread = .wait
  /-- All threads can be joined. Only requests behind the last message are left. -/
  left_pool : pool.cleanup ≠ .notCalled → (∀ thread, pool.worker thread = .exited) ∧
    ∃ rest, pool.wq = .exitMessage :: rest ∧ ∀ request ∈ pool.inUse, .work request ∈ rest

omit [Fintype τ] [DecidableEq τ] [DecidableEq ℓ] in
/-- A request that is not done is in the queue. All other places are those of a thread that can
go on by itself, or of a loop that still has to call back. -/
theorem Placed.resting {place : ω → Option (WorkPlace τ)} (placed : pool.Placed place)
    (drained : pool.Drained) (locked : pool.Locked) (rests : pool.Rests) {request : ω}
    (used : request ∈ pool.inUse) : .work request ∈ pool.wq := by
  rw [placed.inUse] at used
  cases held : place request with
  | none => exact absurd held used
  | some somewhere =>
    cases somewhere with
    | queued => exact (placed.located .queued request).mpr held
    | posting =>
      obtain ⟨name, posts⟩ := (placed.located .posting request).mpr held
      rw [(locked.loop_rests rests.not_ready name).1] at posts
      cases posts
    | cancelling =>
      obtain ⟨name, stores⟩ := (placed.located .cancelling request).mpr held
      rw [(locked.loop_rests rests.not_ready name).1] at stores
      cases stores
    | taken thread =>
      have takes : (pool.worker thread).takes = some request := (placed.located _ _).mpr held
      rcases locked.worker_rests rests.not_ready thread with waits | exited
      · rw [waits] at takes
        cases takes
      · rw [exited] at takes
        cases takes
    | executing thread =>
      have executes : (pool.worker thread).executes = some request :=
        (placed.located _ _).mpr held
      rcases locked.worker_rests rests.not_ready thread with waits | exited
      · rw [waits] at executes
        cases executes
      · rw [exited] at executes
        cases executes
    | finished =>
      obtain ⟨name, member⟩ := (placed.located .finished request).mpr held
      obtain ⟨returned, still⟩ := locked.loop_rests rests.not_ready name
      rcases (drained name).async (List.ne_nil_of_mem member) with sent | inside
      · exact absurd ⟨returned, still, sent⟩ (rests (.workDone name) rfl)
      · rw [returned] at inside
        exact inside.elim
    | moved =>
      obtain ⟨name, member⟩ := (placed.located .moved request).mpr held
      rw [(drained name).moved (locked.loop_rests rests.not_ready name).2] at member
      cases member

variable [Nonempty τ]

omit [DecidableEq τ] in
/-- If nothing can move, each worker waits or has left, no message is on its way, and no loop has
requests to report, because each of these would be a step. -/
theorem Kept.settled (kept : pool.Kept) (rests : pool.Rests) : pool.Settled := by
  obtain ⟨⟨place, placed⟩, locked, drained, awake, leaving, registered⟩ := kept
  have resting (thread : τ) := locked.worker_rests rests.not_ready thread
  have queued (request : ω) (used : request ∈ pool.inUse) : .work request ∈ pool.wq :=
    placed.resting drained locked rests used
  have nobody : pool.coming = 0 := by
    refine occurrences_eq_zero.mpr fun thread comes => ?_
    rcases resting thread with waits | exited
    · rw [waits] at comes
      cases comes
    · rw [exited] at comes
      cases comes
  have emptied (thread : τ) (waits : pool.worker thread = .wait) : pool.wq = [] := by
    have served := awake.served thread waits
    rw [nobody] at served
    exact List.length_eq_zero_iff.mp (Nat.le_zero.mp served)
  constructor
  · intro notCalled
    have waits (thread : τ) : pool.worker thread = .wait := by
      rcases resting thread with waits | exited
      · exact waits
      · obtain ⟨rest, wq⟩ := leaving.left thread exited
        have posted := leaving.posted.mp (by rw [wq]; exact List.mem_cons_self)
        rw [notCalled] at posted
        cases posted
    obtain ⟨thread⟩ := ‹Nonempty τ›
    have nothing : pool.inUse = ∅ := by
      refine Finset.eq_empty_of_forall_notMem fun request used => ?_
      have member := queued request used
      rw [emptied thread (waits thread)] at member
      cases member
    refine ⟨nothing, fun name => ?_, waits⟩
    rw [registered name, nothing]
    rfl
  · intro called
    have posted : .exitMessage ∈ pool.wq := by
      rw [leaving.posted]
      exact (locked.cleanup_rests rests.not_ready).resolve_left called
    have exited (thread : τ) : pool.worker thread = .exited := by
      refine (resting thread).resolve_left fun waits => ?_
      rw [emptied thread waits] at posted
      cases posted
    obtain ⟨thread⟩ := ‹Nonempty τ›
    obtain ⟨rest, wq⟩ := leaving.left thread (exited thread)
    refine ⟨exited, rest, wq, fun request used => ?_⟩
    have member := queued request used
    rw [wq] at member
    exact (List.mem_cons.mp member).resolve_left (by simp)

/-- Wherever the pool comes to rest, no request is left behind, and no thread waits for another.
As long as the process goes on the queue is empty and all workers wait; at its end all of them
have left. -/
theorem pool_settled (work : ω → UvWork ℓ) (actions : List (PoolAction τ ω ℓ))
    (legal : (workerSystem τ ω ℓ).Legal (initial work) actions) :
    (workerSystem τ ω ℓ).Throughout (fun pool => pool.Rests → pool.Settled) (initial work)
      actions := by
  refine System.Throughout.mono _ ?_ (throughout_kept legal)
  intro pool kept
  exact kept.settled

/-- The run of two requests ends at rest. -/
theorem pool_settled_two : (workerSystem Bool Bool Unit).Throughout
    (fun pool => pool.Rests → pool.Settled) (initial fun _ => ⟨(), .null, true⟩)
    (twoRequests ++ twoDone) :=
  pool_settled (fun _ => ⟨(), .null, true⟩) (twoRequests ++ twoDone)
    ((workerSystem _ _ _).legal_of_check (by decide))

end Rest

end WorkerPool

end MoeUV
