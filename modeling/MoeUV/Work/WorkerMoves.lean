import MoeUV.Work.WorkerPlaces

/-!
# How a request goes through the thread pool

Each step of a thread carries at most one request from one place to another, or it moves the
finished requests of a loop at once. What the fields of the request are, and what has been
reported about it, fits in with the place that it comes to, and no assertion fails on the way.
-/

namespace MoeUV

open Foundation.Location

namespace WorkerPool

variable {τ ω ℓ : Type} [DecidableEq τ] [DecidableEq ω] [DecidableEq ℓ]
  {pool next : WorkerPool τ ω ℓ} {place : ω → Option (WorkPlace τ)} {woken : Option τ}
  {thread : τ} {name : ℓ}

section Workers

omit [DecidableEq ℓ] in
/-- A worker takes the request at the head of the queue. It is in no other queue, and nobody
else has it, so its place changes from the queue to the worker. -/
theorem Placed.take (placed : pool.Placed place) (here : pool.worker thread = .check)
    {request : ω} {rest : List (Message ω)} (head : pool.wq = .work request :: rest) :
    (((({ pool with wq := rest }).setWork request { pool.work request with
      empty := true }).setWorker thread (.call request)).setMutex none).Placed
      (Function.update place request (some (.taken thread))) := by
  have held : place request = some .queued := by
    refine (placed.located .queued request).mp ?_
    rw [Holds, head]
    exact List.mem_cons_self
  have once := placed.once
  rw [head] at once
  obtain ⟨fresh, distinct⟩ := List.nodup_cons.mp once
  have fits := placed.fits held
  have lived := placed.lived held
  refine ⟨placed.located.move held ?out ?into ?others, placed.inUse_update held _, ?own,
    placed.asked, placed.told_update ?told ?work fun _ _ => rfl, distinct, placed.onceFinished,
    placed.onceMoved⟩
  case out =>
    intro other
    change Message.work other ∈ rest ↔ Message.work other ∈ pool.wq ∧ other ≠ request
    rw [head, mem_tail_iff fresh, ne_eq, ne_eq, Message.work.injEq]
  case into =>
    intro other
    refine (setWorker_taken (.call request) other).trans ?_
    rw [Holds, here]
    simp [WorkerPlace.takes, eq_comm]
  case others =>
    intro somewhere notQueued notTaken other
    change ({ pool with wq := rest }.setWorker thread (.call request)).Holds somewhere other ↔ _
    refine (setWorker_holds (fun same => absurd same notTaken) (fun _ => ?_) other).trans ?_
    · change WorkerPlace.executes (.call request) = (pool.worker thread).executes
      rw [here]
      rfl
    · cases somewhere with
      | queued => exact absurd rfl notQueued
      | _ => exact Iff.rfl
  case own =>
    intro name other has
    exact (setWork_same { pool.work request with empty := true } UvWork.loop rfl other).trans
      (placed.own name other has)
  case told =>
    change WorkPlace.Fits (Function.update pool.work request _ request) _ ∧
      WorkPlace.Lived (Function.update pool.work request _ request).work _ _
    rw [Function.update_self]
    exact ⟨⟨fits.1, rfl⟩, Or.inl lived⟩
  case work =>
    intro other different
    exact Function.update_of_ne different _ _

omit [DecidableEq ℓ] in
/-- A worker calls the request that it has taken. Only the place of the request and the record
of its life change. -/
theorem Placed.call (placed : pool.Placed place) {request : ω}
    (here : pool.worker thread = .call request) :
    ((pool.setWorker thread (.run request)).record (.executed request)).Placed
      (Function.update place request (some (.executing thread))) := by
  have held : place request = some (.taken thread) := placed.taken (by rw [here]; rfl)
  have fits := placed.fits held
  have lived := placed.lived held
  refine ⟨placed.located.move held ?out ?into ?others, placed.inUse_update held _, placed.own,
    placed.asked, placed.told_update ?told (fun _ _ => rfl) (lifeOf_other rfl), placed.once,
    placed.onceFinished, placed.onceMoved⟩
  case out =>
    intro other
    refine (setWorker_taken (.run request) other).trans ?_
    rw [Holds, here]
    simp [WorkerPlace.takes, eq_comm]
  case into =>
    intro other
    refine (setWorker_executing (.run request) other).trans ?_
    rw [Holds, here]
    simp [WorkerPlace.executes, eq_comm]
  case others =>
    intro somewhere notTaken notExecuting other
    change (pool.setWorker thread (.run request)).Holds somewhere other ↔ _
    exact setWorker_holds (fun same => absurd same notTaken)
      (fun same => absurd same notExecuting) other
  case told =>
    have after : lifeOf (pool.events ++ [.executed request]) request =
      (lifeOf pool.events request).bind (·.after (.executed request)) := lifeOf_own rfl
    refine ⟨fits, after.trans ?_⟩
    rcases lived with submitted | refused
    · rw [submitted]
      rfl
    · rw [refused]
      rfl

/-- A worker puts the request that it has executed into the queue of its loop. Its work function
has returned, so it belongs to the worker alone, and goes to the loop that it was queued by. -/
theorem Placed.store (placed : pool.Placed place) {request : ω}
    (here : pool.worker thread = .store request) :
    ((((pool.setWork request { pool.work request with
      work := .null }).insertDone (pool.work request).loop request).setWorker thread
      .lock).setWqMutex (pool.work request).loop none).Placed
      (Function.update place request (some .finished)) := by
  have held : place request = some (.executing thread) := placed.executing (by rw [here]; rfl)
  have lived := placed.lived held
  have absent (name : ℓ) : request ∉ (pool.loop name).wq := by
    intro member
    have finished := (placed.located .finished request).mp ⟨name, member⟩
    rw [held] at finished
    cases finished
  generalize home : (pool.work request).loop = name
  have stored : (((pool.setWork request { pool.work request with
      work := .null }).insertDone name request).setWorker thread .lock).Placed
      (Function.update place request (some .finished)) := by
    refine ⟨placed.located.move held ?out ?into ?others, placed.inUse_update held _, ?own, ?asked,
      placed.told_update ?told ?work fun _ _ => rfl, placed.once,
      insertDone_nodup placed.onceFinished (absent name), ?moved⟩
    case out =>
      intro other
      refine (setWorker_executing .lock other).trans ?_
      rw [Holds, here]
      simp [WorkerPlace.executes, eq_comm]
    case into => exact insertDone_finished
    case others =>
      intro somewhere notExecuting notFinished other
      refine (setWorker_holds (fun _ => ?_) (fun same => absurd same notExecuting) other).trans
        (insertDone_holds notFinished other)
      change WorkerPlace.takes .lock = (pool.worker thread).takes
      rw [here]
      rfl
    case own =>
      intro name' other has
      have same : ((pool.setWork request { pool.work request with
          work := .null }).work other).loop = (pool.work other).loop :=
        setWork_same _ UvWork.loop (by rfl) other
      refine (insertDone_loop other).trans (same.trans ?_)
      rcases insertDone_has name' has with before | ⟨rfl, rfl⟩
      · exact placed.own name' other before
      · exact home
    case asked =>
      intro name' other cancels
      refine placed.asked name' other (Eq.trans ?_ cancels)
      exact (insertDone_same (fun loop => loop.call.cancels) (fun _ _ _ => rfl) name').symm
    case told =>
      have fields : ((pool.setWork request { pool.work request with
          work := .null }).insertDone name request).work request =
            { pool.work request with work := .null, empty := false } := by
        rw [insertDone_self, setWork_self]
      refine ⟨?_, ?_⟩
      · change WorkPlace.Fits (((pool.setWork request _).insertDone name request).work request) _
        rw [fields]
        exact ⟨by simp, rfl⟩
      · change WorkPlace.Lived
          (((pool.setWork request _).insertDone name request).work request).work _ _
        rw [fields]
        exact lived
    case work =>
      intro other different
      exact (insertDone_other different).trans (setWork_other different _)
    case moved =>
      intro name'
      have same : ((((pool.setWork request { pool.work request with
          work := .null }).insertDone name request).setWorker thread .lock).loop name').moved =
            (pool.loop name').moved := insertDone_same PoolLoop.moved (fun _ _ _ => rfl) name'
      rw [same]
      exact placed.onceMoved name'
  exact stored.quiet (.wqMutex name none)

end Workers

section Loops

/-- The thread of the loop has put the request into the queue. It was with that thread alone,
and is put behind all that is in the queue. -/
theorem Placed.post (placed : pool.Placed place) {request : ω}
    (here : (pool.loop name).call = .post request) (wakes : pool.Wakes woken) :
    ((((pool.setWork request { pool.work request with
      empty := false }).post (.work request) woken).setCall name .returned).setMutex none).Placed
      (Function.update place request (some .queued)) := by
  have posts : (pool.loop name).call.posts = some request := by rw [here]; rfl
  obtain ⟨held, home⟩ := placed.posting posts
  have fits := placed.fits held
  have lived := placed.lived held
  have absent : .work request ∉ pool.wq := by
    intro member
    have queued := (placed.located .queued request).mp member
    rw [held] at queued
    cases queued
  have posted : (((pool.setWork request { pool.work request with
      empty := false }).post (.work request) woken).setCall name .returned).Placed
      (Function.update place request (some .queued)) := by
    refine ⟨placed.located.move held ?out ?into ?others, placed.inUse_update held _, ?own, ?asked,
      placed.told_update ?told (fun other different => setWork_other different _) fun _ _ => rfl,
      nodup_append_singleton placed.once absent,
      setCall_nodup PoolLoop.wq (fun _ _ => rfl) placed.onceFinished,
      setCall_nodup PoolLoop.moved (fun _ _ => rfl) placed.onceMoved⟩
    case out =>
      refine setCall_take LoopCall.posts posts rfl fun owner has => ?_
      exact (placed.posting has).2.symm.trans home
    case into =>
      intro other
      refine (post_queued woken (.work request) other).trans (or_congr_left ?_)
      rw [Message.work.injEq]
    case others =>
      intro somewhere notPosting notQueued other
      refine (setCall_holds (fun same => absurd same notPosting) (fun _ => ?_) other).trans
        (post_holds wakes _ notQueued other)
      change none = (pool.loop name).call.stores
      rw [here]
      rfl
    case own =>
      intro name' other has
      refine (setWork_same { pool.work request with empty := false } UvWork.loop rfl other).trans ?_
      rcases setCall_has name' has with before | ⟨_, posts | stores | cancels⟩
      · exact placed.own name' other before
      · cases posts
      · cases stores
      · cases cancels
    case asked =>
      intro name' other cancels
      rcases setCall_cancels name' cancels with before | nothing
      · exact placed.asked name' other before
      · cases nothing
    case told =>
      refine ⟨?_, ?_⟩
      · change WorkPlace.Fits ((pool.setWork request _).work request) _
        rw [setWork_self]
        exact ⟨fits, rfl⟩
      · exact lived
  exact posted.quiet (.aside none _ _)

omit [DecidableEq τ] [DecidableEq ℓ] in
/-- While `uv__work_cancel` looks at a request, the thread of its loop does nothing else
with it. -/
theorem Placed.not_with_loop (placed : pool.Placed place) {request : ω}
    (here : (pool.loop name).call = .cancel request) :
    place request ≠ some .posting ∧ place request ≠ some .cancelling := by
  have asked : (pool.loop name).call.cancels = some request := by rw [here]; rfl
  have own := (placed.cancels asked).2
  constructor
  · intro held
    obtain ⟨owner, posts⟩ := (placed.located .posting request).mpr held
    have home := (placed.posting posts).2
    rw [own] at home
    rw [← home, here] at posts
    cases posts
  · intro held
    obtain ⟨owner, stores⟩ := (placed.located .cancelling request).mpr held
    have home := (placed.cancelling stores).2
    rw [own] at home
    rw [← home, here] at stores
    cases stores

omit [DecidableEq τ] [DecidableEq ω] [DecidableEq ℓ] in
/-- A finished request is in a queue, so all that counts for `uv__work_cancel` is its
function. -/
theorem cancellable_of_linked {request : ω} (executed : (pool.work request).work ≠ .work)
    (linked : (pool.work request).empty = false) :
    pool.cancellable request = true ↔ (pool.work request).work = .cancelled := by
  cases function : (pool.work request).work with
  | null => simp [cancellable, linked, function]
  | work => exact absurd function executed
  | cancelled => simp [cancellable, linked, function]

omit [DecidableEq τ] [DecidableEq ℓ] in
/-- What the condition of `uv__work_cancel` says: no worker has had the request. -/
theorem Placed.cancellable_iff (placed : pool.Placed place) {request : ω}
    (here : (pool.loop name).call = .cancel request) : pool.cancellable request = true ↔
      lifeOf pool.events request = some .cancelled ∨ place request = some .queued := by
  have asked : (pool.loop name).call.cancels = some request := by rw [here]; rfl
  have used := (placed.cancels asked).1
  obtain ⟨notPosting, notCancelling⟩ := placed.not_with_loop here
  cases held : place request with
  | none => exact absurd held used
  | some somewhere =>
    have fits := placed.fits held
    have lived := placed.lived held
    cases somewhere with
    | posting => exact absurd held notPosting
    | cancelling => exact absurd held notCancelling
    | queued =>
      have linked : pool.cancellable request = true := by simp [cancellable, fits.1, fits.2]
      exact iff_of_true linked (Or.inr rfl)
    | taken thread =>
      have unlinked : ¬ pool.cancellable request = true := by simp [cancellable, fits.2]
      refine iff_of_false unlinked ?_
      rintro (cancelled | queued)
      · rcases lived with submitted | refused
        · cases submitted.symm.trans cancelled
        · cases refused.symm.trans cancelled
      · cases queued
    | executing thread =>
      have unlinked : ¬ pool.cancellable request = true := by simp [cancellable, fits.2]
      refine iff_of_false unlinked ?_
      rintro (cancelled | queued)
      · cases lived.symm.trans cancelled
      · cases queued
    | finished =>
      refine (cancellable_of_linked fits.1 fits.2).trans ?_
      exact (finished_cancelled_iff lived).symm.trans (or_iff_left (by simp)).symm
    | moved =>
      refine (cancellable_of_linked fits.1 fits.2).trans ?_
      exact (finished_cancelled_iff lived).symm.trans (or_iff_left (by simp)).symm

omit [DecidableEq τ] [DecidableEq ℓ] in
/-- A request that is in some queue is taken out of all of them. It is in one queue only, so
taking it out of all of them is the same as taking it out of that one. -/
theorem Placed.queueRemove_holds (placed : pool.Placed place) {request : ω}
    (linked : place request = some .queued ∨ place request = some .finished ∨
      place request = some .moved) (somewhere : WorkPlace τ) (other : ω) :
    (pool.queueRemove request).Holds somewhere other ↔
      pool.Holds somewhere other ∧ other ≠ request := by
  have family (queue : PoolLoop τ ω ℓ → List ω) :
      (∃ owner, other ∈ (queue (pool.loop owner)).filter (· ≠ request)) ↔
        (∃ owner, other ∈ queue (pool.loop owner)) ∧ other ≠ request := by
    rw [← exists_and_right]
    exact exists_congr fun owner => mem_filter_ne_iff other
  -- In the other places there is nothing to take out.
  have unlinked (apart : place request ≠ some somewhere) :
      pool.Holds somewhere other ↔ pool.Holds somewhere other ∧ other ≠ request := by
    refine (and_iff_left_of_imp fun held same => ?_).symm
    rw [same] at held
    exact apart ((placed.located somewhere request).mp held)
  cases somewhere with
  | queued =>
    change Message.work other ∈ pool.wq.filter (· ≠ .work request) ↔ _
    rw [mem_filter_ne_iff, ne_eq, Message.work.injEq]
    exact Iff.rfl
  | finished => exact family PoolLoop.wq
  | moved => exact family PoolLoop.moved
  | _ =>
    refine unlinked ?_
    rcases linked with held | held | held
    · rw [held]; simp
    · rw [held]; simp
    · rw [held]; simp

omit [DecidableEq τ] [DecidableEq ℓ] in
/-- The loops have nothing new then. -/
theorem queueRemove_has {request other : ω}
    (has : ((pool.queueRemove request).loop name).Has other) : (pool.loop name).Has other := by
  rcases has with finished | moved | busy
  · exact Or.inl (List.mem_of_mem_filter finished)
  · exact Or.inr (Or.inl (List.mem_of_mem_filter moved))
  · exact Or.inr (Or.inr busy)

omit [DecidableEq τ] [DecidableEq ℓ] in
/-- A request that can be cancelled is in a queue, either of the pool or of its loop, where
it is when it has been cancelled before. -/
theorem Placed.cancellable_linked (placed : pool.Placed place) {request : ω}
    (here : (pool.loop name).call = .cancel request)
    (cancellable : pool.cancellable request = true) :
    (place request = some .queued ∨ place request = some .finished ∨
      place request = some .moved) ∧
    (lifeOf pool.events request = some .submitted ∨
      lifeOf pool.events request = some .cancelled) := by
  obtain ⟨notPosting, notCancelling⟩ := placed.not_with_loop here
  rcases (placed.cancellable_iff here).mp cancellable with cancelled | queued
  · refine ⟨Or.inr ?_, Or.inr cancelled⟩
    have asked : (pool.loop name).call.cancels = some request := by rw [here]; rfl
    have used := (placed.cancels asked).1
    cases held : place request with
    | none => exact absurd held used
    | some somewhere =>
      have lived := placed.lived held
      rw [cancelled] at lived
      cases somewhere with
      | posting => exact absurd held notPosting
      | cancelling => exact absurd held notCancelling
      | queued => cases lived
      | taken thread => rcases lived with submitted | refused; cases submitted; cases refused
      | executing thread => cases lived
      | finished => exact Or.inl rfl
      | moved => exact Or.inr rfl
  · exact ⟨Or.inl queued, Or.inl (placed.lived queued)⟩

omit [DecidableEq τ] in
/-- `uv__work_cancel` takes a request out of the queue that it is in. -/
theorem Placed.cancel (placed : pool.Placed place) {request : ω}
    (here : (pool.loop name).call = .cancel request)
    (cancellable : pool.cancellable request = true) :
    (((((pool.queueRemove request).setWqMutex (pool.work request).loop none).setMutex none).setWork
      request { pool.work request with work := .cancelled }).setCall name
        (.lockCancelled request)).Placed
      (Function.update place request (some .cancelling)) := by
  obtain ⟨linked, lived⟩ := placed.cancellable_linked here cancellable
  have asked : (pool.loop name).call.cancels = some request := by rw [here]; rfl
  obtain ⟨used, home⟩ := placed.cancels asked
  obtain ⟨source, held⟩ := Option.ne_none_iff_exists'.mp used
  have removed := placed.queueRemove_holds linked
  have unlocked : (pool.queueRemove request).Alike
      ((pool.queueRemove request).setWqMutex (pool.work request).loop none) := .wqMutex _ none
  have vacant (part : LoopCall ω → Option ω) (nothing : part (.cancel request) = none) :
      part (((pool.queueRemove request).setWqMutex (pool.work request).loop none).loop name).call =
        none := by
    rw [setWqMutex_same (fun loop => part loop.call) fun _ _ => rfl]
    change part (pool.loop name).call = none
    rw [here, nothing]
  refine ⟨placed.located.replace ?into ?out, placed.inUse_update held _, ?own, ?asked,
    placed.told_update ?told (fun other different => setWork_other different _) fun _ _ => rfl,
    placed.once.filter _, ?finished, ?moved⟩
  case into =>
    intro other
    refine (setCall_put LoopCall.stores (vacant _ rfl) rfl other).trans (or_congr_right ?_)
    exact (unlocked.holds .cancelling other)
  case out =>
    intro somewhere notCancelling other
    refine (setCall_holds (fun _ => ?_) (fun same => absurd same notCancelling) other).trans
      ((unlocked.holds somewhere other).trans (removed somewhere other))
    exact (vacant LoopCall.posts rfl).symm
  case own =>
    intro name' other has
    refine (setWork_same { pool.work request with
      work := .cancelled } UvWork.loop rfl other).trans ?_
    rcases setCall_has name' has with before | ⟨rfl, posts | stores | cancels⟩
    · exact placed.own name' other (queueRemove_has (unlocked.has.mp before))
    · cases posts
    · obtain rfl := Option.some.inj stores
      exact home
    · cases cancels
  case asked =>
    intro name' other cancels
    rcases setCall_cancels name' cancels with before | nothing
    · exact placed.asked name' other ((unlocked.cancels name').symm.trans before)
    · cases nothing
  case told =>
    refine ⟨?_, lived⟩
    change WorkPlace.Fits ((pool.setWork request _).work request) _
    rw [setWork_self]
    exact rfl
  case finished =>
    refine setCall_nodup PoolLoop.wq (fun _ _ => rfl) fun name' => ?_
    change (((pool.queueRemove request).setWqMutex _ none).loop name').wq.Nodup
    rw [unlocked.finished]
    exact (placed.onceFinished name').filter _
  case moved =>
    refine setCall_nodup PoolLoop.moved (fun _ _ => rfl) fun name' => ?_
    change (((pool.queueRemove request).setWqMutex _ none).loop name').moved.Nodup
    rw [unlocked.moved]
    exact (placed.onceMoved name').filter _

omit [DecidableEq τ] in
/-- `uv__work_cancel` leaves a request that a worker has had. Nothing moves, and it is put on
record that `uv_cancel` has not returned zero. -/
theorem Placed.refuse (placed : pool.Placed place) {request : ω}
    (here : (pool.loop name).call = .cancel request)
    (cancellable : ¬ pool.cancellable request = true) :
    ((((pool.setWqMutex (pool.work request).loop none).setMutex none).setCall name
      .returned).record (.refused request)).Placed place := by
  have asked : (pool.loop name).call.cancels = some request := by rw [here]; rfl
  obtain ⟨notPosting, notCancelling⟩ := placed.not_with_loop here
  have unlocked := placed.quiet (Alike.wqMutex (pool.work request).loop none)
  have call : ((pool.setWqMutex (pool.work request).loop none).loop name).call = .cancel request :=
    (setWqMutex_same PoolLoop.call (fun _ _ => rfl) name).trans here
  have same (somewhere : WorkPlace τ) (other : ω) :
      ((pool.setWqMutex (pool.work request).loop none).setCall name
          .returned).Holds somewhere other ↔
        (pool.setWqMutex (pool.work request).loop none).Holds somewhere other :=
    setCall_holds (fun _ => by rw [call]; rfl) (fun _ => by rw [call]; rfl) other
  refine ⟨unlocked.located.stay same, placed.inUse, ?own, ?asked, ?told, placed.once,
    setCall_nodup PoolLoop.wq (fun _ _ => rfl) unlocked.onceFinished,
    setCall_nodup PoolLoop.moved (fun _ _ => rfl) unlocked.onceMoved⟩
  case own =>
    intro name' other has
    rcases setCall_has name' has with before | ⟨_, posts | stores | cancels⟩
    · exact unlocked.own name' other before
    · cases posts
    · cases stores
    · cases cancels
  case asked =>
    intro name' other cancels
    rcases setCall_cancels name' cancels with before | nothing
    · exact unlocked.asked name' other before
    · cases nothing
  case told =>
    intro other
    by_cases own : other = request
    · rw [own]
      have told := placed.told request
      have after : lifeOf (pool.events ++ [.refused request]) request =
        (lifeOf pool.events request).bind (·.after (.refused request)) := lifeOf_own rfl
      rw [placed.cancellable_iff here, not_or] at cancellable
      cases held : place request with
      | none => exact absurd held (placed.cancels asked).1
      | some somewhere =>
        rw [held] at told notPosting notCancelling cancellable
        refine ⟨told.1, ?_⟩
        change somewhere.Lived (pool.work request).work
          (lifeOf (pool.events ++ [.refused request]) request)
        rw [after]
        refine told.2.refused ?_ ?_ ?_ cancellable.1
        · exact fun same => notPosting (congrArg some same)
        · exact fun same => cancellable.2 (congrArg some same)
        · exact fun same => notCancelling (congrArg some same)
    · exact (placed.told other).congr rfl (lifeOf_other rfl other own)

omit [DecidableEq τ] in
/-- `uv__work_cancel` puts a request that it has cancelled into the queue of the loop. -/
theorem Placed.storeCancelled (placed : pool.Placed place) {request : ω}
    (here : (pool.loop name).call = .storeCancelled request) :
    ((((pool.insertDone name request).setCall name .returned).setWqMutex name none).record
      (.cancelled request)).Placed (Function.update place request (some .finished)) := by
  have stores : (pool.loop name).call.stores = some request := by rw [here]; rfl
  obtain ⟨held, home⟩ := placed.cancelling stores
  have fits : (pool.work request).work = .cancelled := placed.fits held
  have lived := placed.lived held
  have absent (name : ℓ) : request ∉ (pool.loop name).wq := by
    intro member
    have finished := (placed.located .finished request).mp ⟨name, member⟩
    rw [held] at finished
    cases finished
  have call (part : LoopCall ω → Option ω) (owner : ℓ) :
      part ((pool.insertDone name request).loop owner).call = part (pool.loop owner).call :=
    insertDone_same (fun loop => part loop.call) (fun _ _ _ => rfl) owner
  have stored : (((pool.insertDone name request).setCall name .returned).record
      (.cancelled request)).Placed (Function.update place request (some .finished)) := by
    refine ⟨placed.located.move held ?out ?into ?others, placed.inUse_update held _, ?own, ?asked,
      placed.told_update ?told (fun other different => insertDone_other different)
        (lifeOf_other rfl), placed.once,
      setCall_nodup PoolLoop.wq (fun _ _ => rfl)
        (insertDone_nodup placed.onceFinished (absent name)),
      setCall_nodup PoolLoop.moved (fun _ _ => rfl) ?moved⟩
    case out =>
      intro other
      refine (setCall_take LoopCall.stores ((call _ name).trans stores) rfl ?_ other).trans ?_
      · intro owner has
        rw [call LoopCall.stores] at has
        exact (placed.cancelling has).2.symm.trans home
      · refine and_congr_left fun _ => exists_congr fun owner => ?_
        rw [call LoopCall.stores]
    case into =>
      intro other
      refine (setCall_holds (fun same => ?_) (fun same => ?_) other).trans
        (insertDone_finished other)
      · cases same
      · cases same
    case others =>
      intro somewhere notCancelling notFinished other
      refine (setCall_holds (fun _ => ?_) (fun same => absurd same notCancelling) other).trans
        (insertDone_holds notFinished other)
      rw [call LoopCall.posts, here]
      rfl
    case own =>
      intro name' other has
      refine (insertDone_loop other).trans ?_
      rcases setCall_has name' has with before | ⟨_, posts | stores | cancels⟩
      · rcases insertDone_has name' before with before | ⟨rfl, rfl⟩
        · exact placed.own name' other before
        · exact home
      · cases posts
      · cases stores
      · cases cancels
    case asked =>
      intro name' other cancels
      rcases setCall_cancels name' cancels with before | nothing
      · exact placed.asked name' other ((call _ name').symm.trans before)
      · cases nothing
    case told =>
      have after : lifeOf (pool.events ++ [.cancelled request]) request =
        (lifeOf pool.events request).bind (·.after (.cancelled request)) := lifeOf_own rfl
      refine ⟨?_, ?_⟩
      · change WorkPlace.Fits ((pool.insertDone name request).work request) _
        rw [insertDone_self]
        refine ⟨?_, rfl⟩
        change (pool.work request).work ≠ .work
        rw [fits]
        simp
      · change WorkPlace.Lived ((pool.insertDone name request).work request).work
          (lifeOf (pool.events ++ [.cancelled request]) request) .finished
        rw [insertDone_self, after]
        change _ = some (if (pool.work request).work = .cancelled then _ else _)
        rw [if_pos fits]
        rcases lived with submitted | cancelled
        · rw [submitted]
          rfl
        · rw [cancelled]
          rfl
    case moved =>
      intro name'
      rw [insertDone_same PoolLoop.moved fun _ _ _ => rfl]
      exact placed.onceMoved name'
  exact stored.quiet (.wqMutex name none)

omit [DecidableEq τ] in
/-- `uv__work_done` moves the finished requests of the loop to its local queue. Its own queue is
empty afterwards, and each request that was in it keeps its loop. -/
theorem Placed.moveDone (placed : pool.Placed place) (here : (pool.loop name).call = .moveDone)
    (empty : (pool.loop name).moved = []) :
    (pool.setLoop name { pool.loop name with
      moved := (pool.loop name).wq, wq := [], wqMutex := none, draining := true,
      call := .returned }).Placed fun request =>
        if request ∈ (pool.loop name).wq then some .moved else place request := by
  have finished (request : ω) (member : request ∈ (pool.loop name).wq) :
      place request = some .finished ∧ (pool.work request).loop = name :=
    ⟨(placed.located _ _).mp ⟨name, member⟩, placed.own name request (Or.inl member)⟩
  have busy (part : LoopCall ω → Option ω) (nothing : part .returned = part .moveDone)
      (owner : ℓ) : part ((pool.setLoop name { pool.loop name with
        moved := (pool.loop name).wq, wq := [], wqMutex := none, draining := true,
        call := .returned }).loop owner).call = part (pool.loop owner).call := by
    refine setLoop_same _ (fun loop => part loop.call) ?_ owner
    change part .returned = part (pool.loop name).call
    rw [here, nothing]
  have inside (other : ω) (member : other ∈ (pool.loop name).wq) :
      pool.Holds (.finished : WorkPlace τ) other := ⟨name, member⟩
  refine ⟨placed.located.pour inside ?out ?into ?others, ?inUse, ?own, ?asked, ?told, placed.once,
    ?finished, ?moved⟩
  case out =>
    refine exists_update_take (· ∈ (pool.loop name).wq)
      (fun loop : PoolLoop τ ω ℓ => (· ∈ loop.wq)) ?_ ?_
    · intro other owner member has
      exact (placed.own owner other (Or.inl has)).symm.trans (finished other member).2
    · intro other
      exact iff_of_false (List.not_mem_nil) fun still => still.2 still.1
  case into =>
    refine exists_update_put (· ∈ (pool.loop name).wq)
      (fun loop : PoolLoop τ ω ℓ => (· ∈ loop.moved)) ?_
    intro other
    rw [empty]
    exact (or_iff_left List.not_mem_nil).symm
  case others =>
    intro somewhere notFinished notMoved other
    cases somewhere with
    | posting => exact exists_congr fun owner => by rw [busy LoopCall.posts rfl]
    | cancelling => exact exists_congr fun owner => by rw [busy LoopCall.stores rfl]
    | finished => exact absurd rfl notFinished
    | moved => exact absurd rfl notMoved
    | _ => exact Iff.rfl
  case inUse =>
    intro other
    by_cases member : other ∈ (pool.loop name).wq
    · rw [if_pos member]
      exact iff_of_true (placed.used (finished other member).1) (by simp)
    · rw [if_neg member]
      exact placed.inUse other
  case own =>
    intro owner other has
    refine placed.own owner other ?_
    change (Function.update pool.loop name _ owner).Has other at has
    by_cases same : owner = name
    · rw [same, Function.update_self] at has
      rw [same]
      rcases has with finished | moved | posts | stores | cancels
      · cases finished
      · exact Or.inl moved
      · cases posts
      · cases stores
      · cases cancels
    · rw [Function.update_of_ne same] at has
      exact has
  case asked =>
    intro owner other cancels
    rw [busy LoopCall.cancels rfl] at cancels
    exact placed.asked owner other cancels
  case told =>
    intro other
    by_cases member : other ∈ (pool.loop name).wq
    · rw [if_pos member]
      have fits := placed.fits (finished other member).1
      have lived := placed.lived (finished other member).1
      exact ⟨fits, lived⟩
    · rw [if_neg member]
      exact (placed.told other).congr rfl rfl
  case finished =>
    intro owner
    change (Function.update pool.loop name _ owner).wq.Nodup
    by_cases same : owner = name
    · rw [same, Function.update_self]
      exact List.nodup_nil
    · rw [Function.update_of_ne same]
      exact placed.onceFinished owner
  case moved =>
    intro owner
    change (Function.update pool.loop name _ owner).moved.Nodup
    by_cases same : owner = name
    · rw [same, Function.update_self]
      exact placed.onceFinished name
    · rw [Function.update_of_ne same]
      exact placed.onceMoved owner

omit [DecidableEq τ] in
/-- `uv__work_done` calls the callback of the first request in its local queue. After that the
request may be used again, as it is nowhere. -/
theorem Placed.done (placed : pool.Placed place) {request : ω} {rest : List ω} {activeReqs : Nat}
    (returned : (pool.loop name).call = .returned)
    (head : (pool.loop name).moved = request :: rest) :
    { (pool.setLoop name { pool.loop name with moved := rest, activeReqs := activeReqs }).record
        (.done request
          (if (pool.work request).work = WorkFunction.cancelled then UV_ECANCELED else 0)) with
      inUse := pool.inUse.erase request }.Placed (Function.update place request none) := by
  have member : request ∈ (pool.loop name).moved := by
    rw [head]
    exact List.mem_cons_self
  obtain ⟨held, home⟩ := placed.moved member
  have lived := placed.lived held
  have once := placed.onceMoved name
  rw [head] at once
  obtain ⟨fresh, distinct⟩ := List.nodup_cons.mp once
  refine ⟨placed.located.take held ?out ?others, ?inUse, ?own, ?asked,
    placed.told_update ?told (fun _ _ => rfl) (lifeOf_other rfl), placed.once, ?finished, ?moved⟩
  case out =>
    refine exists_update_take (· = request) (fun loop : PoolLoop τ ω ℓ => (· ∈ loop.moved)) ?_ ?_
    · rintro other owner rfl has
      exact (placed.moved has).2.symm.trans home
    · intro other
      rw [head]
      exact mem_tail_iff fresh other
  case others =>
    intro somewhere notMoved other
    cases somewhere with
    | posting =>
      exact exists_update_stay (fun loop : PoolLoop τ ω ℓ => (loop.call.posts = some ·))
        (fun _ => by rfl) other
    | cancelling =>
      exact exists_update_stay (fun loop : PoolLoop τ ω ℓ => (loop.call.stores = some ·))
        (fun _ => by rfl) other
    | finished =>
      exact exists_update_stay (fun loop : PoolLoop τ ω ℓ => (· ∈ loop.wq)) (fun _ => by rfl) other
    | moved => exact absurd rfl notMoved
    | _ => exact Iff.rfl
  case inUse =>
    intro other
    rw [Finset.mem_erase, placed.inUse]
    by_cases own : other = request
    · rw [own, Function.update_self]
      exact iff_of_false (fun still => still.1 rfl) (fun still => still rfl)
    · rw [Function.update_of_ne own]
      exact and_iff_right own
  case own =>
    intro owner other has
    refine placed.own owner other ?_
    change (Function.update pool.loop name _ owner).Has other at has
    by_cases same : owner = name
    · rw [same, Function.update_self] at has
      rw [same]
      rcases has with finished | moved | busy
      · exact Or.inl finished
      · refine Or.inr (Or.inl ?_)
        rw [head]
        exact List.mem_cons_of_mem request moved
      · exact Or.inr (Or.inr busy)
    · rw [Function.update_of_ne same] at has
      exact has
  case asked =>
    intro owner other cancels
    have same := setLoop_same { pool.loop name with moved := rest, activeReqs := activeReqs }
      (fun loop => loop.call.cancels) rfl owner
    have before : (pool.loop owner).call.cancels = some other := same.symm.trans cancels
    refine Finset.mem_erase.mpr ⟨?_, placed.asked owner other before⟩
    -- The thread of the loop is here, so it does not ask for the request.
    rintro rfl
    have here : owner = name := (placed.cancels before).2.symm.trans home
    rw [here, returned] at before
    cases before
  case told =>
    have after : lifeOf (pool.events ++ [.done request
        (if (pool.work request).work = .cancelled then UV_ECANCELED else 0)]) request =
      (lifeOf pool.events request).bind (·.after (.done request
        (if (pool.work request).work = .cancelled then UV_ECANCELED else 0))) := lifeOf_own rfl
    refine after.trans ?_
    have executed : lifeOf pool.events request =
      some (if (pool.work request).work = .cancelled then .cancelled else .executed) := lived
    rw [executed]
    by_cases cancelled : (pool.work request).work = .cancelled
    · rw [if_pos cancelled, if_pos cancelled]
      rfl
    · rw [if_neg cancelled, if_neg cancelled]
      rfl
  case finished =>
    intro owner
    have same := setLoop_same { pool.loop name with moved := rest, activeReqs := activeReqs }
      PoolLoop.wq rfl owner
    exact (congrArg List.Nodup same).mpr (placed.onceFinished owner)
  case moved =>
    intro owner
    change (Function.update pool.loop name _ owner).moved.Nodup
    by_cases same : owner = name
    · rw [same, Function.update_self]
      exact distinct
    · rw [Function.update_of_ne same]
      exact placed.onceMoved owner

omit [DecidableEq τ] in
/-- A request that nobody uses is written, and the thread of a loop goes to post it. Nobody uses
it, so it is nowhere, and nothing that is somewhere changes its place. -/
theorem Placed.submit (placed : pool.Placed place) {request : ω}
    (returned : (pool.loop name).call = .returned) (fresh : request ∉ pool.inUse) :
    { ((pool.setWork request { pool.work request with loop := name, work := .work }).setCall name
        (.lockPost request)).record (.submitted request) with
      inUse := insert request pool.inUse }.Placed
      (Function.update place request (some .posting)) := by
  have nowhere : place request = none := by
    by_contra somewhere
    exact fresh ((placed.inUse request).mpr somewhere)
  have vacant (part : LoopCall ω → Option ω) (nothing : part .returned = none) :
      part (pool.loop name).call = none := by rw [returned, nothing]
  -- No queue has the request, and no thread asks for it.
  have unknown (owner : ℓ) : ¬ (pool.loop owner).Has request := by
    have absent := placed.located.nowhere nowhere
    rintro (finished | moved | posts | stores | cancels)
    · exact absent .finished ⟨owner, finished⟩
    · exact absent .moved ⟨owner, moved⟩
    · exact absent .posting ⟨owner, posts⟩
    · exact absent .cancelling ⟨owner, stores⟩
    · exact fresh (placed.asked owner request cancels)
  refine ⟨placed.located.put nowhere ?into ?others, ?inUse, ?own, ?asked,
    placed.told_update ?told (fun other different => setWork_other different _)
      (lifeOf_other rfl), placed.once,
    setCall_nodup PoolLoop.wq (fun _ _ => rfl) placed.onceFinished,
    setCall_nodup PoolLoop.moved (fun _ _ => rfl) placed.onceMoved⟩
  case into =>
    intro other
    exact setCall_put LoopCall.posts (vacant _ rfl) rfl other
  case others =>
    intro somewhere notPosting other
    refine setCall_holds (fun same => absurd same notPosting) (fun _ => ?_) other
    exact (vacant LoopCall.stores rfl).symm
  case inUse =>
    intro other
    rw [Finset.mem_insert, placed.inUse]
    by_cases own : other = request
    · rw [own, Function.update_self]
      exact iff_of_true (Or.inl rfl) (by simp)
    · rw [Function.update_of_ne own]
      exact or_iff_right own
  case own =>
    intro owner other has
    change ((pool.setWork request { pool.work request with
      loop := name, work := .work }).work other).loop = owner
    by_cases own : other = request
    · rw [own, setWork_self]
      rw [own] at has
      rcases setCall_has owner has with before | ⟨same, _⟩
      · exact absurd before (unknown owner)
      · exact same.symm
    · rw [setWork_other own]
      rcases setCall_has owner has with before | ⟨_, posts | stores | cancels⟩
      · exact placed.own owner other before
      · exact absurd (Option.some.inj posts).symm own
      · cases stores
      · cases cancels
  case asked =>
    intro owner other cancels
    rcases setCall_cancels owner cancels with before | nothing
    · exact Finset.mem_insert_of_mem (placed.asked owner other before)
    · cases nothing
  case told =>
    have after : lifeOf (pool.events ++ [.submitted request]) request =
      (lifeOf pool.events request).bind (·.after (.submitted request)) := lifeOf_own rfl
    refine ⟨?_, ?_⟩
    · change WorkPlace.Fits ((pool.setWork request _).work request) _
      rw [setWork_self]
      exact rfl
    · refine after.trans ?_
      rw [placed.free nowhere]
      rfl

omit [DecidableEq τ] in
/-- A loop submits a request, and counts it. -/
theorem Placed.queueWork (placed : pool.Placed place) {request : ω}
    (returned : (pool.loop name).call = .returned) (fresh : request ∉ pool.inUse) :
    (pool.uvQueueWork name request).Placed (Function.update place request (some .posting)) := by
  have counted : (pool.setLoop name { pool.loop name with
      activeReqs := (pool.loop name).activeReqs + 1 }).Placed place :=
    placed.quiet (.loop rfl rfl rfl rfl rfl)
  refine counted.submit ?_ fresh
  simp only [setLoop, Function.update_self]
  exact returned

omit [DecidableEq τ] in
/-- A loop asks for a request of its own to be cancelled. Asking does not move it; that is left
to the steps of `uv__work_cancel`. -/
theorem Placed.askCancel (placed : pool.Placed place) {request : ω}
    (returned : (pool.loop name).call = .returned) (used : request ∈ pool.inUse)
    (own : (pool.work request).loop = name) :
    (pool.setCall name (.lockCancel request)).Placed place := by
  have same (somewhere : WorkPlace τ) (other : ω) :
      (pool.setCall name (.lockCancel request)).Holds somewhere other ↔
        pool.Holds somewhere other :=
    setCall_holds (fun _ => by rw [returned]; rfl) (fun _ => by rw [returned]; rfl) other
  refine ⟨placed.located.stay same, placed.inUse, ?own, ?asked, ?told, placed.once,
    setCall_nodup PoolLoop.wq (fun _ _ => rfl) placed.onceFinished,
    setCall_nodup PoolLoop.moved (fun _ _ => rfl) placed.onceMoved⟩
  case own =>
    intro owner other has
    rcases setCall_has owner has with before | ⟨rfl, posts | stores | cancels⟩
    · exact placed.own owner other before
    · cases posts
    · cases stores
    · obtain rfl := Option.some.inj cancels
      exact own
  case asked =>
    intro owner other cancels
    rcases setCall_cancels owner cancels with before | asks
    · exact placed.asked owner other before
    · obtain rfl := Option.some.inj asks
      exact used
  case told => exact fun other => (placed.told other).congr rfl rfl

omit [DecidableEq ℓ] in
/-- The process ends: a message that is no request joins the queue. -/
theorem Placed.postExit (placed : pool.Placed place) (posted : .exitMessage ∉ pool.wq)
    (wakes : pool.Wakes woken) :
    { pool.post .exitMessage woken with cleanup := .join, mutex := none }.Placed place := by
  have same (somewhere : WorkPlace τ) (other : ω) :
      (pool.post .exitMessage woken).Holds somewhere other ↔ pool.Holds somewhere other := by
    by_cases queued : somewhere = .queued
    · rw [queued, post_queued]
      exact or_iff_right (by simp)
    · exact post_holds wakes .exitMessage queued other
  have joined : (pool.post .exitMessage woken).Placed place :=
    ⟨placed.located.stay same, placed.inUse, placed.own, placed.asked,
      fun other => (placed.told other).congr rfl rfl, nodup_append_singleton placed.once posted,
      placed.onceFinished, placed.onceMoved⟩
  exact joined.quiet (.aside none _ .join)

end Loops

omit [DecidableEq τ] in
/-- With no request left to report, the loop is done with the pass. -/
theorem workDonePass_nil (head : (pool.loop name).moved = []) :
    pool.workDonePass name =
      .ok (pool.setLoop name { pool.loop name with draining := false }) := by
  rw [workDonePass]
  dsimp only
  split
  · rfl
  · rename_i request rest other
    rw [head] at other
    cases other

omit [DecidableEq τ] in
/-- What a round of `uv__work_done` comes to, if the assertion holds. -/
theorem workDonePass_cons {request : ω} {rest : List ω}
    (head : (pool.loop name).moved = request :: rest) (active : 0 < (pool.loop name).activeReqs) :
    pool.workDonePass name = .ok
      { (pool.setLoop name { pool.loop name with
            moved := rest, activeReqs := (pool.loop name).activeReqs - 1 }).record (.done request
          (if (pool.work request).work = WorkFunction.cancelled then UV_ECANCELED else 0)) with
        inUse := pool.inUse.erase request } := by
  simp only [workDonePass, head, queueDone, reqUnregister, setLoop, Function.update_self,
    if_pos active, Function.update_idem]
  rfl

omit [DecidableEq τ] in
/-- A round of `uv__work_done` that runs into no fault finds the queue empty, or it takes a
request out of it and calls its `done`. -/
theorem workDonePass_cases (stepped : pool.workDonePass name = .ok next) :
    ((pool.loop name).moved = [] ∧
      next = pool.setLoop name { pool.loop name with draining := false }) ∨
    ∃ request rest, (pool.loop name).moved = request :: rest ∧ next =
      { (pool.setLoop name { pool.loop name with
            moved := rest, activeReqs := (pool.loop name).activeReqs - 1 }).record (.done request
          (if (pool.work request).work = WorkFunction.cancelled then UV_ECANCELED else 0)) with
        inUse := pool.inUse.erase request } := by
  cases head : (pool.loop name).moved with
  | nil =>
    rw [workDonePass_nil head] at stepped
    exact Or.inl ⟨rfl, (Except.ok.inj stepped).symm⟩
  | cons request rest =>
    by_cases active : 0 < (pool.loop name).activeReqs
    · rw [workDonePass_cons head active] at stepped
      exact Or.inr ⟨request, rest, rfl, (Except.ok.inj stepped).symm⟩
    · simp only [workDonePass, head, queueDone, reqUnregister, setLoop, Function.update_self,
        if_neg active] at stepped
      cases stepped

section Draining

/-- How far each loop is with its own queue. -/
def Drained (pool : WorkerPool τ ω ℓ) : Prop := ∀ name, (pool.loop name).Drained

omit [DecidableEq τ] [DecidableEq ω] in
/-- One loop goes on. -/
theorem Drained.setLoop (drained : pool.Drained) {loop : PoolLoop τ ω ℓ} (own : loop.Drained) :
    (pool.setLoop name loop).Drained := by
  intro other
  change (Function.update pool.loop name loop other).Drained
  by_cases same : other = name
  · rw [same, Function.update_self]
    exact own
  · rw [Function.update_of_ne same]
    exact drained other

omit [DecidableEq τ] [DecidableEq ω] in
/-- The mutex of a loop changes hands. -/
theorem Drained.setWqMutex (drained : pool.Drained) (owner : Option (PoolThread τ ℓ)) :
    (pool.setWqMutex name owner).Drained :=
  drained.setLoop ⟨(drained name).moved, (drained name).done, (drained name).async⟩

omit [DecidableEq τ] [DecidableEq ω] in
/-- The thread of a loop goes on, and does not come to `uv__work_done` or leave it. -/
theorem Drained.setCall (drained : pool.Drained) {here there : LoopCall ω}
    (at_here : (pool.loop name).call = here) (same : there.InWorkDone ↔ here.InWorkDone) :
    (pool.setCall name there).Drained := by
  subst at_here
  obtain ⟨moved, done, async⟩ := drained name
  exact drained.setLoop ⟨moved, fun inside => done (same.mp inside),
    fun waits => (async waits).imp_right same.mpr⟩

omit [DecidableEq τ] in
/-- A request is finished, and the loop is told of it. -/
theorem Drained.insertDone (drained : pool.Drained) (request : ω) :
    (pool.insertDone name request).Drained := by
  have finished : (pool.setLoop name { pool.loop name with
      wq := (pool.loop name).wq ++ [request], wqAsync := true }).Drained :=
    drained.setLoop ⟨(drained name).moved, (drained name).done, fun _ => Or.inl rfl⟩
  exact finished

omit [DecidableEq τ] [DecidableEq ℓ] in
/-- A request is taken out of the queues. -/
theorem Drained.queueRemove (drained : pool.Drained) (request : ω) :
    (pool.queueRemove request).Drained := by
  intro name
  obtain ⟨moved, done, async⟩ := drained name
  refine ⟨fun still => ?_, done, fun waits => async fun empty => waits ?_⟩
  · exact (congrArg (List.filter _) (moved still)).trans List.filter_nil
  · exact (congrArg (List.filter _) empty).trans List.filter_nil

/-- A worker tells the loop of each request that it puts into its queue. -/
theorem Drained.workerStep (drained : pool.Drained)
    (stepped : pool.workerStep thread woken = .ok next) : next.Drained := by
  rw [WorkerPool.workerStep] at stepped
  cases here : pool.worker thread with
  | check =>
    rw [here] at stepped
    cases wq : pool.wq with
    | nil =>
      simp only [wq] at stepped
      cases stepped
      exact drained
    | cons message rest =>
      cases message with
      | work request =>
        simp only [wq] at stepped
        cases stepped
        exact drained
      | exitMessage =>
        simp only [wq] at stepped
        cases stepped
        exact drained
  | call request =>
    rw [here] at stepped
    cases function : (pool.work request).work with
    | null =>
      simp only [function] at stepped
      cases stepped
    | cancelled =>
      simp only [function] at stepped
      cases stepped
    | work =>
      simp only [function] at stepped
      cases stepped
      exact drained
  | lockStore request =>
    rw [here] at stepped
    cases stepped
    exact drained.setWqMutex (some (.worker thread))
  | store request =>
    rw [here] at stepped
    cases stepped
    exact (drained.insertDone request).setWqMutex none
  | _ =>
    rw [here] at stepped
    cases stepped
    exact drained

/-- The thread of a loop moves its queue only when it has emptied the one it moved before. -/
theorem Drained.loopStep (drained : pool.Drained)
    (stepped : pool.loopStep name woken = .ok next) : next.Drained := by
  rw [WorkerPool.loopStep] at stepped
  cases call : (pool.loop name).call with
  | returned =>
    rw [call] at stepped
    have outside : ¬ (pool.loop name).call.InWorkDone := by rw [call]; exact id
    obtain ⟨moved, done, async⟩ := drained name
    rcases workDonePass_cases stepped with ⟨head, rfl⟩ | ⟨request, rest, head, rfl⟩
    · exact drained.setLoop ⟨fun _ => head, fun inside => absurd inside outside, async⟩
    · refine drained.setLoop ⟨fun still => ?_, done, async⟩
      rw [moved still] at head
      cases head
  | lockPost request =>
    rw [call] at stepped
    cases stepped
    exact drained.setCall call Iff.rfl
  | post request =>
    rw [call] at stepped
    cases stepped
    exact drained.setCall call Iff.rfl
  | lockCancel request =>
    rw [call] at stepped
    cases stepped
    exact drained.setCall call Iff.rfl
  | lockCancelLoop request =>
    rw [call] at stepped
    cases stepped
    have called : (pool.setCall name (.cancel request)).Drained := drained.setCall call Iff.rfl
    exact called.setWqMutex (some (.loop name))
  | cancel request =>
    rw [call] at stepped
    dsimp only at stepped
    by_cases cancelled : pool.cancellable request = true
    · rw [if_pos cancelled, if_pos cancelled] at stepped
      cases stepped
      exact ((drained.queueRemove request).setWqMutex none).setCall
        ((setWqMutex_same PoolLoop.call (fun _ _ => rfl) name).trans call) Iff.rfl
    · rw [if_neg cancelled, if_neg cancelled] at stepped
      cases stepped
      exact (drained.setWqMutex none).setCall
        ((setWqMutex_same PoolLoop.call (fun _ _ => rfl) name).trans call) Iff.rfl
  | lockCancelled request =>
    rw [call] at stepped
    cases stepped
    have called : (pool.setCall name (.storeCancelled request)).Drained :=
      drained.setCall call Iff.rfl
    exact called.setWqMutex (some (.loop name))
  | storeCancelled request =>
    rw [call] at stepped
    cases stepped
    have stored : ((pool.insertDone name request).setCall name .returned).Drained :=
      (drained.insertDone request).setCall
        ((insertDone_same PoolLoop.call (fun _ _ _ => rfl) name).trans call) Iff.rfl
    exact stored.setWqMutex none
  | lockDone =>
    rw [call] at stepped
    cases stepped
    have called : (pool.setCall name .moveDone).Drained := drained.setCall call Iff.rfl
    exact called.setWqMutex (some (.loop name))
  | moveDone =>
    rw [call] at stepped
    cases stepped
    exact drained.setLoop ⟨by simp, False.elim, fun waits => absurd rfl waits⟩

end Draining

/-- `active_reqs` of a loop counts its requests. -/
def Registered (pool : WorkerPool τ ω ℓ) : Prop :=
  ∀ name, (pool.loop name).activeReqs =
    (pool.inUse.filter fun request => (pool.work request).loop = name).card

omit [DecidableEq τ] in
/-- A finished request is one of those that its loop counts. -/
theorem Registered.active (registered : pool.Registered) (placed : pool.Placed place)
    {request : ω} (member : request ∈ (pool.loop name).moved) :
    0 < (pool.loop name).activeReqs := by
  obtain ⟨held, own⟩ := placed.moved member
  rw [registered name]
  exact Finset.card_pos.mpr ⟨request, Finset.mem_filter.mpr ⟨placed.used held, own⟩⟩

/-- A worker goes on without a fault. The cases are the places of a worker, and the next place
of each request is that of the lemma for the step. -/
theorem Placed.workerStep (placed : pool.Placed place) (ready : pool.Ready (.worker thread))
    (wakes : pool.Wakes woken) :
    ∃ next place', pool.workerStep thread woken = .ok next ∧ next.Placed place' := by
  rw [WorkerPool.workerStep]
  rw [Ready] at ready
  cases here : pool.worker thread with
  | lock =>
    have moved : pool.Alike (pool.setWorker thread .check) := .worker here rfl rfl
    exact ⟨_, place, rfl, placed.quiet (moved.trans (.aside _ _ _))⟩
  | check =>
    dsimp only
    split
    case h_1 wq =>
      have moved : pool.Alike (pool.setWorker thread .wait) := .worker here rfl rfl
      exact ⟨_, place, rfl, placed.quiet (moved.trans (.aside none (pool.idleThreads + 1) _))⟩
    case h_2 rest wq =>
      have moved : pool.Alike (pool.setWorker thread .exited) := .worker here rfl rfl
      have signalled : (pool.setWorker thread .exited).Alike
          ((pool.setWorker thread .exited).signal woken) := by
        refine .signal fun other same => ?_
        have apart : other ≠ thread := by
          rintro rfl
          exact wakes.apart (by rw [here]; simp) same
        simp only [setWorker, Function.update_of_ne apart]
        exact wakes.waiting same
      exact ⟨_, place, rfl, placed.quiet (moved.trans (signalled.trans (.aside none _ _)))⟩
    case h_3 request rest wq => exact ⟨_, _, rfl, placed.take here wq⟩
  | wake =>
    have moved : pool.Alike (pool.setWorker thread .check) := .worker here rfl rfl
    exact ⟨_, place, rfl, placed.quiet (moved.trans
      (.aside (some (.worker thread)) (pool.idleThreads - 1) _))⟩
  | call request =>
    have function : (pool.work request).work = .work :=
      (placed.fits (placed.taken (by rw [here]; rfl))).1
    dsimp only
    rw [function]
    exact ⟨_, _, rfl, placed.call here⟩
  | run request => exact ⟨_, place, rfl, placed.quiet (.worker here rfl rfl)⟩
  | lockStore request =>
    have moved : pool.Alike (pool.setWorker thread (.store request)) := .worker here rfl rfl
    exact ⟨_, place, rfl, placed.quiet (moved.trans (.wqMutex _ _))⟩
  | store request => exact ⟨_, _, rfl, placed.store here⟩
  | wait => rw [here] at ready; cases ready
  | exited => rw [here] at ready; cases ready

/-- The thread of a loop goes on without a fault, since every request that is not done is
counted. -/
theorem Placed.loopStep (placed : pool.Placed place) (drained : pool.Drained)
    (registered : pool.Registered) (wakes : pool.Wakes woken) :
    ∃ next place', pool.loopStep name woken = .ok next ∧ next.Placed place' := by
  rw [WorkerPool.loopStep]
  cases here : (pool.loop name).call with
  | returned =>
    cases head : (pool.loop name).moved with
    | nil =>
      exact ⟨_, place, workDonePass_nil head, placed.quiet (.loop rfl rfl rfl rfl rfl)⟩
    | cons request rest =>
      have active := registered.active placed (by rw [head]; exact List.mem_cons_self)
      exact ⟨_, _, workDonePass_cons head active, placed.done here head⟩
  | lockPost request =>
    have moved : pool.Alike (pool.setCall name (.post request)) := .call here rfl rfl rfl
    exact ⟨_, place, rfl, placed.quiet (moved.trans (.aside _ _ _))⟩
  | post request => exact ⟨_, _, rfl, placed.post here wakes⟩
  | lockCancel request =>
    have moved : pool.Alike (pool.setCall name (.lockCancelLoop request)) := .call here rfl rfl rfl
    exact ⟨_, place, rfl, placed.quiet (moved.trans (.aside _ _ _))⟩
  | lockCancelLoop request =>
    have moved : pool.Alike (pool.setCall name (.cancel request)) := .call here rfl rfl rfl
    exact ⟨_, place, rfl, placed.quiet (moved.trans (.wqMutex _ _))⟩
  | cancel request =>
    dsimp only
    by_cases cancellable : pool.cancellable request = true
    · rw [if_pos cancellable, if_pos cancellable]
      exact ⟨_, _, rfl, placed.cancel here cancellable⟩
    · rw [if_neg cancellable, if_neg cancellable]
      exact ⟨_, _, rfl, placed.refuse here cancellable⟩
  | lockCancelled request =>
    have moved : pool.Alike (pool.setCall name (.storeCancelled request)) := .call here rfl rfl rfl
    exact ⟨_, place, rfl, placed.quiet (moved.trans (.wqMutex _ _))⟩
  | storeCancelled request => exact ⟨_, _, rfl, placed.storeCancelled here⟩
  | lockDone =>
    have moved : pool.Alike (pool.setCall name .moveDone) := .call here rfl rfl rfl
    exact ⟨_, place, rfl, placed.quiet (moved.trans (.wqMutex _ _))⟩
  | moveDone =>
    have empty := (drained name).moved ((drained name).done (by rw [here]; trivial))
    exact ⟨_, _, rfl, placed.moveDone here empty⟩

end WorkerPool

end MoeUV
