import MoeUV.Work.ThreadPool

/-!
# Handing work over

The life of one request is a fixed sequence of steps, except that the loop thread
sets `data` while a worker may already take the request. Every request that was
ever queued is somewhere in its life, and everything the thread pool knows of it
follows from where. A worker that meets a request before its `data` is set runs
into the null pointer; in a run where this does not happen, each job gets exactly
its own callbacks.
-/

namespace MoeUV

open Foundation.Execution

variable {Callback : Type}

/-- The states of a request between `MOE_UV_NEW` and its release. -/
inductive Life where
  | created
  | filled
  | published (taken bound : Bool)
  | worked
  | done
  | returning
  | released

/-- What the thread pool knows of one request. -/
@[ext] structure View (Callback : Type) where
  request : Option (UVWorkReq Callback)
  call : Option (Stage × Job Callback)
  place : Option Place
  returning : Bool
  history : List (WorkEvent Callback)

def ThreadPool.view (pool : ThreadPool Callback) (id : RequestId) : View Callback where
  request := pool.requests id
  call := pool.queueing.bind fun call =>
    if call.object = id then some (call.stage, call.job) else none
  place := pool.place id
  returning := decide (pool.returning = some id)
  history := pool.history id

namespace Job

variable (job : Job Callback) (id : RequestId)

/-- The filled request. -/
def request (data : Option RequestId) : UVWorkReq Callback :=
  ⟨data, job.work, job.afterWork, job.userData⟩

/-- The events up to the end of `OnWork`, latest first. -/
def working : List (WorkEvent Callback) :=
  (job.work.map fun callback => .work id callback job.userData).toList ++ [.found id id]

/-- The events up to the end of `OnAfterWork`. -/
def finishing : List (WorkEvent Callback) :=
  (job.afterWork.map fun callback => .afterWork id callback 0 job.userData).toList ++
    job.working id

/-- All events of the request: it finds itself, makes each callback once, in
order and with its own data, and is released once. -/
def complete : List (WorkEvent Callback) := .released id :: job.finishing id

end Job

/-- What the thread pool knows of a request that does not exist yet. -/
def View.unborn : View Callback := ⟨none, none, none, false, []⟩

/-- What the thread pool knows of a request at a point of its life. -/
def Life.view (job : Job Callback) (id : RequestId) : Life → View Callback
  | .created => ⟨some ⟨none, none, none, 0⟩, some (.created, job), none, false, []⟩
  | .filled => ⟨some (job.request none), some (.filled, job), none, false, []⟩
  | .published taken bound =>
    ⟨some (job.request (if bound then some id else none)),
      if bound then none else some (.published, job),
      some (if taken then .taken else .queued), false, []⟩
  | .worked => ⟨some (job.request (some id)), none, some .worked, false, job.working id⟩
  | .done => ⟨some (job.request (some id)), none, some .done, false, job.working id⟩
  | .returning => ⟨some (job.request (some id)), none, some .returned, true, job.finishing id⟩
  | .released => ⟨none, none, some .returned, false, job.complete id⟩

/-- Every request queued so far is somewhere in its life, and there are no
others. -/
def Tracked (pool : ThreadPool Callback) : Prop :=
  ∀ id, match pool.calls[id]? with
    | some job => ∃ life : Life, pool.view id = life.view job id
    | none => pool.view id = .unborn

/-- The request is with nobody any more. -/
structure ThreadPool.AtRest (pool : ThreadPool Callback) (id : RequestId) : Prop where
  notQueueing : pool.queueing.map QueueCall.object ≠ some id
  notHeld : ∀ place, pool.place id = some place → place = .returned
  notReturning : pool.returning ≠ some id

/-- Each job is handed to exactly its own callbacks. -/
structure HandsOver (pool : ThreadPool Callback) : Prop where
  /-- Whatever happened to a request so far is the beginning of its complete life. -/
  ordered : ∀ id job, pool.calls[id]? = some job → pool.history id <:+ job.complete id
  /-- Nothing is missing once the request is with nobody any more. -/
  completed : ∀ id job, pool.calls[id]? = some job → pool.AtRest id →
    pool.history id = job.complete id
  /-- Nothing happened to any other request. -/
  known : ∀ event ∈ pool.events, event.request < pool.calls.length

variable {pool next : ThreadPool Callback}

/-- A request that was made has a life that its place, its box and its history show. -/
theorem Tracked.born (tracked : Tracked pool) {id : RequestId} {job : Job Callback}
    (called : pool.calls[id]? = some job) : ∃ life : Life, pool.view id = life.view job id := by
  have known := tracked id
  rw [called] at known
  exact known

/-- One that was not made has none. -/
theorem Tracked.unborn (tracked : Tracked pool) {id : RequestId}
    (beyond : pool.calls[id]? = none) : pool.view id = .unborn := by
  have known := tracked id
  rw [beyond] at known
  exact known

/-- A request that is known in any way was queued. -/
theorem Tracked.known (tracked : Tracked pool) {id : RequestId} (known : pool.view id ≠ .unborn) :
    ∃ job, pool.calls[id]? = some job ∧ ∃ life : Life, pool.view id = life.view job id := by
  cases called : pool.calls[id]? with
  | none => exact absurd (tracked.unborn called) known
  | some job => exact ⟨job, rfl, tracked.born called⟩

/-- Every point of a life is on the way to the complete life. -/
theorem life_history_suffix (life : Life) (job : Job Callback) (id : RequestId) :
    (life.view job id).history <:+ job.complete id := by
  have working : job.working id <:+ job.complete id :=
    List.suffix_cons_iff.mpr (Or.inr (List.suffix_append _ _))
  cases life with
  | created => exact List.nil_suffix
  | filled => exact List.nil_suffix
  | published taken bound => exact List.nil_suffix
  | worked => exact working
  | done => exact working
  | returning => exact List.suffix_cons _ _
  | released => exact List.suffix_rfl

/-- A tracked pool hands work over correctly. What the history of a request tells is told by the
state of its life, in which both callbacks occur at most once and in order. -/
theorem Tracked.handsOver (tracked : Tracked pool) : HandsOver pool := by
  constructor
  · intro id job called
    obtain ⟨life, seen⟩ := tracked.born called
    have history : pool.history id = (life.view job id).history := congrArg View.history seen
    rw [history]
    exact life_history_suffix life job id
  · intro id job called rest
    obtain ⟨life, seen⟩ := tracked.born called
    have history : pool.history id = (life.view job id).history := congrArg View.history seen
    have place : pool.place id = (life.view job id).place := congrArg View.place seen
    have call := congrArg View.call seen
    have returning := congrArg View.returning seen
    have idle : (pool.view id).call = none := by
      simp only [ThreadPool.view, Option.bind_eq_none_iff, ite_eq_right_iff]
      intro call queueing same
      exact absurd (by simp [queueing, same]) rest.notQueueing
    rw [idle] at call
    cases life with
    | created => cases call
    | filled => cases call
    | published taken bound =>
      have returned := rest.notHeld _ place
      cases taken <;> cases returned
    | worked => exact absurd (rest.notHeld _ place) nofun
    | done => exact absurd (rest.notHeld _ place) nofun
    | returning =>
      exact absurd (by simpa [ThreadPool.view, Life.view] using returning) rest.notReturning
    | released => exact history
  · intro event member
    by_contra beyond
    have unborn := tracked.unborn (List.getElem?_eq_none (Nat.not_lt.mp beyond))
    have empty : pool.history event.request = [] := congrArg View.history unborn
    have present : event ∈ pool.history event.request := by simp [ThreadPool.history, member]
    rw [empty] at present
    cases present

/-- A step that touches one request and queues none. -/
theorem Tracked.frame (tracked : Tracked pool) (touched : RequestId) {job : Job Callback}
    (calls : next.calls = pool.calls) (called : pool.calls[touched]? = some job) (life : Life)
    (changed : next.view touched = life.view job touched)
    (others : ∀ id, id ≠ touched → next.view id = pool.view id) : Tracked next := by
  intro id
  rw [calls]
  by_cases same : id = touched
  · rw [same, called]
    exact ⟨life, changed⟩
  · rw [others id same]
    exact tracked id

/-- A request that a step does not touch looks the same afterwards. -/
theorem view_unchanged {id : RequestId} (request : next.requests id = pool.requests id)
    (call : (next.view id).call = (pool.view id).call) (place : next.place id = pool.place id)
    (returning : next.returning = some id ↔ pool.returning = some id)
    (history : next.history id = pool.history id) : next.view id = pool.view id :=
  View.ext request call place (decide_eq_decide.mpr returning) history

/-- The events of one request do not belong to another. -/
theorem history_record_other {id other : RequestId} (events : List (WorkEvent Callback))
    (own : ∀ event ∈ events, event.request = id) (apart : other ≠ id) :
    (pool.record events).history other = pool.history other := by
  rw [ThreadPool.history, ThreadPool.record, List.filter_append,
    List.filter_eq_nil_iff.mpr, List.nil_append]
  · rfl
  · intro event member
    simp [own event member, Ne.symm apart]

/-- What is recorded of a request goes into its own history. -/
theorem history_record_own {id : RequestId} (events : List (WorkEvent Callback))
    (own : ∀ event ∈ events, event.request = id) :
    (pool.record events).history id = events ++ pool.history id := by
  rw [ThreadPool.history, ThreadPool.record, List.filter_append, List.filter_eq_self.mpr]
  · rfl
  · intro event member
    simp [own event member]

section QueueWork

/-- The call that the loop thread is in belongs to its request. Its request has been created, so
there is a job for it and a life that agrees with the call. -/
theorem Tracked.queueing (tracked : Tracked pool) {call : QueueCall Callback}
    (queueing : pool.queueing = some call) :
    pool.calls[call.object]? = some call.job ∧
      ∃ life : Life, pool.view call.object = life.view call.job call.object ∧
        (life.view call.job call.object).call = some (call.stage, call.job) := by
  have seen : (pool.view call.object).call = some (call.stage, call.job) := by
    simp [ThreadPool.view, queueing]
  have known : pool.view call.object ≠ .unborn := by
    intro unborn
    rw [unborn] at seen
    cases seen
  obtain ⟨job, called, life, view⟩ := tracked.known known
  rw [view] at seen
  have same : job = call.job := by
    cases life with
    | created => exact (Prod.mk.inj (Option.some.inj seen)).2
    | filled => exact (Prod.mk.inj (Option.some.inj seen)).2
    | published taken bound =>
      cases bound with
      | false => exact (Prod.mk.inj (Option.some.inj seen)).2
      | true => cases seen
    | worked => cases seen
    | done => cases seen
    | returning => cases seen
    | released => cases seen
  subst same
  exact ⟨called, life, view, seen⟩

/-- The loop thread enters `QueueWork`. The new request begins its life, and the views of all
others are the same. -/
theorem Tracked.create (tracked : Tracked pool) (job : Job Callback)
    (idle : pool.queueing = none) : Tracked (pool.create job) := by
  have unborn := tracked.unborn (List.getElem?_eq_none (Nat.le_refl pool.calls.length))
  obtain ⟨_, _, place, returning, history⟩ := View.ext_iff.mp unborn
  intro id
  have calls : (pool.create job).calls[id]? = (pool.calls ++ [job])[id]? := rfl
  by_cases same : id = pool.calls.length
  · subst same
    rw [calls, List.getElem?_concat_length]
    refine ⟨.created, View.ext ?_ ?_ ?_ ?_ ?_⟩
    · simp [ThreadPool.view, ThreadPool.create, ThreadPool.setRequest, Life.view]
    · simp [ThreadPool.view, ThreadPool.create, Life.view]
    · exact place
    · exact returning
    · exact history
  · have others : (pool.create job).view id = pool.view id := by
      refine view_unchanged ?_ ?_ rfl Iff.rfl rfl
      · exact Function.update_of_ne same _ _
      · simp [ThreadPool.view, ThreadPool.create, idle, Ne.symm same]
    have before : (pool.calls ++ [job])[id]? = pool.calls[id]? := by
      rcases Nat.lt_or_gt_of_ne same with earlier | later
      · exact List.getElem?_append_left earlier
      · have beyond : (pool.calls ++ [job]).length ≤ id := by simpa using Nat.succ_le_of_lt later
        rw [List.getElem?_eq_none beyond, List.getElem?_eq_none (Nat.le_of_lt later)]
    rw [calls, before, others]
    exact tracked id

/-- The request is filled before it is published. -/
theorem Tracked.fill (tracked : Tracked pool) {call : QueueCall Callback}
    (queueing : pool.queueing = some call) (stage : call.stage = .created) :
    ∃ next, pool.fill call = .ok next ∧ Tracked next := by
  obtain ⟨called, life, seen, active⟩ := tracked.queueing queueing
  rw [stage] at active
  cases life with
  | created =>
    obtain ⟨request, _, place, returning, history⟩ := View.ext_iff.mp seen
    have request : pool.requests call.object = some ⟨none, none, none, 0⟩ := request
    refine ⟨_, by simp only [ThreadPool.fill, ThreadPool.deref, request, ok_bind]; rfl, ?_⟩
    refine tracked.frame call.object rfl called .filled ?_ ?_
    · refine View.ext ?_ ?_ place returning history
      · simp [ThreadPool.view, ThreadPool.setRequest, Life.view, Job.request]
      · simp [ThreadPool.view, Life.view]
    · intro id apart
      refine view_unchanged (Function.update_of_ne apart _ _) ?_ rfl Iff.rfl rfl
      simp [ThreadPool.view, queueing, Ne.symm apart]
  | published taken bound => cases bound <;> cases active
  | _ => cases active

/-- It is published while the caller still owns its box, -/
theorem Tracked.publish (tracked : Tracked pool) {call : QueueCall Callback}
    (queueing : pool.queueing = some call) (stage : call.stage = .filled) :
    Tracked (pool.publish call) := by
  obtain ⟨called, life, seen, active⟩ := tracked.queueing queueing
  rw [stage] at active
  cases life with
  | filled =>
    obtain ⟨request, _, _, returning, history⟩ := View.ext_iff.mp seen
    refine tracked.frame call.object rfl called (.published false false) ?_ ?_
    · refine View.ext request ?_ ?_ returning history
      · simp [ThreadPool.view, ThreadPool.publish, Life.view]
      · simp [ThreadPool.view, ThreadPool.publish, ThreadPool.setPlace, Life.view]
    · intro id apart
      refine view_unchanged rfl ?_ (Function.update_of_ne apart _ _) Iff.rfl rfl
      simp [ThreadPool.view, ThreadPool.publish, queueing, Ne.symm apart]
  | published taken bound => cases bound <;> cases active
  | _ => cases active

/-- which gives it away only then. -/
theorem Tracked.moveOwnerSelf (tracked : Tracked pool) {call : QueueCall Callback}
    (queueing : pool.queueing = some call) (stage : call.stage = .published) :
    ∃ next, pool.moveOwnerSelf call = .ok next ∧ Tracked next := by
  obtain ⟨called, life, seen, active⟩ := tracked.queueing queueing
  rw [stage] at active
  cases life with
  | published taken bound =>
    cases bound with
    | true => cases active
    | false =>
      obtain ⟨request, _, place, returning, history⟩ := View.ext_iff.mp seen
      have request : pool.requests call.object = some (call.job.request none) := request
      refine ⟨_,
        by simp only [ThreadPool.moveOwnerSelf, ThreadPool.deref, request, ok_bind]; rfl, ?_⟩
      refine tracked.frame call.object rfl called (.published taken true) ?_ ?_
      · refine View.ext ?_ ?_ place returning history
        · simp [ThreadPool.view, ThreadPool.setRequest, Life.view, Job.request]
        · simp [ThreadPool.view, Life.view]
      · intro id apart
        refine view_unchanged (Function.update_of_ne apart _ _) ?_ rfl Iff.rfl rfl
        simp [ThreadPool.view, queueing, Ne.symm apart]
  | _ => cases active

end QueueWork

section Callbacks

variable {request : RequestId} {job : Job Callback} {life : Life}

/-- libuv moves a request on without looking into it. -/
theorem Tracked.setPlace (tracked : Tracked pool) (place : Place)
    (called : pool.calls[request]? = some job) (seen : pool.view request = life.view job request)
    (after : Life) (moved : after.view job request =
      { life.view job request with place := some place }) :
    Tracked (pool.setPlace request place) := by
  refine tracked.frame request rfl called after ?_ ?_
  · rw [moved, ← seen]
    exact View.ext rfl rfl (Function.update_self _ _ _) rfl rfl
  · intro id apart
    exact view_unchanged rfl rfl (Function.update_of_ne apart _ _) Iff.rfl rfl

/-- A request that is with libuv is in the corresponding part of its life. -/
theorem Tracked.placed (tracked : Tracked pool) {place : Place}
    (placed : pool.place request = some place) :
    ∃ job, pool.calls[request]? = some job ∧
      ∃ life : Life, pool.view request = life.view job request ∧
        (life.view job request).place = some place := by
  have known : pool.view request ≠ .unborn := by
    intro unborn
    have absent : pool.place request = none := congrArg View.place unborn
    rw [placed] at absent
    cases absent
  obtain ⟨job, called, life, seen⟩ := tracked.known known
  exact ⟨job, called, life, seen, seen ▸ placed⟩

/-- A thread takes the request from the queue. -/
theorem Tracked.take (tracked : Tracked pool) (queued : pool.place request = some .queued) :
    Tracked (pool.setPlace request .taken) := by
  obtain ⟨job, called, life, seen, placed⟩ := tracked.placed queued
  cases life with
  | published taken bound =>
    cases taken with
    | false => exact tracked.setPlace .taken called seen (.published true bound) rfl
    | true => cases placed
  | _ => cases placed

/-- The loop comes to its done callback. -/
theorem Tracked.workDone (tracked : Tracked pool) (worked : pool.place request = some .worked) :
    Tracked (pool.setPlace request .done) := by
  obtain ⟨job, called, life, seen, placed⟩ := tracked.placed worked
  cases life with
  | worked => exact tracked.setPlace .done called seen .done rfl
  | published taken bound => cases taken <;> cases placed
  | _ => cases placed

/-- A request whose `data` is set finds itself. -/
theorem self_own (present : pool.requests request = some (job.request (some request))) :
    pool.self request = .ok (request, job.request (some request)) := by
  simp only [ThreadPool.self, ThreadPool.deref, present, ok_bind, Job.request]
  rfl

/-- A taken request has its data unless the loop thread is still in its call. No other thread
sets it, and the call sets it before it returns. -/
theorem Tracked.taken (tracked : Tracked pool) (taken : pool.place request = some .taken) :
    ∃ job bound, pool.calls[request]? = some job ∧
      pool.view request = (Life.published true bound).view job request ∧
      (bound = true ↔ pool.queueing.map QueueCall.object ≠ some request) := by
  obtain ⟨job, called, life, seen, placed⟩ := tracked.placed taken
  cases life with
  | published taken bound =>
    cases taken with
    | false => cases placed
    | true =>
      refine ⟨job, bound, called, seen, ?_⟩
      have call := congrArg View.call seen
      cases queueing : pool.queueing with
      | none =>
        cases bound with
        | true => simp
        | false => simp [ThreadPool.view, queueing, Life.view] at call
      | some current =>
        by_cases same : current.object = request
        · cases bound with
          | true => simp [ThreadPool.view, queueing, same, Life.view] at call
          | false => simp [same]
        · cases bound with
          | true => simp [same]
          | false => simp [ThreadPool.view, queueing, same, Life.view] at call
  | _ => cases placed

/-- What a job does is recorded of its own request. -/
theorem working_own (job : Job Callback) (id : RequestId) :
    ∀ event ∈ job.working id, event.request = id := by
  intro event member
  rcases List.mem_append.mp member with made | found
  · obtain ⟨callback, _, rfl⟩ := Option.map_eq_some_iff.mp (Option.mem_toList.mp made)
    rfl
  · obtain rfl := List.mem_singleton.mp found
    rfl

/-- `WorkCallback` finds its own request once the loop thread has left it. -/
theorem Tracked.workCallback (tracked : Tracked pool) (taken : pool.place request = some .taken)
    (ordered : pool.queueing.map QueueCall.object ≠ some request) :
    ∃ next, pool.workCallback request = .ok next ∧ Tracked next := by
  obtain ⟨job, bound, called, seen, answer⟩ := tracked.taken taken
  obtain rfl : bound = true := answer.mpr ordered
  obtain ⟨present, call, _, returning, history⟩ := View.ext_iff.mp seen
  have own := working_own job request
  refine ⟨(pool.record (job.working request)).setPlace request .worked, ?_, ?_⟩
  · simp only [ThreadPool.workCallback, self_own present, ok_bind]
    rfl
  · refine tracked.frame request rfl called .worked ?_ ?_
    · refine View.ext present call (Function.update_self _ _ _) returning ?_
      have before : pool.history request = [] := history
      exact (history_record_own _ own).trans (by rw [before, List.append_nil]; rfl)
    · intro id apart
      exact view_unchanged rfl rfl (Function.update_of_ne apart _ _) Iff.rfl
        (history_record_other _ own apart)

/-- It runs into the null pointer before that. -/
theorem Tracked.workCallback_early (tracked : Tracked pool)
    (taken : pool.place request = some .taken)
    (early : ¬ pool.queueing.map QueueCall.object ≠ some request) :
    pool.workCallback request = .error (.nullRequest request) := by
  obtain ⟨job, bound, called, seen, answer⟩ := tracked.taken taken
  have unbound : bound = false := by
    cases bound with
    | false => rfl
    | true => exact absurd (answer.mp rfl) early
  subst unbound
  have present : pool.requests request = some (job.request none) := congrArg View.request seen
  simp only [ThreadPool.workCallback, ThreadPool.self, ThreadPool.deref, present, ok_bind,
    Job.request]
  rfl

/-- `AfterWorkCallback` always finds its own request: it runs on the thread that
set the data. -/
theorem Tracked.afterWorkCallback (tracked : Tracked pool) (done : pool.place request = some .done)
    (idle : pool.returning = none) :
    ∃ next, pool.afterWorkCallback request = .ok next ∧ Tracked next := by
  obtain ⟨job, called, life, seen, placed⟩ := tracked.placed done
  cases life with
  | done =>
    obtain ⟨present, call, _, _, history⟩ := View.ext_iff.mp seen
    let made : List (WorkEvent Callback) :=
      (job.afterWork.map fun callback => .afterWork request callback 0 job.userData).toList
    have own : ∀ event ∈ made, event.request = request := by
      intro event member
      obtain ⟨callback, _, rfl⟩ := Option.map_eq_some_iff.mp (Option.mem_toList.mp member)
      rfl
    refine ⟨{ (pool.record made).setPlace request .returned with returning := some request },
      ?_, ?_⟩
    · simp only [ThreadPool.afterWorkCallback, self_own present, ok_bind]
      rfl
    · refine tracked.frame request rfl called .returning ?_ ?_
      · refine View.ext present call (Function.update_self _ _ _) (decide_eq_true rfl) ?_
        have before : pool.history request = job.working request := history
        exact (history_record_own made own).trans (by rw [before]; rfl)
      · intro id apart
        refine view_unchanged rfl rfl (Function.update_of_ne apart _ _) ?_
          (history_record_other made own apart)
        simp [idle, Ne.symm apart]
  | published taken bound => cases taken <;> cases placed
  | _ => cases placed

/-- The end of `AfterWorkCallback` frees its own request. Its life is over after that, and the
other requests do not notice. -/
theorem Tracked.release (tracked : Tracked pool) (returning : pool.returning = some request) :
    ∃ next, pool.release request = .ok next ∧ Tracked next := by
  have known : pool.view request ≠ .unborn := by
    intro unborn
    have absent : decide (pool.returning = some request) = false := congrArg View.returning unborn
    simp [returning] at absent
  obtain ⟨job, called, life, seen⟩ := tracked.known known
  obtain ⟨present, call, place, current, history⟩ := View.ext_iff.mp seen
  have current : (life.view job request).returning = true := by
    rw [← current]
    exact decide_eq_true returning
  cases life with
  | returning =>
    have request_present : pool.requests request = some (job.request (some request)) := present
    have own : ∀ event ∈ ([.released request] : List (WorkEvent Callback)),
        event.request = request := by simp [WorkEvent.request]
    refine ⟨_,
      by simp only [ThreadPool.release, ThreadPool.deref, request_present, ok_bind]; rfl, ?_⟩
    refine tracked.frame request rfl called .released ?_ ?_
    · refine View.ext (Function.update_self _ _ _) call place rfl ?_
      have before : pool.history request = job.finishing request := history
      exact (history_record_own _ own).trans
        (by rw [ThreadPool.setRequest]; exact congrArg _ before)
    · intro id apart
      refine view_unchanged (Function.update_of_ne apart _ _) rfl rfl ?_
        (history_record_other _ own apart)
      simp [returning, Ne.symm apart]
  | _ => cases current

end Callbacks

section Runs

variable {action : WorkAction Callback}

/-- A call that is at some stage is there. -/
theorem queueing_of_stage {stage : Stage}
    (current : pool.queueing.map QueueCall.stage = some stage) :
    ∃ call, pool.queueing = some call ∧ call.stage = stage :=
  Option.map_eq_some_iff.mp current

/-- Steps taken in order keep every request tracked. -/
theorem Tracked.run (tracked : Tracked pool) (enabled : action.Enabled pool)
    (ordered : action.Ordered pool) : ∃ next, action.run pool = .ok next ∧ Tracked next := by
  cases action with
  | create job => exact ⟨_, rfl, tracked.create job (Option.map_eq_none_iff.mp enabled)⟩
  | fill =>
    obtain ⟨call, queueing, stage⟩ := queueing_of_stage enabled
    obtain ⟨next, filled, kept⟩ := tracked.fill queueing stage
    exact ⟨next, by simp only [WorkAction.run, queueing, filled], kept⟩
  | publish =>
    obtain ⟨call, queueing, stage⟩ := queueing_of_stage enabled
    exact ⟨_, by simp only [WorkAction.run, queueing]; rfl, tracked.publish queueing stage⟩
  | moveOwnerSelf =>
    obtain ⟨call, queueing, stage⟩ := queueing_of_stage enabled
    obtain ⟨next, moved, kept⟩ := tracked.moveOwnerSelf queueing stage
    exact ⟨next, by simp only [WorkAction.run, queueing, moved], kept⟩
  | take request => exact ⟨_, rfl, tracked.take enabled⟩
  | workCallback request => exact tracked.workCallback enabled ordered
  | workDone request => exact ⟨_, rfl, tracked.workDone enabled⟩
  | afterWorkCallback request => exact tracked.afterWorkCallback enabled.1 enabled.2.2
  | release =>
    obtain ⟨self, returning⟩ := Option.ne_none_iff_exists'.mp enabled.2
    obtain ⟨next, released, kept⟩ := tracked.release returning
    exact ⟨next, by simp only [WorkAction.run, returning, released], kept⟩

/-- A worker that comes too early faults. -/
theorem Tracked.run_early (tracked : Tracked pool) (enabled : action.Enabled pool)
    (early : ¬ action.Ordered pool) : ∃ fault, action.run pool = .error fault := by
  cases action with
  | workCallback request => exact ⟨_, tracked.workCallback_early enabled early⟩
  | _ => exact absurd trivial early

/-- Nothing gets stuck: while a request is with somebody, a step in order is
possible that queues no further request. -/
theorem Tracked.progress (tracked : Tracked pool) {id : RequestId} {job : Job Callback}
    (called : pool.calls[id]? = some job) (underWay : ¬ pool.AtRest id) :
    ∃ action : WorkAction Callback, action.Enabled pool ∧ action.Ordered pool ∧
      ∀ job, action ≠ .create job := by
  cases queueing : pool.queueing with
  | some call =>
    cases stage : call.stage with
    | created => exact ⟨.fill, by simp [WorkAction.Enabled, queueing, stage], trivial, nofun⟩
    | filled => exact ⟨.publish, by simp [WorkAction.Enabled, queueing, stage], trivial, nofun⟩
    | published =>
      exact ⟨.moveOwnerSelf, by simp [WorkAction.Enabled, queueing, stage], trivial, nofun⟩
  | none =>
    cases returning : pool.returning with
    | some self =>
      exact ⟨.release, by simp [WorkAction.Enabled, queueing, returning], trivial, nofun⟩
    | none =>
      obtain ⟨life, seen⟩ := tracked.born called
      obtain ⟨_, call, place, current, _⟩ := View.ext_iff.mp seen
      have place : pool.place id = (life.view job id).place := place
      have free : (life.view job id).call = none := by
        rw [← call]
        simp [ThreadPool.view, queueing]
      cases life with
      | created => cases free
      | filled => cases free
      | published taken bound =>
        cases taken with
        | false => exact ⟨.take id, place, trivial, nofun⟩
        | true => exact ⟨.workCallback id, place, by simp [WorkAction.Ordered, queueing], nofun⟩
      | worked => exact ⟨.workDone id, place, trivial, nofun⟩
      | done =>
        exact ⟨.afterWorkCallback id, ⟨place, by simp [queueing], returning⟩, trivial, nofun⟩
      | returning => simp [ThreadPool.view, Life.view, returning] at current
      | released =>
        refine absurd ⟨by simp [queueing], ?_, by simp [returning]⟩ underWay
        intro held present
        exact (Option.some.inj (place.symm.trans present)).symm

/-- Before the first call no request is there. -/
theorem initial_tracked : Tracked (ThreadPool.initial : ThreadPool Callback) := fun _ => rfl

/-- Over every run, each job is handed to exactly its own callbacks exactly when
no worker runs `WorkCallback` of a request before its `data` is set. -/
theorem hands_over_iff (actions : List (WorkAction Callback))
    (legal : threadPoolSystem.Legal ThreadPool.initial actions) :
    threadPoolSystem.Throughout HandsOver ThreadPool.initial actions ↔
      threadPoolSystem.Guarded (fun pool action => action.Ordered pool) ThreadPool.initial
        actions := by
  refine threadPoolSystem.throughout_iff_guarded Tracked HandsOver _ ?_ ?_ initial_tracked
    initial_tracked.handsOver legal
  · intro pool action tracked _ enabled
    constructor
    · intro ordered
      obtain ⟨next, ran, kept⟩ := tracked.run enabled ordered
      exact ⟨next, ran, kept.handsOver⟩
    · rintro ⟨next, ran, _⟩
      by_contra early
      obtain ⟨fault, faulted⟩ := tracked.run_early enabled early
      exact absurd (ran.symm.trans faulted) nofun
  · intro pool action next tracked _ enabled ordered stepped
    obtain ⟨final, ran, kept⟩ := tracked.run enabled ordered
    obtain rfl : final = next := Except.ok.inj (ran.symm.trans stepped)
    exact kept

/-- Two jobs, the second queued while the first calls back, and each taken before
its data is set. -/
theorem hands_over_nested :
    threadPoolSystem.Throughout HandsOver (ThreadPool.initial : ThreadPool Nat)
      [.create ⟨some 10, some 11, 1⟩, .fill, .publish, .take 0, .moveOwnerSelf, .workCallback 0,
        .workDone 0, .afterWorkCallback 0, .create ⟨some 20, none, 2⟩, .fill, .publish, .take 1,
        .moveOwnerSelf, .release, .workCallback 1, .workDone 1, .afterWorkCallback 1, .release] :=
  (hands_over_iff _ (threadPoolSystem.legal_of_check (by decide))).mpr
    (threadPoolSystem.guarded_of_check (by decide))

/-- A worker that wakes up before `uv_queue_work` has returned to its caller. -/
theorem hands_over_false_early :
    let actions : List (WorkAction Nat) :=
      [.create ⟨some 10, some 11, 1⟩, .fill, .publish, .take 0, .workCallback 0]
    threadPoolSystem.Legal ThreadPool.initial actions ∧
      threadPoolSystem.exec ThreadPool.initial actions = .error (.nullRequest 0) ∧
      ¬ threadPoolSystem.Throughout HandsOver ThreadPool.initial actions := by
  intro actions
  refine ⟨threadPoolSystem.legal_of_check (by decide), rfl, ?_⟩
  rintro ⟨⟨final, executed⟩, _⟩
  cases executed

end Runs

end MoeUV
