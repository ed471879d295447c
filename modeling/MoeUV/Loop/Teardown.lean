import MoeUV.Loop.RunLoop

/-!
# Teardown of the run loop

`ForceCloseAllHandle` leaves no user handle open, and callbacks that create no
handles leave it so. A loop that is not alive has no closing handles either, so
once the walk has been made and the loop has come to rest, only libuv's internal
handles are queued and `uv_loop_close` succeeds. The walk stands inside the loop
that waits for the rest: a loop that is not alive to begin with is never walked,
and its open handles, all of them inactive or unreferenced, make
`uv_loop_close` fail.
-/

namespace MoeUV

open Foundation.Execution

/-- No block is added or opened again. -/
def Wanes (heap next : Heap) : Prop :=
  ∀ id after, next.blocks id = some after → ∃ before, heap.blocks id = some before ∧
    after.internal = before.internal ∧ (after.phase = .opened → before.phase = .opened) ∧
    (before.phase = .closed → after.phase = .closed)

/-- Every user handle is closing or closed. -/
def Draining (heap : Heap) : Prop :=
  ∀ id block, heap.blocks id = some block → block.internal = false → block.phase ≠ .opened

/-- No handle of the queue belongs to a user. -/
def OnlyInternal (heap : Heap) : Prop :=
  ∀ id ∈ heap.queue, ∀ block, heap.blocks id = some block → block.internal = true

variable {heap middle next : Heap}

/-- A heap that does not change adds and opens nothing. -/
theorem Wanes.refl (heap : Heap) : Wanes heap heap :=
  fun _ after present => ⟨after, present, rfl, id, id⟩

/-- What wanes twice has waned: a block that is left was there before both changes. -/
theorem Wanes.trans (earlier : Wanes heap middle) (later : Wanes middle next) :
    Wanes heap next := by
  intro id after present
  obtain ⟨between, present', internal, opened, closed⟩ := later id after present
  obtain ⟨before, present'', internal', opened', closed'⟩ := earlier id between present'
  exact ⟨before, present'', internal.trans internal', opened' ∘ opened, closed ∘ closed'⟩

/-- A move that adds no block opens none. -/
theorem Wanes.of_move (move : Move heap next) (fresh : next.fresh = heap.fresh) :
    Wanes heap next := by
  intro id after present
  obtain ⟨before, present', changed⟩ := move.becomes present (Or.inr fresh)
  exact ⟨before, present', changed.internal, changed.opened, changed.closed⟩

/-- A wrapper that gives up a closed handle leaves the blocks alone. -/
theorem Wanes.of_leak (leak : Leak heap next) : Wanes heap next := by
  intro id after present
  obtain ⟨before, present', changed⟩ := leak.becomes present
  exact ⟨before, present', changed.internal, changed.opened, changed.closed⟩

/-- The users' moves open no block, and leave every pending close pending. -/
theorem wanes_moves (moves : UserMoves heap next) :
    Wanes heap next ∧ ∀ id ∈ heap.closingHandles, id ∈ next.closingHandles := by
  induction moves with
  | refl => exact ⟨.refl heap, fun _ member => member⟩
  | tail _ last inductionHypothesis =>
    obtain ⟨wanes, pending⟩ := inductionHypothesis
    exact ⟨wanes.trans (.of_move last.move last.fresh),
      fun id member => last.pending id (pending id member)⟩

/-- Once every user handle is closing or closed, it stays so in all that follows. -/
theorem Draining.wanes (draining : Draining heap) (wanes : Wanes heap next) : Draining next := by
  intro id after present external opened
  obtain ⟨before, present', internal, opened', _⟩ := wanes id after present
  exact draining id before present' (internal ▸ external) (opened' opened)

/-- The callbacks of a turn submit no requests. -/
structure Turn.Silent (turn : Turn) : Prop where
  before : ∀ activity ∈ turn.before, activity ≠ .submit
  cancelled : ∀ id, ∀ activity ∈ turn.cancelled id, activity ≠ .submit
  onClose : ∀ id, ∀ activity ∈ turn.onClose id, activity ≠ .submit
  after : ∀ activity ∈ turn.after, activity ≠ .submit

/-- What the callbacks of a running loop cannot undo, while libuv finishes the
closes of some handles. Silent callbacks add no requests. -/
structure Advances (silent : Prop) (finished : List HandleId) (loop next : RunLoop) : Prop where
  coherent : Coherent next.heap
  wanes : Wanes loop.heap next.heap
  pending : ∀ id ∈ loop.heap.closingHandles, id ∉ finished → id ∈ next.heap.closingHandles
  closed : ∀ id ∈ finished, ∀ block, next.heap.blocks id = some block → block.phase = .closed
  owned : next.owned = loop.owned
  requests : silent → next.requests ≤ loop.requests

variable {silent : Prop} {finished later : List HandleId} {loop between final : RunLoop}

/-- A loop that does nothing undoes nothing. -/
theorem Advances.refl (coherent : Coherent loop.heap) : Advances silent [] loop loop :=
  ⟨coherent, .refl _, fun _ member _ => member, nofun, rfl, fun _ => Nat.le_refl _⟩

/-- Two parts of a turn, one after the other; the second finishes the closes that are left for it.
-/
theorem Advances.trans (first : Advances silent finished loop between)
    (second : Advances silent later between final) :
    Advances silent (finished ++ later) loop final := by
  constructor
  · exact second.coherent
  · exact first.wanes.trans second.wanes
  · intro id member unfinished
    obtain ⟨notFirst, notSecond⟩ := not_or.mp (mt List.mem_append.mpr unfinished)
    exact second.pending id (first.pending id member notFirst) notSecond
  · intro id member block present
    rcases List.mem_append.mp member with early | late
    · obtain ⟨before, present', _, _, closed⟩ := second.wanes id block present
      exact closed (first.closed id early before present')
    · exact second.closed id late block present
  · exact second.owned.trans first.owned
  · intro quiet
    exact Nat.le_trans (second.requests quiet) (first.requests quiet)

/-- An operation on the wrappers during a callback. -/
theorem operate_advances {action : Action} (coherent : Coherent loop.heap) (quiet : action.Quiet)
    (enabled : action.Enabled loop.heap) :
    ∃ next, action.run loop.heap = .ok next ∧
      Advances silent [] loop { loop with heap := next } := by
  by_cases reclaims : action.Reclaims loop.heap
  · obtain ⟨next, ran, moves⟩ := coherent.run_user_moves quiet enabled reclaims
    obtain ⟨wanes, pending⟩ := wanes_moves moves
    exact ⟨next, ran, coherent.moves (moves_of_user moves), wanes,
      fun id member _ => pending id member, nofun, rfl, fun _ => Nat.le_refl _⟩
  · obtain ⟨middle, next, ran, leak, moves⟩ := coherent.run_leaks enabled reclaims
    obtain ⟨wanes, pending⟩ := wanes_moves moves
    have same : middle.closingHandles = loop.heap.closingHandles := by
      cases leak
      rfl
    exact ⟨next, ran, (coherent.leak leak).moves (moves_of_user moves),
      (Wanes.of_leak leak).trans wanes, fun id member _ => pending id (same ▸ member), nofun, rfl,
      fun _ => Nat.le_refl _⟩

/-- One step of a callback. -/
theorem perform_advances (coherent : Coherent loop.heap) (activity : Activity)
    (quiet : silent → activity ≠ .submit) :
    ∃ next, loop.perform activity = .ok next ∧ Advances silent [] loop next := by
  have unchanged (next : RunLoop) (heap : next.heap = loop.heap) (owned : next.owned = loop.owned)
      (requests : silent → next.requests ≤ loop.requests) : Advances silent [] loop next :=
    ⟨heap ▸ coherent, heap ▸ .refl _, fun _ member _ => heap ▸ member, nofun, owned, requests⟩
  by_cases permitted : activity.Permitted loop
  · simp only [RunLoop.perform, if_pos permitted]
    cases activity with
    | operate action =>
      obtain ⟨next, ran, advances⟩ := operate_advances coherent permitted.1 permitted.2
      exact ⟨_, by simp only [Activity.run, ran, ok_bind]; rfl, advances⟩
    | stop => exact ⟨_, rfl, unchanged _ rfl rfl fun _ => Nat.le_refl _⟩
    | submit => exact ⟨_, rfl, unchanged _ rfl rfl fun given => absurd rfl (quiet given)⟩
    | complete => exact ⟨_, rfl, unchanged _ rfl rfl fun _ => Nat.pred_le _⟩
  · refine ⟨loop, ?_, .refl coherent⟩
    simp only [RunLoop.perform, if_neg permitted]
    rfl

/-- All steps of some callbacks. -/
theorem performAll_advances (activities : List Activity) (coherent : Coherent loop.heap)
    (quiet : silent → ∀ activity ∈ activities, activity ≠ .submit) :
    ∃ next, loop.performAll activities = .ok next ∧ Advances silent [] loop next := by
  induction activities generalizing loop with
  | nil => exact ⟨loop, rfl, .refl coherent⟩
  | cons activity rest inductionHypothesis =>
    obtain ⟨middle, performed, first⟩ :=
      perform_advances coherent activity fun given => quiet given activity List.mem_cons_self
    obtain ⟨next, remaining, second⟩ := inductionHypothesis first.coherent
      fun given other member => quiet given other (List.mem_cons_of_mem activity member)
    refine ⟨next, ?_, first.trans second⟩
    rw [RunLoop.performAll, List.foldlM_cons, performed, ok_bind]
    exact remaining

/-- libuv finishes the close of one handle. -/
theorem deliverClose_advances {id : HandleId} (coherent : Coherent loop.heap)
    (closing : id ∈ loop.heap.closingHandles) :
    ∃ heap, loop.heap.deliverClose id = .ok heap ∧
      Advances silent [id] loop { loop with heap := heap } := by
  obtain ⟨heap, delivered, move, fresh, remaining⟩ := deliverClose_move coherent closing
  have coherent' := coherent.move move
  have wanes := Wanes.of_move move fresh
  refine ⟨heap, delivered, coherent', wanes, ?_, ?_, rfl, fun _ => Nat.le_refl _⟩
  · intro other member unfinished
    have apart : other ≠ id := by simpa using unfinished
    simpa [remaining, apart] using member
  · intro other member block present
    obtain rfl : other = id := List.mem_singleton.mp member
    obtain ⟨before, present', _, opened, _⟩ := wanes other block present
    have phase := (coherent.linked.mem_closing present').mp closing
    have left := mt (coherent'.linked.mem_closing present).mpr (by simp [remaining])
    cases after : block.phase with
    | opened => exact absurd (opened after) (by simp [phase])
    | closing => exact absurd after left
    | closed => rfl

/-- The same with the callbacks before and after it. -/
theorem finishClose_advances {turn : Turn} {id : HandleId} (coherent : Coherent loop.heap)
    (closing : id ∈ loop.heap.closingHandles) (quiet : silent → turn.Silent) :
    ∃ next, RunLoop.finishClose turn loop id = .ok next ∧ Advances silent [id] loop next := by
  obtain ⟨ready, performed, first⟩ := performAll_advances (turn.cancelled id) coherent
    fun given => (quiet given).cancelled id
  obtain ⟨heap, delivered, second⟩ :=
    deliverClose_advances first.coherent (first.pending id closing (by simp))
  obtain ⟨next, performed', third⟩ := performAll_advances (turn.onClose id) second.coherent
    fun given => (quiet given).onClose id
  refine ⟨next, ?_, (first.trans second).trans third⟩
  simp only [RunLoop.finishClose, performed, ok_bind, delivered, performed']

/-- Any of the closing handles, each of them once. -/
theorem foldlM_finishClose_advances {turn : Turn} (ids : List HandleId)
    (coherent : Coherent loop.heap) (distinct : ids.Nodup)
    (closing : ∀ id ∈ ids, id ∈ loop.heap.closingHandles) (quiet : silent → turn.Silent) :
    ∃ next, ids.foldlM (RunLoop.finishClose turn) loop = .ok next ∧
      Advances silent ids loop next := by
  induction ids generalizing loop with
  | nil => exact ⟨loop, rfl, .refl coherent⟩
  | cons id rest inductionHypothesis =>
    obtain ⟨absent, distinct⟩ := List.nodup_cons.mp distinct
    obtain ⟨middle, finished, first⟩ :=
      finishClose_advances coherent (closing id List.mem_cons_self) quiet
    obtain ⟨next, remaining, second⟩ := inductionHypothesis first.coherent distinct (by
      intro other member
      refine first.pending other (closing other (List.mem_cons_of_mem id member)) ?_
      intro same
      exact absent (List.mem_singleton.mp same ▸ member))
    refine ⟨next, ?_, first.trans second⟩
    rw [List.foldlM_cons, finished, ok_bind, remaining]

/-- A loop that is not alive waits for no close and no request. -/
theorem closingHandles_of_idle (idle : loop.uvLoopAlive = false) :
    loop.heap.closingHandles = [] ∧ loop.requests = 0 := by
  simp only [RunLoop.uvLoopAlive, Bool.or_eq_false_iff, decide_eq_false_iff_not, not_not] at idle
  exact ⟨idle.2, idle.1.2⟩

/-- A turn of a loop that is not stopped finishes every close that was pending when
it began. -/
theorem uvRunOnce_advances (turn : Turn) (coherent : Coherent loop.heap)
    (quiet : silent → turn.Silent) :
    ∃ next, loop.uvRunOnce turn = .ok next ∧ next.stop = false ∧
      ∃ finished, Advances silent finished loop next ∧
        (loop.stop = false → ∀ id ∈ loop.heap.closingHandles, id ∈ finished) := by
  have unchanged (time : BitVec 64) :
      Advances silent [] loop { loop with time := time, stop := false } :=
    ⟨coherent, .refl _, fun _ member _ => member, nofun, rfl, fun _ => Nat.le_refl _⟩
  by_cases idle : loop.uvLoopAlive = false
  · refine ⟨_, if_pos idle, rfl, [], unchanged turn.time, ?_⟩
    intro _ id member
    rw [(closingHandles_of_idle idle).1] at member
    cases member
  · by_cases stopped : loop.stop = true
    · refine ⟨_, (if_neg idle).trans (if_pos stopped), rfl, [], unchanged loop.time, ?_⟩
      intro running
      rw [stopped] at running
      cases running
    · obtain ⟨polled, performed, first⟩ := performAll_advances turn.before coherent
        fun given => (quiet given).before
      obtain ⟨closed, finished, second⟩ :=
        foldlM_finishClose_advances polled.heap.closingHandles first.coherent
          first.coherent.distinct (fun _ member => member) quiet
      obtain ⟨next, performed', third⟩ := performAll_advances turn.after second.coherent
        fun given => (quiet given).after
      have together := (first.trans second).trans third
      refine ⟨{ next with time := turn.time, stop := false }, ?_, rfl, _, ⟨together.coherent,
        together.wanes, together.pending, together.closed, together.owned, together.requests⟩, ?_⟩
      · simp only [RunLoop.uvRunOnce, if_neg idle, if_neg stopped, performed, ok_bind,
          RunLoop.runClosingHandles, finished, performed']
        rfl
      · intro _ id member
        simpa using first.pending id member (by simp)

section Drain

/-- Walking the handles leaves no user handle open. -/
theorem forceCloseAllHandle_draining (coherent : Coherent heap) :
    ∃ next, heap.forceCloseAllHandle = .ok next ∧ Coherent next ∧ Wanes heap next ∧
      Draining next := by
  obtain ⟨next, walked, moves, _, blocks⟩ := forceCloseAllHandle_moves coherent
  refine ⟨next, walked, coherent.moves (moves_of_user moves), (wanes_moves moves).1, ?_⟩
  intro id block present external
  rw [blocks] at present
  by_cases queued : id ∈ heap.queue
  · rw [if_pos queued] at present
    obtain ⟨before, _, walked⟩ := Option.map_eq_some_iff.mp present
    rw [← walked] at external ⊢
    exact (forceClosed_not_opened before).resolve_left (by simp [external])
  · rw [if_neg queued] at present
    have closed := mt (coherent.linked.mem_queue present).mpr queued
    rw [not_not] at closed
    simp [closed]

/-- With every user handle closing and no close pending, none is queued. -/
theorem Draining.onlyInternal (draining : Draining heap) (coherent : Coherent heap)
    (finished : heap.closingHandles = []) : OnlyInternal heap := by
  intro id member block present
  by_contra user
  have external : block.internal = false := by simpa using user
  have notClosed := (coherent.linked.mem_queue present).mp member
  cases phase : block.phase with
  | opened => exact draining id block present external phase
  | closing =>
    have closing := (coherent.linked.mem_closing present).mpr phase
    rw [finished] at closing
    cases closing
  | closed => exact notClosed phase

/-- libuv's own handles never keep a loop alive. -/
theorem idle_of_onlyInternal (coherent : Coherent loop.heap) (only : OnlyInternal loop.heap)
    (finished : loop.heap.closingHandles = []) (settled : loop.requests = 0) :
    loop.uvLoopAlive = false := by
  simp only [RunLoop.uvLoopAlive, finished, settled, ne_eq, not_true_eq_false, decide_false,
    Bool.or_false, List.any_eq_false]
  intro id member
  obtain ⟨block, present, _⟩ := coherent.linked.allocated member
  have unreferenced := ((coherent.owned.valid present).internal (only id member block present)).2.2
  simp [present, unreferenced]

/-- One pass of the destructor's loop. -/
theorem turn_advances (turn : Turn) (coherent : Coherent loop.heap)
    (quiet : silent → turn.Silent) :
    ∃ heap next finished, loop.heap.forceCloseAllHandle = .ok heap ∧
      { loop with heap := heap }.uvRunOnce turn = .ok next ∧ next.stop = false ∧
      Coherent heap ∧ Draining heap ∧ Advances silent finished { loop with heap := heap } next ∧
      (loop.stop = false → ∀ id ∈ heap.closingHandles, id ∈ finished) := by
  obtain ⟨heap, walked, coherent', _, draining⟩ := forceCloseAllHandle_draining coherent
  have walkedCoherent : Coherent { loop with heap := heap }.heap := coherent'
  obtain ⟨next, ran, stop, finished, advances, complete⟩ :=
    uvRunOnce_advances turn walkedCoherent quiet
  exact ⟨heap, next, finished, walked, ran, stop, coherent', draining, advances, complete⟩

/-- The state after one pass that was neither idle before nor late after. -/
theorem drain_cons {start : BitVec 64} {turn : Turn} {turns : List Turn} {heap : Heap}
    (alive : loop.uvLoopAlive = true) (walked : loop.heap.forceCloseAllHandle = .ok heap)
    (ran : { loop with heap := heap }.uvRunOnce turn = .ok between) :
    RunLoop.drain start loop (turn :: turns) =
      if kMaxLoopTimeout < between.time - start then .ok (some (.timeout, between))
      else RunLoop.drain start between turns := by
  simp only [RunLoop.drain, alive, if_true, walked, ok_bind, ran, pure_eq_ok]

/-- The destructor leaves a loop that is not alive at once, with every turn unused. -/
theorem drain_idle (start : BitVec 64) (turns : List Turn) (idle : loop.uvLoopAlive = false) :
    RunLoop.drain start loop turns = .ok (some (.idle, loop)) := by
  cases turns <;> simp [RunLoop.drain, idle, pure_eq_ok]

/-- What the destructor's loop leaves behind. -/
structure Drained (loop : RunLoop) (departure : Departure) (final : RunLoop) : Prop where
  coherent : Coherent final.heap
  owned : final.owned = loop.owned
  idle : departure = .idle → final.uvLoopAlive = false
  untouched : loop.uvLoopAlive = false → final = loop
  draining : loop.uvLoopAlive = true → Draining final.heap

/-- The destructor's loop does not fault, and once it has gone round, no user
handle is open. -/
theorem drain_drained (start : BitVec 64) (turns : List Turn) (coherent : Coherent loop.heap) :
    ∃ result, RunLoop.drain start loop turns = .ok result ∧
      ∀ departure final, result = some (departure, final) → Drained loop departure final := by
  induction turns generalizing loop with
  | nil =>
    cases alive : loop.uvLoopAlive with
    | false =>
      refine ⟨_, drain_idle start [] alive, ?_⟩
      rintro departure final ⟨⟩
      exact ⟨coherent, rfl, fun _ => alive, fun _ => rfl, by simp [alive]⟩
    | true => exact ⟨none, by simp [RunLoop.drain, alive, pure_eq_ok], nofun⟩
  | cons turn turns inductionHypothesis =>
    cases alive : loop.uvLoopAlive with
    | false =>
      refine ⟨_, drain_idle start _ alive, ?_⟩
      rintro departure final ⟨⟩
      exact ⟨coherent, rfl, fun _ => alive, fun _ => rfl, by simp [alive]⟩
    | true =>
      obtain ⟨heap, middle, finished, walked, ran, _, _, walkedAll, advances, _⟩ :=
        turn_advances turn coherent fun impossible : False => impossible.elim
      have draining := walkedAll.wanes advances.wanes
      rw [drain_cons alive walked ran]
      by_cases late : kMaxLoopTimeout < middle.time - start
      · rw [if_pos late]
        refine ⟨_, rfl, ?_⟩
        rintro departure final ⟨⟩
        exact ⟨advances.coherent, advances.owned, nofun, by simp [alive], fun _ => draining⟩
      · rw [if_neg late]
        obtain ⟨result, drained, after⟩ := inductionHypothesis advances.coherent
        refine ⟨result, drained, ?_⟩
        intro departure final same
        have last := after departure final same
        refine ⟨last.coherent, last.owned.trans advances.owned, last.idle, by simp [alive], ?_⟩
        intro _
        cases again : middle.uvLoopAlive with
        | false =>
          rw [last.untouched again]
          exact draining
        | true => exact last.draining again

end Drain

section Close

/-- The search of the queue runs over allocated handles. -/
theorem allM_uvIsInternal (ids : List HandleId)
    (allocated : ∀ id ∈ ids, ∃ block, heap.blocks id = some block) :
    ∃ answer, ids.allM heap.uvIsInternal = .ok answer ∧
      (answer = true ↔
        ∀ id ∈ ids, ∀ block, heap.blocks id = some block → block.internal = true) := by
  induction ids with
  | nil => exact ⟨true, rfl, by simp⟩
  | cons id rest inductionHypothesis =>
    obtain ⟨block, present⟩ := allocated id List.mem_cons_self
    have asked : heap.uvIsInternal id = .ok block.internal := by
      simp only [Heap.uvIsInternal, Heap.deref_ok present]
      rfl
    cases internal : block.internal with
    | true =>
      obtain ⟨answer, searched, meaning⟩ :=
        inductionHypothesis fun other member => allocated other (List.mem_cons_of_mem id member)
      refine ⟨answer, ?_, ?_⟩
      · rw [List.allM, asked, ok_bind, internal, searched]
      · simp [meaning, present, internal]
    | false =>
      refine ⟨false, ?_, ?_⟩
      · rw [List.allM, asked, ok_bind, internal]
        rfl
      · simp [present, internal]

/-- `uv_loop_close` succeeds when no request is left and no user handle queued. -/
theorem uvLoopClose_eq (coherent : Coherent loop.heap) :
    ∃ ret, loop.uvLoopClose = .ok ret ∧
      (ret = 0 ↔ loop.requests = 0 ∧ OnlyInternal loop.heap) := by
  by_cases settled : loop.requests = 0
  · obtain ⟨answer, searched, meaning⟩ := allM_uvIsInternal loop.heap.queue (by
      intro id member
      obtain ⟨block, present, _⟩ := coherent.linked.allocated member
      exact ⟨block, present⟩)
    refine ⟨if answer then 0 else UV_EBUSY, ?_, ?_⟩
    · simp only [RunLoop.uvLoopClose, settled, ne_eq, not_true_eq_false, if_false, searched,
        ok_bind]
      cases answer <;> rfl
    · have same : answer = true ↔ OnlyInternal loop.heap := meaning
      rw [← same]
      cases answer <;> simp [settled, UV_EBUSY]
  · refine ⟨UV_EBUSY, ?_, by simp [settled, UV_EBUSY]⟩
    simp only [RunLoop.uvLoopClose, ne_eq, settled, not_false_eq_true, if_true]
    rfl

end Close

section Destructor

/-- The destructor does not fault. When its loop came to rest, `uv_loop_close`
finds only internal handles, and succeeds, exactly when the handles had been
walked or there was nothing to walk. -/
theorem destruct_sound_iff (loop : RunLoop) (turns : List Turn) (coherent : Coherent loop.heap)
    (owned : loop.owned = true) :
    (∃ result, loop.destruct turns = .ok result) ∧
      ∀ final ending, loop.destruct turns = .ok (some (.idle, final, ending)) →
        (OnlyInternal final.heap ∧ ending = .destroyed ↔
          loop.uvLoopAlive = true ∨ OnlyInternal loop.heap) := by
  obtain ⟨drained, ran, meaning⟩ := drain_drained loop.time turns coherent
  cases drained with
  | none =>
    have waiting : loop.destruct turns = .ok none := by
      simp only [RunLoop.destruct, ran, ok_bind]
      rfl
    refine ⟨⟨none, waiting⟩, ?_⟩
    intro final ending finished
    rw [waiting] at finished
    cases finished
  | some left =>
    obtain ⟨departure, reached⟩ := left
    have after := meaning departure reached rfl
    obtain ⟨ret, closed, success⟩ := uvLoopClose_eq after.coherent
    have destructed : loop.destruct turns =
        .ok (some (departure, reached, if ret ≠ 0 then .terminated else .destroyed)) := by
      simp only [RunLoop.destruct, ran, ok_bind, after.owned, owned, if_true, closed]
      rfl
    refine ⟨⟨_, destructed⟩, ?_⟩
    intro final ending finished
    rw [destructed] at finished
    obtain ⟨rfl, rfl, rfl⟩ : departure = .idle ∧ reached = final ∧
        (if ret ≠ 0 then Ending.terminated else .destroyed) = ending := by
      simpa using finished
    obtain ⟨quiet, answered⟩ := closingHandles_of_idle (after.idle rfl)
    have succeeds : OnlyInternal reached.heap →
        (if ret ≠ 0 then Ending.terminated else .destroyed) = .destroyed := by
      intro only
      simp [success.mpr ⟨answered, only⟩]
    constructor
    · rintro ⟨only, _⟩
      cases alive : loop.uvLoopAlive with
      | true => exact Or.inl rfl
      | false => exact Or.inr (after.untouched alive ▸ only)
    · rintro (alive | only)
      · have swept := (after.draining alive).onlyInternal after.coherent quiet
        exact ⟨swept, succeeds swept⟩
      · cases alive : loop.uvLoopAlive with
        | true =>
          have swept := (after.draining alive).onlyInternal after.coherent quiet
          exact ⟨swept, succeeds swept⟩
        | false =>
          rw [after.untouched alive] at succeeds ⊢
          exact ⟨only, succeeds only⟩

/-- An active handle, whose wrapper goes away in its own `OnClose`, is closed. -/
theorem destruct_sound_active :
    ∃ heap final ending,
      handleSystem.exec Heap.loopInit [.construct wrapperA true] = .ok heap ∧
      RunLoop.destruct ⟨heap, 0, false, 0, true⟩
        [⟨[], fun _ => [], fun _ => [.operate (.destroy wrapperA)], [], 1⟩] =
          .ok (some (.idle, final, ending)) ∧
      OnlyInternal final.heap ∧ ending = .destroyed := by
  have legal : handleSystem.Legal Heap.loopInit [.construct wrapperA true] :=
    handleSystem.legal_of_check (by decide)
  have consistent := System.Throughout.final handleSystem (consistent_throughout legal) rfl
  have sound := (destruct_sound_iff ⟨_, 0, false, 0, true⟩
    [⟨[], fun _ => [], fun _ => [.operate (.destroy wrapperA)], [], 1⟩] consistent.coherent rfl).2
  exact ⟨_, _, _, rfl, rfl, (sound _ _ rfl).mpr (Or.inl rfl)⟩

/-- A handle that was never started does not keep the loop alive: it is not
walked, and the destructor terminates the program. -/
theorem destruct_sound_false_inactive :
    handleSystem.Legal Heap.loopInit [.construct wrapperA false] ∧
      ∃ heap final,
        handleSystem.exec Heap.loopInit [.construct wrapperA false] = .ok heap ∧
        RunLoop.destruct ⟨heap, 0, false, 0, true⟩ [] = .ok (some (.idle, final, .terminated)) ∧
        ¬ OnlyInternal final.heap := by
  refine ⟨handleSystem.legal_of_check (by decide), _, _, rfl, rfl, ?_⟩
  intro only
  have internal := only 2 (by decide) _ rfl
  cases internal

/-- A turn that is not stopped leaves no user handle queued and no close pending. Every user
handle was closing or closed at the beginning, and each close that was pending has been
delivered. -/
theorem Advances.swept (advances : Advances silent finished loop final)
    (draining : Draining loop.heap) (complete : ∀ id ∈ loop.heap.closingHandles, id ∈ finished)
    (coherent : Coherent loop.heap) :
    OnlyInternal final.heap ∧ final.heap.closingHandles = [] := by
  have closed (id : HandleId) (block : Block) (present : final.heap.blocks id = some block)
      (external : block.internal = false) : block.phase = .closed := by
    obtain ⟨before, present', internal, _, closed⟩ := advances.wanes id block present
    cases phase : before.phase with
    | opened => exact absurd phase (draining id before present' (internal ▸ external))
    | closing =>
      have pending := (coherent.linked.mem_closing present').mpr phase
      exact advances.closed id (complete id pending) block present
    | closed => exact closed phase
  constructor
  · intro id member block present
    by_contra user
    have notClosed := (advances.coherent.linked.mem_queue present).mp member
    exact notClosed (closed id block present (by simpa using user))
  · apply List.eq_nil_iff_forall_not_mem.mpr
    intro id member
    obtain ⟨block, present, phase⟩ := advances.coherent.linked.allocated_closing member
    cases internal : block.internal with
    | false =>
      rw [closed id block present internal] at phase
      cases phase
    | true =>
      rw [((advances.coherent.owned.valid present).internal internal).2.1] at phase
      cases phase

/-- Two turns are enough to leave the loop, unless callbacks submit requests. The first turn
delivers all closes, so at the end of it no handle is open and nothing is pending, and the
second turn finds the loop idle. -/
theorem drain_returns (start : BitVec 64) (first second : Turn) (turns : List Turn)
    (coherent : Coherent loop.heap) (settled : loop.requests = 0) (quiet : first.Silent)
    (quiet' : second.Silent) :
    ∃ left, RunLoop.drain start loop (first :: second :: turns) = .ok (some left) := by
  cases alive : loop.uvLoopAlive with
  | false => exact ⟨_, drain_idle start _ alive⟩
  | true =>
    obtain ⟨_, middle, _, walked, ran, running, _, _, advances, _⟩ :=
      turn_advances first coherent fun _ : True => quiet
    rw [drain_cons alive walked ran]
    by_cases late : kMaxLoopTimeout < middle.time - start
    · exact ⟨_, if_pos late⟩
    · rw [if_neg late]
      cases again : middle.uvLoopAlive with
      | false => exact ⟨_, drain_idle start _ again⟩
      | true =>
        obtain ⟨heap, next, _, walked', ran', _, coherent', draining, advances', complete⟩ :=
          turn_advances second advances.coherent fun _ : True => quiet'
        rw [drain_cons again walked' ran']
        by_cases late' : kMaxLoopTimeout < next.time - start
        · exact ⟨_, if_pos late'⟩
        · rw [if_neg late']
          obtain ⟨only, finished⟩ := advances'.swept draining (complete running) coherent'
          have requests : next.requests ≤ loop.requests :=
            Nat.le_trans (advances'.requests trivial) (advances.requests trivial)
          have idle := idle_of_onlyInternal advances'.coherent only finished
            (Nat.le_zero.mp (settled ▸ requests))
          exact ⟨_, drain_idle start turns idle⟩

/-- So the destructor returns or terminates, but does not go on waiting. -/
theorem destruct_returns (loop : RunLoop) (first second : Turn) (turns : List Turn)
    (coherent : Coherent loop.heap) (settled : loop.requests = 0) (quiet : first.Silent)
    (quiet' : second.Silent) :
    ∃ result, loop.destruct (first :: second :: turns) = .ok (some result) := by
  obtain ⟨⟨departure, reached⟩, drained⟩ :=
    drain_returns loop.time first second turns coherent settled quiet quiet'
  obtain ⟨_, ran, meaning⟩ := drain_drained loop.time (first :: second :: turns) coherent
  rw [drained] at ran
  have after := meaning departure reached (Except.ok.inj ran).symm
  by_cases owned : reached.owned = true
  · obtain ⟨ret, closed, _⟩ := uvLoopClose_eq after.coherent
    refine ⟨(departure, reached, if ret ≠ 0 then .terminated else .destroyed), ?_⟩
    simp only [RunLoop.destruct, drained, ok_bind, owned, if_true, closed]
    rfl
  · refine ⟨(departure, reached, .destroyed), ?_⟩
    simp only [RunLoop.destruct, drained, ok_bind, owned]
    rfl

end Destructor

end MoeUV
