import MoeUV.Handle.Lifecycle
import MoeUV.Foundation.Execution

/-!
# The wrapper operations as moves

Each operation, called in a coherent state on live wrappers, runs without a
fault and amounts to a sequence of moves. The single exception is an assignment
onto a wrapper whose handle has already been closed: it loses that block.
-/

namespace MoeUV

open Foundation.Execution

/-- References are mutual and libuv's lists are in step. -/
structure Coherent (heap : Heap) : Prop where
  owned : Owned heap
  linked : Linked heap
  distinct : heap.closingHandles.Nodup

/-- Any number of moves. -/
abbrev Moves : Heap → Heap → Prop := Relation.ReflTransGen Move

/-- A move of the wrappers' users: it adds no block, and takes none from the
closing handles, which only libuv does. -/
structure UserMove (heap next : Heap) : Prop where
  move : Move heap next
  fresh : next.fresh = heap.fresh
  pending : ∀ id ∈ heap.closingHandles, id ∈ next.closingHandles

abbrev UserMoves : Heap → Heap → Prop := Relation.ReflTransGen UserMove

variable {heap next : Heap}

/-- A move that leaves the list of closing handles alone. -/
theorem UserMove.same (move : Move heap next) (fresh : next.fresh = heap.fresh)
    (closing : next.closingHandles = heap.closingHandles) : UserMove heap next :=
  ⟨move, fresh, fun _ member => closing ▸ member⟩

/-- What the program does by itself is some of what can happen. -/
theorem moves_of_user (moves : UserMoves heap next) : Moves heap next := by
  induction moves with
  | refl => exact .refl
  | tail _ last inductionHypothesis => exact inductionHypothesis.tail last.move

/-- A coherent loop stays coherent by one change, -/
theorem Coherent.move (coherent : Coherent heap) (move : Move heap next) : Coherent next :=
  ⟨coherent.owned.move coherent.linked move, coherent.linked.move move,
    coherent.linked.distinct_move coherent.distinct move⟩

/-- and by any number of them. -/
theorem Coherent.moves (coherent : Coherent heap) (moves : Moves heap next) : Coherent next := by
  induction moves with
  | refl => exact coherent
  | tail _ last inductionHypothesis => exact inductionHypothesis.move last

/-- The histories stay right along any sequence of moves. -/
theorem Logged.moves (logged : Logged heap) (coherent : Coherent heap) (moves : Moves heap next) :
    Logged next := by
  induction moves with
  | refl => exact logged
  | tail earlier last inductionHypothesis =>
    have middle := coherent.moves earlier
    exact inductionHypothesis.move middle.owned middle.linked last

/-- A leak breaks neither the references nor the lists. -/
theorem Coherent.leak (coherent : Coherent heap) (leak : Leak heap next) : Coherent next := by
  cases leak with
  | abandon self wrapper id block content live holds allocated closed empty =>
    exact ⟨coherent.owned.abandon live holds allocated (by simp [closed]) content empty,
      coherent.linked.unchanged (progress_setBlock_same allocated rfl rfl) rfl rfl rfl,
      coherent.distinct⟩

/-- The record of a handle does not change when its block is lost. -/
theorem Logged.leak (logged : Logged heap) (leak : Leak heap next) : Logged next := by
  cases leak with
  | abandon self wrapper id block content live holds allocated closed empty =>
    exact logged.unchanged rfl (progress_setBlock_same allocated rfl rfl) rfl

section Close

variable {self : Pointer} {wrapper : Wrapper} {id : HandleId} {block : Block}

/-- `Close` of a wrapper without a handle does nothing. -/
theorem close_idle (live : heap.wrappers self = some wrapper) (idle : wrapper.handle = none) :
    heap.close self = .ok (false, heap) := by
  simp only [Heap.close, Heap.wrapper_ok live, ok_bind, Heap.isClosing, idle, if_true]
  rfl

/-- `Close` of a handle that is closing already does nothing. -/
theorem close_closing (live : heap.wrappers self = some wrapper)
    (holds : wrapper.handle = some id) (allocated : heap.blocks id = some block)
    (closing : block.phase ≠ .opened) : heap.close self = .ok (false, heap) := by
  have answer : heap.isClosing wrapper = .ok true := by
    by_cases closed : wrapper.handleClosed = true
    · simp only [Heap.isClosing, holds, closed, if_true]
    · simp only [Heap.isClosing, holds, if_neg closed, Heap.uvIsClosing_ok allocated,
        decide_eq_true closing]
  simp only [Heap.close, Heap.wrapper_ok live, ok_bind, answer, if_true]
  rfl

/-- `Close` of a handle that is open calls `uv_close` with the callback of the wrapper. -/
theorem close_opened (live : heap.wrappers self = some wrapper)
    (holds : wrapper.handle = some id) (notClosed : wrapper.handleClosed = false)
    (allocated : heap.blocks id = some block) (opened : block.phase = .opened) :
    heap.close self = .ok (true, heap.markClosing id block .onUVClose) := by
  have answer : heap.isClosing wrapper = .ok false := by
    simp only [Heap.isClosing, holds, notClosed, Bool.false_eq_true, if_false,
      Heap.uvIsClosing_ok allocated, opened, ne_eq, not_true_eq_false, decide_false]
  simp only [Heap.close, Heap.wrapper_ok live, ok_bind, answer, Bool.false_eq_true, if_false,
    holds, Heap.uvClose_ok allocated opened]
  rfl

/-- A wrapper answers for the handle it holds. -/
theorem isClosing_held (coherent : Coherent heap) (live : heap.wrappers self = some wrapper)
    (holds : wrapper.handle = some id) (allocated : heap.blocks id = some block) :
    heap.isClosing wrapper = .ok (decide (block.phase ≠ .opened)) := by
  obtain ⟨found, found', _, _, _, closed⟩ := coherent.owned.holds live holds
  obtain rfl : found = block := Option.some.inj (found'.symm.trans allocated)
  by_cases known : wrapper.handleClosed = true
  · simp only [Heap.isClosing, holds, known, if_true, closed.mp known, ne_eq, reduceCtorEq,
      not_false_eq_true, decide_true]
  · simp only [Heap.isClosing, holds, if_neg known, Heap.uvIsClosing_ok allocated]

/-- Closing a held block is one move at most. Afterwards the block is closing,
or closed if it was. -/
theorem close_held (coherent : Coherent heap) (live : heap.wrappers self = some wrapper)
    (holds : wrapper.handle = some id) (allocated : heap.blocks id = some block) :
    ∃ result next changed, heap.close self = .ok (result, next) ∧ UserMoves heap next ∧
      next.wrappers = heap.wrappers ∧ next.blocks id = some changed ∧
      changed.phase = (if block.phase = .closed then .closed else .closing) := by
  obtain ⟨found, found', valid, pooled, _, closed⟩ := coherent.owned.holds live holds
  obtain rfl : found = block := Option.some.inj (found'.symm.trans allocated)
  cases phase : found.phase with
  | opened =>
    have notClosed : wrapper.handleClosed = false := by
      simpa [phase] using closed
    have external : found.internal = false := by
      by_contra internal
      have outside := (valid.internal (by simpa using internal)).1
      simp [pooled] at outside
    have move := Move.close id found allocated phase external
    rw [pooled, if_pos rfl] at move
    have user : UserMove heap (heap.markClosing id found .onUVClose) :=
      ⟨move, rfl, fun _ member => List.mem_cons_of_mem id member⟩
    exact ⟨true, _, _, close_opened live holds notClosed allocated phase, .single user, rfl,
      (heap.markClosing_blocks id id found _).trans (if_pos rfl), by simp⟩
  | closing =>
    exact ⟨false, heap, found, close_closing live holds allocated (by simp [phase]), .refl, rfl,
      allocated, by simp [phase]⟩
  | closed =>
    exact ⟨false, heap, found, close_closing live holds allocated (by simp [phase]), .refl, rfl,
      allocated, by simp [phase]⟩

/-- Closing a held block and clearing its data leaves an orphan, whatever then
happens to the wrapper: by moves, unless the block was closed before. -/
theorem give_up (coherent : Coherent heap) (live : heap.wrappers self = some wrapper)
    (holds : wrapper.handle = some id) (allocated : heap.blocks id = some block) :
    ∃ result closing cleared, heap.close self = .ok (result, closing) ∧
      closing.setData id 0 = .ok cleared ∧ cleared.wrappers = heap.wrappers ∧
      ∀ content, (∀ w, content = some w → w = ⟨none, true⟩) →
        (block.phase ≠ .closed → UserMoves heap (cleared.putWrapper self content)) ∧
        (block.phase = .closed → Leak heap (cleared.putWrapper self content)) := by
  obtain ⟨result, closing, changed, closed, moves, wrappers, present, phase⟩ :=
    close_held coherent live holds allocated
  refine ⟨result, closing, _, closed, Heap.setData_ok present 0, wrappers, ?_⟩
  intro content empty
  constructor
  · intro notClosed
    rw [if_neg notClosed] at phase
    exact moves.tail (.same (.abandon self wrapper id changed content (wrappers ▸ live) holds
      present phase empty) rfl rfl)
  · intro already
    have same : closing = heap := by
      rw [close_closing live holds allocated (by simp [already])] at closed
      exact (Prod.mk.inj (Except.ok.inj closed)).2.symm
    subst same
    rw [if_pos already] at phase
    exact .abandon self wrapper id changed content live holds present phase empty

end Close

section Wrappers

variable {self org : Pointer} {wrapper source : Wrapper} {id : HandleId} {block : Block}

/-- A wrapper keeps what was written last. -/
theorem putWrapper_twice (first second : Option Wrapper) :
    (heap.putWrapper self first).putWrapper self second = heap.putWrapper self second := by
  simp only [Heap.putWrapper, Function.update_idem]

/-- Two wrappers may be written in any order. -/
theorem putWrapper_comm (apart : self ≠ org) (first second : Option Wrapper) :
    (heap.putWrapper self first).putWrapper org second =
      (heap.putWrapper org second).putWrapper self first := by
  simp only [Heap.putWrapper, Function.update_comm apart]

/-- `Close` on a live wrapper. -/
theorem close_moves (coherent : Coherent heap) (live : heap.wrappers self = some wrapper) :
    ∃ result next, heap.close self = .ok (result, next) ∧ UserMoves heap next := by
  cases holds : wrapper.handle with
  | none => exact ⟨false, heap, close_idle live holds, .refl⟩
  | some id =>
    obtain ⟨block, allocated, _⟩ := coherent.owned.holds live holds
    obtain ⟨result, next, _, closed, moves, _⟩ := close_held coherent live holds allocated
    exact ⟨result, next, closed, moves⟩

/-- The destructor of a live wrapper. One without a handle is only removed. Otherwise an open
handle is closed first; one that is closing is left alone from then on, and one that is closed
is released together with the wrapper. -/
theorem destroy_moves (coherent : Coherent heap) (live : heap.wrappers self = some wrapper) :
    ∃ next, heap.destroy self = .ok next ∧ UserMoves heap next := by
  cases holds : wrapper.handle with
  | none =>
    have closed := coherent.owned.closed_of_vacant live holds
    refine ⟨heap.putWrapper self none, ?_, .single (.same (.rest self none ?_ nofun) rfl rfl)⟩
    · simp only [Heap.destroy, Heap.wrapper_ok live, ok_bind, closed, Bool.true_eq_false, if_false,
        holds]
      rfl
    · intro w present
      obtain rfl : wrapper = w := Option.some.inj (live.symm.trans present)
      exact holds
  | some id =>
    obtain ⟨block, allocated, _, pooled, _, agrees⟩ := coherent.owned.holds live holds
    by_cases closed : wrapper.handleClosed = true
    · refine ⟨(heap.putWrapper self none).free id, ?_,
        .single (.same (.discard self wrapper id block live holds allocated (agrees.mp closed))
          rfl rfl)⟩
      simp only [Heap.destroy, Heap.wrapper_ok live, ok_bind, closed, Bool.true_eq_false, if_false,
        holds]
      exact Heap.poolFree_ok allocated pooled
    · obtain ⟨result, closing, cleared, close, clear, _, content⟩ :=
        give_up coherent live holds allocated
      have open_ : block.phase ≠ .closed := fun phase => closed (agrees.mpr phase)
      refine ⟨cleared.putWrapper self none, ?_, (content none nofun).1 open_⟩
      simp only [Heap.destroy, Heap.wrapper_ok live, ok_bind, closed, if_true, close, holds, clear]
      rfl

/-- The state in which one wrapper has taken over from another. -/
def Heap.handOver (heap : Heap) (self org : Pointer) (source : Wrapper) : Except Fault Heap :=
  match source.handle with
  | none => pure ((heap.putWrapper self (some source)).putWrapper org (some ⟨none, true⟩))
  | some id => ((heap.putWrapper self (some source)).putWrapper org (some ⟨none, true⟩)).setData id
      (handleToData self)

/-- What the destination held before does not matter. -/
theorem handOver_putWrapper (content : Option Wrapper) :
    (heap.putWrapper self content).handOver self org source = heap.handOver self org source := by
  simp only [Heap.handOver, putWrapper_twice]

/-- A wrapper without a handle takes over what another has. -/
theorem takeOver_apart (apart : self ≠ org) {target : Wrapper}
    (vacant : heap.wrappers self = some target) (live : heap.wrappers org = some source) :
    heap.takeOver self org = heap.handOver self org source := by
  have final : (((heap.putWrapper self (some ⟨source.handle, target.handleClosed⟩)).putWrapper
      org (some ⟨none, source.handleClosed⟩)).putWrapper self (some source)).putWrapper org
        (some ⟨none, true⟩) =
      (heap.putWrapper self (some source)).putWrapper org (some ⟨none, true⟩) := by
    rw [putWrapper_comm apart.symm, putWrapper_twice, putWrapper_twice]
  obtain ⟨handle, closed⟩ := source
  cases handle with
  | none =>
    simp [Heap.takeOver, Heap.handOver, Heap.wrapper, Heap.setWrapper, live, vacant, apart,
      apart.symm, ok_bind, final]
  | some id =>
    simp [Heap.takeOver, Heap.handOver, Heap.wrapper, Heap.setWrapper, live, vacant, apart,
      apart.symm, ok_bind, final]

/-- Taking over from itself leaves a wrapper that holds nothing closed. -/
theorem takeOver_self {target : Wrapper} (vacant : heap.wrappers self = some target) :
    heap.takeOver self self = .ok (heap.putWrapper self (some ⟨none, true⟩)) := by
  simp [Heap.takeOver, Heap.wrapper, Heap.setWrapper, vacant, ok_bind, pure_eq_ok,
    putWrapper_twice]

/-- Handing over to a place that holds nothing. If the source has a handle, its block passes to
the new place; otherwise the empty pointer is copied. -/
theorem handOver_moves (coherent : Coherent heap) (apart : self ≠ org)
    (idle : ∀ w, heap.wrappers self = some w → w.handle = none)
    (live : heap.wrappers org = some source) :
    ∃ next, heap.handOver self org source = .ok next ∧ UserMoves heap next := by
  cases holds : source.handle with
  | none =>
    have empty : source = ⟨none, true⟩ := by
      rw [← holds, ← coherent.owned.closed_of_vacant live holds]
    refine ⟨_, by simp only [Heap.handOver, holds]; rfl, ?_⟩
    refine Relation.ReflTransGen.tail (.single (.same (.rest self (some source) idle ?_) rfl rfl))
      (.same (.rest org (some ⟨none, true⟩) ?_ ?_) rfl rfl)
    · rintro w ⟨⟩
      exact empty
    · intro w present
      rw [Heap.putWrapper_wrappers, if_neg apart.symm, live] at present
      rw [← Option.some.inj present]
      exact holds
    · rintro w ⟨⟩
      rfl
  | some id =>
    obtain ⟨block, allocated, _⟩ := coherent.owned.holds live holds
    refine ⟨_, ?_, .single (.same
      (.transfer self org source id block apart idle live holds allocated) rfl rfl)⟩
    simp only [Heap.handOver, holds]
    exact Heap.setData_ok (by exact allocated) _

/-- The move constructor hands over. -/
theorem moveConstruct_eq (live : heap.wrappers org = some source) :
    heap.moveConstruct self org = heap.handOver self org source := by
  rw [Heap.moveConstruct, Heap.wrapper_ok live, ok_bind]
  rfl

/-- The move constructor, into memory that holds no wrapper. -/
theorem moveConstruct_moves (coherent : Coherent heap) (vacant : heap.wrappers self = none)
    (live : heap.wrappers org = some source) :
    ∃ next, heap.moveConstruct self org = .ok next ∧ UserMoves heap next := by
  have apart : self ≠ org := by
    rintro rfl
    rw [vacant] at live
    cases live
  obtain ⟨next, handed, moves⟩ := handOver_moves coherent apart (by simp [vacant]) live
  exact ⟨next, by rw [moveConstruct_eq live, handed], moves⟩

/-- The assignment, once its own handle is released: from any state in which the
destination may be taken for empty. -/
theorem takeOver_moves (target : Wrapper)
    (coherent : Coherent (heap.putWrapper self (some ⟨none, true⟩)))
    (live : self ≠ org → heap.wrappers org = some source) :
    ∃ next, (heap.putWrapper self (some target)).takeOver self org = .ok next ∧
      UserMoves (heap.putWrapper self (some ⟨none, true⟩)) next := by
  by_cases same : self = org
  · subst same
    refine ⟨heap.putWrapper self (some ⟨none, true⟩), ?_, .refl⟩
    rw [takeOver_self ((Heap.putWrapper_wrappers _ _ _ _).trans (if_pos rfl)), putWrapper_twice]
  · have present : ∀ content, (heap.putWrapper self content).wrappers org = some source := by
      intro content
      rw [Heap.putWrapper_wrappers, if_neg (Ne.symm same), live same]
    obtain ⟨next, handed, moves⟩ := handOver_moves coherent same (by simp) (present _)
    refine ⟨next, ?_, moves⟩
    have vacant := (heap.putWrapper_wrappers self self (some target)).trans (if_pos rfl)
    rw [takeOver_apart same vacant (present _), handOver_putWrapper, ← handed,
      handOver_putWrapper]

/-- Nothing changes when a wrapper is given what it has. -/
theorem putWrapper_same {content : Option Wrapper} (present : heap.wrappers self = content) :
    heap.putWrapper self content = heap := by
  rw [← present, Heap.putWrapper, Function.update_eq_self]

/-- Assignment onto a wrapper that owns a handle. -/
theorem moveAssign_held (coherent : Coherent heap) (live : heap.wrappers self = some wrapper)
    (holds : wrapper.handle = some id) (allocated : heap.blocks id = some block)
    (orgLive : heap.wrappers org = some source) :
    ∃ middle next, heap.moveAssign self org = .ok next ∧ UserMoves middle next ∧
      (block.phase ≠ .closed → UserMoves heap middle) ∧
      (block.phase = .closed → Leak heap middle) := by
  obtain ⟨result, closing, cleared, close, clear, wrappers, content⟩ :=
    give_up coherent live holds allocated
  have orphaned := content (some ⟨none, true⟩) (by rintro w ⟨⟩; rfl)
  have middle : Coherent (cleared.putWrapper self (some ⟨none, true⟩)) := by
    by_cases closed : block.phase = .closed
    · exact coherent.leak (orphaned.2 closed)
    · exact coherent.moves (moves_of_user (orphaned.1 closed))
  obtain ⟨next, taken, moves⟩ := takeOver_moves { wrapper with handle := none } middle
    (fun _ => (congrFun wrappers org).trans orgLive)
  refine ⟨_, next, ?_, moves, orphaned⟩
  have released : heap.release self =
      .ok (cleared.putWrapper self (some { wrapper with handle := none })) := by
    simp only [Heap.release, Heap.wrapper_ok live, ok_bind, holds, close, clear]
    rfl
  rw [Heap.moveAssign, released, ok_bind, taken]

/-- Assignment onto a wrapper that owns no handle releases nothing. -/
theorem release_idle (live : heap.wrappers self = some wrapper) (idle : wrapper.handle = none) :
    heap.release self = .ok heap := by
  simp only [Heap.release, Heap.wrapper_ok live, ok_bind, idle]
  rfl

/-- Assignment onto a wrapper that does not own a closed handle. -/
theorem moveAssign_moves (coherent : Coherent heap) (live : heap.wrappers self = some wrapper)
    (orgLive : heap.wrappers org = some source)
    (notClosed : wrapper.handle ≠ none → wrapper.handleClosed = false) :
    ∃ next, heap.moveAssign self org = .ok next ∧ UserMoves heap next := by
  cases holds : wrapper.handle with
  | none =>
    have empty : wrapper = ⟨none, true⟩ := by
      rw [← holds, ← coherent.owned.closed_of_vacant live holds]
    have same := putWrapper_same (empty ▸ live)
    have cleared : Coherent (heap.putWrapper self (some ⟨none, true⟩)) := same.symm ▸ coherent
    obtain ⟨next, taken, moves⟩ := takeOver_moves wrapper cleared (fun _ => orgLive)
    rw [same] at moves
    rw [putWrapper_same live] at taken
    exact ⟨next, by rw [Heap.moveAssign, release_idle live holds, ok_bind, taken], moves⟩
  | some id =>
    obtain ⟨block, allocated, _, _, _, agrees⟩ := coherent.owned.holds live holds
    obtain ⟨middle, next, assigned, later, earlier, _⟩ :=
      moveAssign_held coherent live holds allocated orgLive
    have open_ : block.phase ≠ .closed := by
      intro closed
      have known := agrees.mpr closed
      rw [notClosed (by simp [holds])] at known
      cases known
    exact ⟨next, assigned, (earlier open_).trans later⟩

/-- `Ref` and `Unref` on a live wrapper. -/
theorem setReferenced_moves (coherent : Coherent heap) (live : heap.wrappers self = some wrapper)
    (referenced : Bool) :
    ∃ next, heap.setReferenced self referenced = .ok next ∧ UserMoves heap next := by
  by_cases closed : wrapper.handleClosed = true
  · refine ⟨heap, ?_, .refl⟩
    simp only [Heap.setReferenced, Heap.wrapper_ok live, ok_bind, closed, if_true]
    rfl
  · cases holds : wrapper.handle with
    | none => exact absurd (coherent.owned.closed_of_vacant live holds) closed
    | some id =>
      obtain ⟨block, allocated, valid, pooled, _⟩ := coherent.owned.holds live holds
      refine ⟨_, ?_, .single (.same
        (.flag id block block.active referenced allocated ?_) rfl rfl)⟩
      · simp only [Heap.setReferenced, Heap.wrapper_ok live, ok_bind, if_neg closed, holds,
          Heap.uvSetReferenced, Heap.deref_ok allocated]
        rfl
      · intro internal
        have outside := (valid.internal internal).1
        rw [pooled] at outside
        cases outside

/-- A wrapper class builds itself in memory that holds no wrapper. -/
theorem construct_move (vacant : heap.wrappers self = none) (active : Bool) :
    ∃ next, heap.construct self active = .ok next ∧ Move heap next ∧
      next.closingHandles = heap.closingHandles := by
  refine ⟨_, ?_, .adopt self active vacant, rfl⟩
  simp [Heap.construct, Heap.alloc, Heap.uvHandleInit, Heap.wrap, Heap.setData, Heap.deref,
    Heap.setBlock, ok_bind, pure_eq_ok, Heap.setWrapper, Heap.putWrapper]

end Wrappers

section Libuv

variable {id : HandleId} {block : Block}

/-- The close callback of a handle with an owner leaves word with the owner. -/
theorem deliverClose_owned {self : Pointer} {wrapper : Wrapper}
    (allocated : heap.blocks id = some block) (closeCb : block.closeCb = .onUVClose)
    (named : dataToHandle block.data = some self) (live : heap.wrappers self = some wrapper) :
    heap.deliverClose id = .ok (((heap.markClosed id block).record (.closeCallback id)).setWrapper
      self { wrapper with handleClosed := true }) := by
  have finished : (heap.markClosed id block).blocks id =
      some { block with phase := .closed, referenced := false } :=
    (heap.markClosed_blocks id id block).trans (if_pos rfl)
  have recorded : ((heap.markClosed id block).record (.closeCallback id)).blocks id =
      some { block with phase := .closed, referenced := false } := finished
  have alive : ((heap.markClosed id block).record (.closeCallback id)).wrappers self =
      some wrapper := live
  simp only [Heap.deliverClose, Heap.uvFinishClose_ok allocated, ok_bind,
    Heap.deref_ok finished, closeCb, Heap.onUVClose, Heap.deref_ok recorded, named,
    Heap.wrapper_ok alive]
  rfl

/-- libuv delivers the close callback of a closing handle: one move, which takes
that handle out of the closing handles. -/
theorem deliverClose_move (coherent : Coherent heap) (closing : id ∈ heap.closingHandles) :
    ∃ next, heap.deliverClose id = .ok next ∧ Move heap next ∧ next.fresh = heap.fresh ∧
      next.closingHandles = heap.closingHandles.filter (· ≠ id) := by
  obtain ⟨block, allocated, phase⟩ := coherent.linked.allocated_closing closing
  have valid := coherent.owned.valid allocated
  have finished : (heap.markClosed id block).blocks id =
      some { block with phase := .closed, referenced := false } :=
    (heap.markClosed_blocks id id block).trans (if_pos rfl)
  by_cases pooled : block.pooled = true
  · have closeCb := coherent.owned.closeCb_pooled allocated (by simp [phase]) pooled
    cases named : dataToHandle block.data with
    | none =>
      have null : block.data = 0 := by
        by_contra present
        obtain ⟨self, tagged⟩ := valid.tagged pooled present
        simp [tagged] at named
      refine ⟨_, ?_, .finishOrphan id block allocated phase pooled null, rfl, rfl⟩
      have recorded : ((heap.markClosed id block).record (.closeCallback id)).blocks id =
          some { block with phase := .closed, referenced := false } := finished
      simp only [Heap.deliverClose, Heap.uvFinishClose_ok allocated, ok_bind,
        Heap.deref_ok finished, closeCb, Heap.onUVClose, Heap.deref_ok recorded, named]
      exact Heap.poolFree_ok recorded pooled
    | some self =>
      obtain ⟨wrapper, live, holds⟩ := coherent.owned.named_by allocated named
      exact ⟨_, deliverClose_owned allocated closeCb named live,
        .finishOwned self wrapper id block live holds allocated phase, rfl, rfl⟩
  · have outside : block.pooled = false := by simpa using pooled
    have closeCb : block.closeCb = .null := by
      simpa [outside] using valid.callback (by simp [phase])
    refine ⟨_, ?_, .finishForeign id block allocated phase outside, rfl, rfl⟩
    simp only [Heap.deliverClose, Heap.uvFinishClose_ok allocated, ok_bind,
      Heap.deref_ok finished, closeCb]
    rfl

/-- What the walker makes of a block. -/
def Block.forceClosed (block : Block) : Block :=
  if block.internal = true ∨ block.phase ≠ .opened then block
  else { block with
    phase := .closing
    closeCb := if block.pooled then .onUVClose else .null
    active := false }

/-- A handle that the destructor of the loop has closed is not open any more, unless it is one of
libuv itself. -/
theorem forceClosed_not_opened (block : Block) :
    block.forceClosed.internal = true ∨ block.forceClosed.phase ≠ .opened := by
  by_cases skipped : block.internal = true ∨ block.phase ≠ .opened
  · rw [Block.forceClosed, if_pos skipped]
    exact skipped
  · rw [Block.forceClosed, if_neg skipped]
    exact Or.inr (by simp)

/-- Closing it once more makes no difference. -/
theorem forceClosed_forceClosed (block : Block) :
    block.forceClosed.forceClosed = block.forceClosed :=
  if_pos (forceClosed_not_opened block)

/-- Only tagged blocks come from the pool while they are open. -/
theorem Owned.tagged_iff (owned : Owned heap) (allocated : heap.blocks id = some block)
    (opened : block.phase = .opened) :
    (dataToHandle block.data).isSome = true ↔ block.pooled = true := by
  have valid := owned.valid allocated
  by_cases pooled : block.pooled = true
  · have present : block.data ≠ 0 := fun null => valid.orphan pooled null opened
    obtain ⟨self, tagged⟩ := valid.tagged pooled present
    simp [tagged, pooled]
  · simp [valid.foreign (by simpa using pooled), pooled]

/-- The walk of one allocated handle changes that block only. Internal handles and those that
are closing are passed over, and the others are closed as by a call of `Close`. -/
theorem uvWalkHandle_moves (coherent : Coherent heap) (allocated : heap.blocks id = some block) :
    ∃ next, heap.uvWalkHandle id = .ok next ∧ UserMoves heap next ∧ next.wrappers = heap.wrappers ∧
      ∀ other, next.blocks other =
        if other = id then some block.forceClosed else heap.blocks other := by
  by_cases skipped : block.internal = true ∨ block.phase ≠ .opened
  · refine ⟨heap, ?_, .refl, rfl, ?_⟩
    · by_cases internal : block.internal = true
      · simp only [Heap.uvWalkHandle, Heap.deref_ok allocated, ok_bind, internal, if_true]
        rfl
      · have closing : block.phase ≠ .opened := skipped.resolve_left internal
        simp only [Heap.uvWalkHandle, Heap.deref_ok allocated, ok_bind, if_neg internal,
          Heap.uvClosingHandleWalker, Heap.uvIsClosing_ok allocated, decide_eq_true closing,
          if_true]
        rfl
    · intro other
      by_cases same : other = id
      · rw [if_pos same, same, allocated, Block.forceClosed, if_pos skipped]
      · rw [if_neg same]
  · obtain ⟨external, opened⟩ := not_or.mp skipped
    have phase : block.phase = .opened := not_not.mp opened
    have move := Move.close id block allocated phase (by simpa using external)
    refine ⟨_, ?_, .single ⟨move, rfl, fun _ member => List.mem_cons_of_mem id member⟩, rfl, ?_⟩
    · have tagged := coherent.owned.tagged_iff allocated phase
      simp only [Heap.uvWalkHandle, Heap.deref_ok allocated, ok_bind, if_neg external,
        Heap.uvClosingHandleWalker, Heap.uvIsClosing_ok allocated, phase, ne_eq,
        not_true_eq_false, decide_false, Bool.false_eq_true, if_false, tagged,
        Heap.uvClose_ok allocated phase]
      split <;> rfl
    · intro other
      rw [Heap.markClosing_blocks, Block.forceClosed, if_neg skipped]

/-- The walk of any handles that are allocated. The induction is on the list; a handle that is
closed by the walk is still allocated, so the walk goes on. -/
theorem foldlM_uvWalkHandle_moves (ids : List HandleId) (coherent : Coherent heap)
    (allocated : ∀ id ∈ ids, ∃ block, heap.blocks id = some block) :
    ∃ next, ids.foldlM Heap.uvWalkHandle heap = .ok next ∧ UserMoves heap next ∧
      next.wrappers = heap.wrappers ∧
      ∀ other, next.blocks other =
        if other ∈ ids then (heap.blocks other).map Block.forceClosed else heap.blocks other := by
  induction ids generalizing heap with
  | nil => exact ⟨heap, rfl, .refl, rfl, by simp⟩
  | cons id rest inductionHypothesis =>
    obtain ⟨block, present⟩ := allocated id List.mem_cons_self
    obtain ⟨middle, walked, moves, wrappers, blocks⟩ := uvWalkHandle_moves coherent present
    obtain ⟨next, folded, later, wrappers', blocks'⟩ :=
      inductionHypothesis (coherent.moves (moves_of_user moves)) (by
        intro other member
        rw [blocks]
        split
        · exact ⟨_, rfl⟩
        · exact allocated other (List.mem_cons_of_mem id member))
    refine ⟨next, ?_, moves.trans later, wrappers'.trans wrappers, ?_⟩
    · rw [List.foldlM_cons, walked, ok_bind, folded]
    · intro other
      rw [blocks', blocks]
      by_cases same : other = id
      · rw [if_pos same, same, present]
        by_cases again : id ∈ rest <;> simp [again, forceClosed_forceClosed]
      · by_cases member : other ∈ rest <;> simp [same, member]

/-- `ForceCloseAllHandle` in a coherent state closes every handle of the queue
that is neither internal nor closing. -/
theorem forceCloseAllHandle_moves (coherent : Coherent heap) :
    ∃ next, heap.forceCloseAllHandle = .ok next ∧ UserMoves heap next ∧
      next.wrappers = heap.wrappers ∧
      ∀ other, next.blocks other =
        if other ∈ heap.queue then (heap.blocks other).map Block.forceClosed
        else heap.blocks other := by
  refine foldlM_uvWalkHandle_moves heap.queue coherent ?_
  intro id member
  obtain ⟨block, allocated, _⟩ := coherent.linked.allocated member
  exact ⟨block, allocated⟩

end Libuv

end MoeUV
