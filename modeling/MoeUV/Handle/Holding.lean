import MoeUV.Handle.Evolution

/-!
# Who holds which handle

What each operation does to the handle pointers of the wrappers, whatever the
rest of the heap looks like. Only construction, the two moves and destruction
change a pointer; a move takes the pointer of its source, and what the target
held before is held by nobody any more.
-/

namespace MoeUV

open Foundation.Execution

/-- The handle pointer of the wrapper at an address. -/
def Heap.held (heap : Heap) (self : Pointer) : Option HandleId :=
  (heap.wrappers self).bind Wrapper.handle

/-- Some wrapper holds the handle. -/
def Held (heap : Heap) (id : HandleId) : Prop := ∃ self, heap.held self = some id

/-- The handle pointers after an operation. -/
def Action.heldAfter (heap : Heap) : Action → Pointer → Option HandleId
  | .construct self _, other => if other = self then some heap.fresh else heap.held other
  | .moveConstruct self org, other | .moveAssign self org, other =>
    if other = org then none else if other = self then heap.held org else heap.held other
  | .destroy self, other => if other = self then none else heap.held other
  | _, other => heap.held other

/-- The handle that an operation leaves without a holder. -/
def Action.disowned (heap : Heap) : Action → Option HandleId
  | .destroy self | .moveAssign self _ => heap.held self
  | _ => none

/-- The handle whose close an operation delivers. -/
def Action.delivered : Action → Option HandleId
  | .deliverClose id => some id
  | _ => none

variable {heap next : Heap} {self org other : Pointer} {id : HandleId}

/-- A wrapper holds what it was given, and the others hold what they held. -/
theorem held_putWrapper (content : Option Wrapper) :
    (heap.putWrapper self content).held other =
      if other = self then content.bind Wrapper.handle else heap.held other := by
  by_cases same : other = self
  · simp [Heap.held, same]
  · simp [Heap.held, same]

/-- An operation on blocks only. -/
theorem held_of_wrappers (wrappers : next.wrappers = heap.wrappers) :
    next.held other = heap.held other := by
  rw [Heap.held, wrappers, Heap.held]

section Blocks

/-- Writing the data of a block changes no wrapper, -/
theorem setData_wrappers {data : Word} (ran : heap.setData id data = .ok next) :
    next.wrappers = heap.wrappers := by
  obtain ⟨block, _, set⟩ := bind_ok_iff.mp ran
  rw [← Except.ok.inj set]
  rfl

/-- nor does `uv_close`, -/
theorem uvClose_wrappers {closeCb : CloseCallback} (ran : heap.uvClose id closeCb = .ok next) :
    next.wrappers = heap.wrappers := by
  obtain ⟨block, _, closed⟩ := bind_ok_iff.mp ran
  split at closed
  · cases closed
  · rw [← Except.ok.inj closed]
    rfl

/-- nor freeing a block, -/
theorem poolFree_wrappers (ran : heap.poolFree id = .ok next) :
    next.wrappers = heap.wrappers := by
  rw [Heap.poolFree] at ran
  split at ran
  · cases ran
  · split at ran
    · rw [← Except.ok.inj ran]
      rfl
    · cases ran

/-- nor `Close`, which asks libuv only, -/
theorem close_wrappers {result : Bool} (ran : heap.close self = .ok (result, next)) :
    next.wrappers = heap.wrappers := by
  obtain ⟨wrapper, _, rest⟩ := bind_ok_iff.mp ran
  obtain ⟨closing, _, rest⟩ := bind_ok_iff.mp rest
  cases closing with
  | true =>
    obtain ⟨-, rfl⟩ := Prod.mk.inj (Except.ok.inj rest)
    rfl
  | false =>
    cases holds : wrapper.handle with
    | none => simp [holds, throw, throwThe, MonadExceptOf.throw] at rest
    | some id =>
      simp only [holds, Bool.false_eq_true, if_false] at rest
      obtain ⟨closed, marked, rest⟩ := bind_ok_iff.mp rest
      obtain ⟨-, rfl⟩ := Prod.mk.inj (Except.ok.inj rest)
      exact uvClose_wrappers marked

/-- nor what the destructor of the loop does with a handle, -/
theorem uvWalkHandle_wrappers (ran : heap.uvWalkHandle id = .ok next) :
    next.wrappers = heap.wrappers := by
  obtain ⟨block, _, rest⟩ := bind_ok_iff.mp ran
  split at rest
  · rw [← Except.ok.inj rest]
  · obtain ⟨closing, _, rest⟩ := bind_ok_iff.mp rest
    split at rest
    · rw [← Except.ok.inj rest]
    · obtain ⟨_, _, rest⟩ := bind_ok_iff.mp rest
      split at rest <;> exact uvClose_wrappers rest

/-- or with all of them. -/
theorem foldlM_uvWalkHandle_wrappers {ids : List HandleId}
    (ran : ids.foldlM Heap.uvWalkHandle heap = .ok next) : next.wrappers = heap.wrappers := by
  induction ids generalizing heap with
  | nil => rw [← Except.ok.inj ran]
  | cons id rest inductionHypothesis =>
    rw [List.foldlM_cons] at ran
    obtain ⟨middle, walked, ran⟩ := bind_ok_iff.mp ran
    exact (inductionHypothesis ran).trans (uvWalkHandle_wrappers walked)

end Blocks

section Wrappers

variable {wrapper source : Wrapper}

/-- A wrapper is found exactly where there is one. -/
theorem wrapper_eq_ok_iff :
    heap.wrapper self = .ok wrapper ↔ heap.wrappers self = some wrapper := by
  rw [Heap.wrapper]
  cases live : heap.wrappers self with
  | none => simp
  | some found => simp

/-- The destructor takes one wrapper away. -/
theorem held_destroy (ran : heap.destroy self = .ok next) :
    next.held other = if other = self then none else heap.held other := by
  obtain ⟨wrapper, live, rest⟩ := bind_ok_iff.mp ran
  split at rest
  · obtain ⟨⟨result, closed⟩, closing, rest⟩ := bind_ok_iff.mp rest
    cases holds : wrapper.handle with
    | none => simp [holds, throw, throwThe, MonadExceptOf.throw] at rest
    | some id =>
      simp only [holds] at rest
      obtain ⟨cleared, clearing, dropped⟩ := bind_ok_iff.mp rest
      rw [← Except.ok.inj dropped, Heap.dropWrapper, held_putWrapper]
      rw [held_of_wrappers ((setData_wrappers clearing).trans (close_wrappers closing))]
      rfl
  · cases holds : wrapper.handle with
    | none =>
      simp only [holds] at rest
      rw [← Except.ok.inj rest, Heap.dropWrapper, held_putWrapper]
      rfl
    | some id =>
      simp only [holds] at rest
      rw [held_of_wrappers (poolFree_wrappers rest), Heap.dropWrapper, held_putWrapper]
      rfl

/-- The move constructor. -/
theorem held_moveConstruct (ran : heap.moveConstruct self org = .ok next) :
    next.held other =
      if other = org then none else if other = self then heap.held org else heap.held other := by
  obtain ⟨source, live, rest⟩ := bind_ok_iff.mp ran
  have moved : ((heap.setWrapper self source).setWrapper org ⟨none, true⟩).held other =
      if other = org then none else if other = self then heap.held org else heap.held other := by
    simp only [Heap.setWrapper, held_putWrapper, Option.bind_some]
    simp [Heap.held, wrapper_eq_ok_iff.mp live]
  cases holds : source.handle with
  | none =>
    simp only [holds] at rest
    rw [← Except.ok.inj rest]
    exact moved
  | some id =>
    simp only [holds] at rest
    exact (held_of_wrappers (setData_wrappers rest)).trans moved

/-- The first branch of the assignment gives up the pointer of the target. -/
theorem held_release (ran : heap.release self = .ok next) :
    next.held other = if other = self then none else heap.held other := by
  obtain ⟨wrapper, live, rest⟩ := bind_ok_iff.mp ran
  have live := wrapper_eq_ok_iff.mp live
  cases holds : wrapper.handle with
  | none =>
    simp only [holds] at rest
    rw [← Except.ok.inj rest]
    by_cases same : other = self
    · simp [Heap.held, same, live, holds]
    · simp [same]
  | some id =>
    simp only [holds] at rest
    obtain ⟨⟨result, closed⟩, closing, rest⟩ := bind_ok_iff.mp rest
    obtain ⟨cleared, clearing, dropped⟩ := bind_ok_iff.mp rest
    rw [← Except.ok.inj dropped, Heap.setWrapper, held_putWrapper]
    rw [held_of_wrappers ((setData_wrappers clearing).trans (close_wrappers closing))]
    rfl

/-- The rest of the assignment takes over the pointer of the source. The source is asked first,
then the target; an assignment to itself leaves nothing in either, since the pointer is cleared
at last. -/
theorem held_takeOver (ran : heap.takeOver self org = .ok next) :
    next.held other =
      if other = org then none else if other = self then heap.held org else heap.held other := by
  obtain ⟨source, orgLive, rest⟩ := bind_ok_iff.mp ran
  obtain ⟨target, live, _⟩ := bind_ok_iff.mp rest
  have orgLive := wrapper_eq_ok_iff.mp orgLive
  have live := wrapper_eq_ok_iff.mp live
  by_cases same : self = org
  · subst same
    rw [takeOver_self live] at ran
    rw [← Except.ok.inj ran, held_putWrapper]
    by_cases here : other = self <;> simp [here]
  · rw [takeOver_apart same live orgLive] at ran
    have moved : ((heap.putWrapper self (some source)).putWrapper org (some ⟨none, true⟩)).held
        other = if other = org then none else if other = self then heap.held org
          else heap.held other := by
      simp only [held_putWrapper, Option.bind_some]
      simp [Heap.held, orgLive]
    cases holds : source.handle with
    | none =>
      simp only [Heap.handOver, holds] at ran
      rw [← Except.ok.inj ran]
      exact moved
    | some id =>
      simp only [Heap.handOver, holds] at ran
      exact (held_of_wrappers (setData_wrappers ran)).trans moved

/-- The assignment as a whole. -/
theorem held_moveAssign (ran : heap.moveAssign self org = .ok next) :
    next.held other =
      if other = org then none else if other = self then heap.held org else heap.held other := by
  obtain ⟨released, release, taken⟩ := bind_ok_iff.mp ran
  rw [held_takeOver taken, held_release release, held_release release]
  by_cases source : other = org
  · simp [source]
  · by_cases same : other = self
    · simp only [same, if_true]
      by_cases itself : org = self
      · exact absurd (same.trans itself.symm) source
      · simp [itself]
    · simp [source, same]

/-- `Ref` and `Unref` change no wrapper. -/
theorem setReferenced_wrappers {referenced : Bool}
    (ran : heap.setReferenced self referenced = .ok next) : next.wrappers = heap.wrappers := by
  obtain ⟨wrapper, _, rest⟩ := bind_ok_iff.mp ran
  split at rest
  · rw [← Except.ok.inj rest]
  · cases holds : wrapper.handle with
    | none => simp [holds, throw, throwThe, MonadExceptOf.throw] at rest
    | some id =>
      simp only [holds] at rest
      obtain ⟨block, _, set⟩ := bind_ok_iff.mp rest
      rw [← Except.ok.inj set]
      rfl

/-- A delivered close leaves the pointers alone, even where it sets
`m_bHandleClosed`. -/
theorem held_deliverClose (ran : heap.deliverClose id = .ok next) :
    next.held other = heap.held other := by
  obtain ⟨finished, finish, rest⟩ := bind_ok_iff.mp ran
  obtain ⟨marked, _, finish⟩ := bind_ok_iff.mp finish
  have wrappers : finished.wrappers = heap.wrappers := by
    rw [← Except.ok.inj finish]
    rfl
  obtain ⟨block, _, rest⟩ := bind_ok_iff.mp rest
  cases callback : block.closeCb with
  | null =>
    simp only [callback] at rest
    rw [← Except.ok.inj rest]
    exact held_of_wrappers wrappers
  | onUVClose =>
    simp only [callback] at rest
    obtain ⟨called, _, rest⟩ := bind_ok_iff.mp rest
    cases named : dataToHandle called.data with
    | none =>
      simp only [named] at rest
      exact (held_of_wrappers (poolFree_wrappers rest)).trans (held_of_wrappers wrappers)
    | some self =>
      simp only [named] at rest
      obtain ⟨wrapper, live, rest⟩ := bind_ok_iff.mp rest
      have live := wrapper_eq_ok_iff.mp live
      rw [← Except.ok.inj rest, Heap.setWrapper, held_putWrapper]
      by_cases same : other = self
      · have before : heap.wrappers self = some wrapper := wrappers ▸ live
        simp [same, Heap.held, before]
      · rw [if_neg same]
        exact held_of_wrappers wrappers

/-- A wrapper that is constructed holds a new block. -/
theorem held_construct {active : Bool} (ran : heap.construct self active = .ok next) :
    next.held other = if other = self then some heap.fresh else heap.held other := by
  obtain ⟨linked, initialised, rest⟩ := bind_ok_iff.mp ran
  obtain ⟨block, _, initialised⟩ := bind_ok_iff.mp initialised
  obtain ⟨tagged, tagging, placed⟩ := bind_ok_iff.mp rest
  rw [← Except.ok.inj placed, Heap.setWrapper, held_putWrapper,
    held_of_wrappers (setData_wrappers tagging), ← Except.ok.inj initialised]
  rfl

end Wrappers

/-- What every operation does to the handle pointers. -/
theorem Action.run_held {action : Action} (ran : action.run heap = .ok next) (other : Pointer) :
    next.held other = action.heldAfter heap other := by
  cases action with
  | construct self active => exact held_construct ran
  | moveConstruct self org => exact held_moveConstruct ran
  | moveAssign self org => exact held_moveAssign ran
  | close self =>
    obtain ⟨⟨result, closed⟩, closing, rest⟩ := bind_ok_iff.mp ran
    rw [← Except.ok.inj rest]
    exact held_of_wrappers (close_wrappers closing)
  | destroy self => exact held_destroy ran
  | ref self => exact held_of_wrappers (setReferenced_wrappers ran)
  | unref self => exact held_of_wrappers (setReferenced_wrappers ran)
  | forceCloseAllHandle => exact held_of_wrappers (foldlM_uvWalkHandle_wrappers ran)
  | deliverClose id => exact held_deliverClose ran
  | setActive id active =>
    obtain ⟨block, _, set⟩ := bind_ok_iff.mp ran
    rw [← Except.ok.inj set]
    rfl
  | foreignInit data active =>
    rw [← Except.ok.inj ran]
    rfl

/-- No block is held by two wrappers. -/
theorem Owned.held_unique (owned : Owned heap) (first : heap.held self = some id)
    (second : heap.held other = some id) : self = other := by
  obtain ⟨wrapper, live, holds⟩ := Option.bind_eq_some_iff.mp first
  obtain ⟨another, live', holds'⟩ := Option.bind_eq_some_iff.mp second
  exact owned.unique live holds live' holds'

/-- `GetSelf` reads the data of a block that is there. -/
theorem getSelf_ok {block : Block}
    (present : heap.blocks id = some block) :
    heap.getSelf id = .ok (dataToHandle block.data) := by
  simp only [Heap.getSelf, Heap.deref_ok present]
  rfl

/-- `GetSelf` answers when some wrapper holds the handle. -/
theorem Owned.getSelf_isSome (owned : Owned heap) {block : Block}
    (present : heap.blocks id = some block) :
    (dataToHandle block.data).isSome = true ↔ Held heap id := by
  constructor
  · intro named
    obtain ⟨self, named⟩ := Option.isSome_iff_exists.mp named
    obtain ⟨wrapper, live, holds⟩ := owned.named_by present named
    exact ⟨self, by simp [Heap.held, live, holds]⟩
  · rintro ⟨self, held⟩
    obtain ⟨wrapper, live, holds⟩ := Option.bind_eq_some_iff.mp held
    obtain ⟨found, found', _, _, tagged, _⟩ := owned.holds live holds
    obtain rfl : found = block := Option.some.inj (found'.symm.trans present)
    simp [tagged]

/-- A held handle was allocated. -/
theorem Coherent.born (coherent : Coherent heap) {id : HandleId}
    (held : Held heap id) : id < heap.fresh := by
  obtain ⟨self, held⟩ := held
  obtain ⟨wrapper, live, holds⟩ := Option.bind_eq_some_iff.mp held
  obtain ⟨block, present, _⟩ := coherent.owned.holds live holds
  exact coherent.linked.born present

/-- A wrapper that is not there holds nothing. -/
theorem held_of_vacant (vacant : heap.wrappers self = none) : heap.held self = none := by
  simp [Heap.held, vacant]

/-- A handle keeps a holder through every operation, unless that destroys its
holder or assigns over it. -/
theorem Held.kept {action : Action} (enabled : action.Enabled heap)
    (ran : action.run heap = .ok next) (held : Held heap id)
    (owned : action.disowned heap ≠ some id) : Held next id := by
  obtain ⟨holder, holds⟩ := held
  have after := Action.run_held ran
  have vacant {place : Pointer} (empty : heap.wrappers place = none) : holder ≠ place := by
    rintro rfl
    rw [held_of_vacant empty] at holds
    cases holds
  cases action with
  | construct self active =>
    exact ⟨holder, (after holder).trans ((if_neg (vacant enabled)).trans holds)⟩
  | moveConstruct self org =>
    by_cases moved : holder = org
    · have apart : self ≠ org := moved ▸ (vacant enabled.1).symm
      exact ⟨self, (after self).trans ((if_neg apart).trans ((if_pos rfl).trans (moved ▸ holds)))⟩
    · exact ⟨holder, (after holder).trans
        ((if_neg moved).trans ((if_neg (vacant enabled.1)).trans holds))⟩
  | moveAssign self org =>
    have other : holder ≠ self := by
      rintro rfl
      exact owned holds
    by_cases moved : holder = org
    · have apart : self ≠ org := moved ▸ other.symm
      exact ⟨self, (after self).trans ((if_neg apart).trans ((if_pos rfl).trans (moved ▸ holds)))⟩
    · exact ⟨holder, (after holder).trans ((if_neg moved).trans ((if_neg other).trans holds))⟩
  | destroy self =>
    have other : holder ≠ self := by
      rintro rfl
      exact owned holds
    exact ⟨holder, (after holder).trans ((if_neg other).trans holds)⟩
  | _ => exact ⟨holder, (after holder).trans holds⟩

/-- Then it has none. -/
theorem not_held_of_disowned (owned : Owned heap) {action : Action}
    (ran : action.run heap = .ok next) (disowned : action.disowned heap = some id) :
    ¬ Held next id := by
  rintro ⟨holder, holds⟩
  rw [Action.run_held ran] at holds
  cases action with
  | moveAssign self org =>
    simp only [Action.heldAfter] at holds
    split at holds
    · cases holds
    · rename_i notOrg
      split at holds
      · rename_i same
        exact notOrg (same.trans (owned.held_unique disowned holds))
      · rename_i apart
        exact apart (owned.held_unique holds disowned)
  | destroy self =>
    simp only [Action.heldAfter] at holds
    split at holds
    · cases holds
    · rename_i apart
      exact apart (owned.held_unique holds disowned)
  | _ => cases disowned

/-- A handle that exists and has no holder never gets one. -/
theorem not_held_kept {action : Action} (ran : action.run heap = .ok next)
    (born : id < heap.fresh) (unheld : ¬ Held heap id) : ¬ Held next id := by
  rintro ⟨holder, holds⟩
  rw [Action.run_held ran] at holds
  cases action with
  | construct self active =>
    simp only [Action.heldAfter] at holds
    split at holds
    · exact absurd born (Option.some.inj holds ▸ Nat.lt_irrefl _)
    · exact unheld ⟨holder, holds⟩
  | moveConstruct self org | moveAssign self org =>
    simp only [Action.heldAfter] at holds
    split at holds
    · cases holds
    · split at holds
      · exact unheld ⟨org, holds⟩
      · exact unheld ⟨holder, holds⟩
  | destroy self =>
    simp only [Action.heldAfter] at holds
    split at holds
    · cases holds
    · exact unheld ⟨holder, holds⟩
  | _ => exact unheld ⟨holder, holds⟩

section Pooled

/-- An open block from the pool has a holder. -/
theorem Pooled.held (pooled : Pooled heap id) (owned : Owned heap) {block : Block}
    (present : heap.blocks id = some block) (opened : block.phase = .opened) : Held heap id := by
  have valid := owned.valid present
  have fromPool := pooled block present
  have tagged : block.data ≠ 0 := fun null => valid.orphan fromPool null opened
  obtain ⟨self, names⟩ := valid.tagged fromPool tagged
  exact (owned.getSelf_isSome present).mp (by simp [names])

/-- Conversely, a held block is from the pool. -/
theorem Owned.pooled (owned : Owned heap) (held : Held heap id) : Pooled heap id := by
  obtain ⟨self, held⟩ := held
  obtain ⟨wrapper, live, holds⟩ := Option.bind_eq_some_iff.mp held
  obtain ⟨block, present, _, fromPool, _⟩ := owned.holds live holds
  intro found present'
  exact Option.some.inj (present.symm.trans present') ▸ fromPool

end Pooled

end MoeUV
