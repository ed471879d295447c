import MoeUV.Handle.Steps

/-!
# Runs of wrapper operations

A run starts on a new loop and takes any operations on live wrappers in any
order, interleaved with libuv's deliveries of close callbacks. No run faults or
breaks the ownership rules. A run keeps every block within reach of somebody who
will free it exactly when it never assigns onto a wrapper whose handle has
already been closed.
-/

namespace MoeUV

open Foundation.Execution

/-- The steps of a run: the members of a wrapper, the run loop's walk, and what
libuv and other users of the loop do by themselves. -/
inductive Action where
  | construct (self : Pointer) (active : Bool)
  | moveConstruct (self org : Pointer)
  | moveAssign (self org : Pointer)
  | close (self : Pointer)
  | destroy (self : Pointer)
  | ref (self : Pointer)
  | unref (self : Pointer)
  | forceCloseAllHandle
  | deliverClose (id : HandleId)
  | setActive (id : HandleId) (active : Bool)
  | foreignInit (data : Word) (active : Bool)

def Action.run (heap : Heap) : Action → Except Fault Heap
  | .construct self active => heap.construct self active
  | .moveConstruct self org => heap.moveConstruct self org
  | .moveAssign self org => heap.moveAssign self org
  | .close self => do
    let (_, heap) ← heap.close self
    pure heap
  | .destroy self => heap.destroy self
  | .ref self => heap.ref self
  | .unref self => heap.unref self
  | .forceCloseAllHandle => heap.forceCloseAllHandle
  | .deliverClose id => heap.deliverClose id
  | .setActive id active => heap.uvSetActive id active
  | .foreignInit data active => .ok (heap.uvForeignInit data active)

/-- Constructors need memory without a wrapper and all other members a live
wrapper. libuv delivers closes that are under way, and only open handles are
started or stopped. -/
def Action.Enabled (heap : Heap) : Action → Prop
  | .construct self _ => heap.wrappers self = none
  | .moveConstruct self org => heap.wrappers self = none ∧ (heap.wrappers org).isSome = true
  | .moveAssign self org =>
    (heap.wrappers self).isSome = true ∧ (heap.wrappers org).isSome = true
  | .close self | .destroy self | .ref self | .unref self => (heap.wrappers self).isSome = true
  | .forceCloseAllHandle => True
  | .deliverClose id => id ∈ heap.closingHandles
  | .setActive id _ => (heap.blocks id).map Block.phase = some .opened
  | .foreignInit data _ => dataToHandle data = none

def handleSystem : System Heap Action Fault where
  enabled heap action := action.Enabled heap
  step heap action := action.run heap

instance (heap : Heap) : (action : Action) → Decidable (handleSystem.enabled heap action)
  | .construct self _ => inferInstanceAs (Decidable (heap.wrappers self = none))
  | .moveConstruct self org =>
    inferInstanceAs (Decidable (heap.wrappers self = none ∧ (heap.wrappers org).isSome = true))
  | .moveAssign self org => inferInstanceAs
      (Decidable ((heap.wrappers self).isSome = true ∧ (heap.wrappers org).isSome = true))
  | .close self | .destroy self | .ref self | .unref self =>
    inferInstanceAs (Decidable ((heap.wrappers self).isSome = true))
  | .forceCloseAllHandle => inferInstanceAs (Decidable True)
  | .deliverClose id => inferInstanceAs (Decidable (id ∈ heap.closingHandles))
  | .setActive id _ =>
    inferInstanceAs (Decidable ((heap.blocks id).map Block.phase = some .opened))
  | .foreignInit data _ => inferInstanceAs (Decidable (dataToHandle data = none))

/-- Not an assignment that loses a block: the target owns no handle whose close
callback has been delivered. -/
def Action.Reclaims (heap : Heap) : Action → Prop
  | .moveAssign self _ => ∀ wrapper ∈ heap.wrappers self,
      wrapper.handle ≠ none → wrapper.handleClosed = false
  | _ => True

instance (heap : Heap) : (action : Action) → Decidable (action.Reclaims heap)
  | .moveAssign self _ => inferInstanceAs (Decidable (∀ wrapper ∈ heap.wrappers self,
      wrapper.handle ≠ none → wrapper.handleClosed = false))
  | .construct _ _ | .moveConstruct _ _ | .close _ | .destroy _ | .ref _ | .unref _
  | .forceCloseAllHandle | .deliverClose _ | .setActive _ _ | .foreignInit _ _ =>
    inferInstanceAs (Decidable True)

variable {heap next : Heap} {action : Action}

/-- The steps that neither add a block nor finish a close. -/
def Action.Quiet : Action → Prop
  | .construct _ _ | .deliverClose _ | .foreignInit _ _ => False
  | _ => True

/-- A quiet operation that loses no block is a sequence of user moves. The cases are the
operations; what libuv delivers or adds and what makes a new handle is not quiet, and an
assignment that loses a block is excluded by the condition. -/
theorem Coherent.run_user_moves (coherent : Coherent heap) (quiet : action.Quiet)
    (enabled : action.Enabled heap) (reclaims : action.Reclaims heap) :
    ∃ next, action.run heap = .ok next ∧ UserMoves heap next := by
  cases action with
  | construct self active => exact quiet.elim
  | moveConstruct self org =>
    obtain ⟨vacant, live⟩ := enabled
    obtain ⟨source, live⟩ := Option.isSome_iff_exists.mp live
    exact moveConstruct_moves coherent vacant live
  | moveAssign self org =>
    obtain ⟨live, orgLive⟩ := enabled
    obtain ⟨wrapper, live⟩ := Option.isSome_iff_exists.mp live
    obtain ⟨source, orgLive⟩ := Option.isSome_iff_exists.mp orgLive
    exact moveAssign_moves coherent live orgLive (reclaims wrapper live)
  | close self =>
    obtain ⟨wrapper, live⟩ := Option.isSome_iff_exists.mp enabled
    obtain ⟨result, next, closed, moves⟩ := close_moves coherent live
    exact ⟨next, by rw [Action.run, closed]; rfl, moves⟩
  | destroy self =>
    obtain ⟨wrapper, live⟩ := Option.isSome_iff_exists.mp enabled
    exact destroy_moves coherent live
  | ref self =>
    obtain ⟨wrapper, live⟩ := Option.isSome_iff_exists.mp enabled
    exact setReferenced_moves coherent live true
  | unref self =>
    obtain ⟨wrapper, live⟩ := Option.isSome_iff_exists.mp enabled
    exact setReferenced_moves coherent live false
  | forceCloseAllHandle =>
    obtain ⟨next, walked, moves, _⟩ := forceCloseAllHandle_moves coherent
    exact ⟨next, walked, moves⟩
  | deliverClose id => exact quiet.elim
  | setActive id active =>
    obtain ⟨block, allocated, _⟩ := Option.map_eq_some_iff.mp enabled
    refine ⟨_, ?_, .single (.same (.flag id block active block.referenced allocated ?_) rfl rfl)⟩
    · simp only [Action.run, Heap.uvSetActive, Heap.deref_ok allocated]
      rfl
    · intro internal
      exact ((coherent.owned.valid allocated).internal internal).2.2
  | foreignInit data active => exact quiet.elim

/-- An operation that loses no block is a sequence of moves. -/
theorem Coherent.run_moves (coherent : Coherent heap) (enabled : action.Enabled heap)
    (reclaims : action.Reclaims heap) : ∃ next, action.run heap = .ok next ∧ Moves heap next := by
  by_cases quiet : action.Quiet
  · obtain ⟨next, ran, moves⟩ := coherent.run_user_moves quiet enabled reclaims
    exact ⟨next, ran, moves_of_user moves⟩
  · cases action with
    | construct self active =>
      obtain ⟨next, constructed, move, _⟩ := construct_move enabled active
      exact ⟨next, constructed, .single move⟩
    | deliverClose id =>
      obtain ⟨next, delivered, move, _⟩ := deliverClose_move coherent enabled
      exact ⟨next, delivered, .single move⟩
    | foreignInit data active => exact ⟨_, rfl, .single (.share data active enabled)⟩
    | _ => exact absurd trivial quiet

/-- Any other operation leaks one block first. -/
theorem Coherent.run_leaks (coherent : Coherent heap) (enabled : action.Enabled heap)
    (loses : ¬ action.Reclaims heap) :
    ∃ middle next, action.run heap = .ok next ∧ Leak heap middle ∧ UserMoves middle next := by
  cases action with
  | moveAssign self org =>
    obtain ⟨_, orgLive⟩ := enabled
    obtain ⟨source, orgLive⟩ := Option.isSome_iff_exists.mp orgLive
    simp only [Action.Reclaims, not_forall] at loses
    obtain ⟨wrapper, live, owns, closed⟩ := loses
    obtain ⟨id, holds⟩ := Option.ne_none_iff_exists'.mp owns
    obtain ⟨block, allocated, _, _, _, agrees⟩ := coherent.owned.holds live holds
    obtain ⟨middle, next, assigned, later, _, leak⟩ :=
      moveAssign_held coherent live holds allocated orgLive
    exact ⟨middle, next, assigned, leak (agrees.mp (by simpa using closed)), later⟩
  | _ => exact absurd trivial loses

/-- What holds between two steps of every run. -/
structure Consistent (heap : Heap) : Prop where
  coherent : Coherent heap
  logged : Logged heap

/-- No operation faults, and each keeps the state consistent. -/
theorem Consistent.run (consistent : Consistent heap) (enabled : action.Enabled heap) :
    ∃ next, action.run heap = .ok next ∧ Consistent next := by
  have coherent := consistent.coherent
  by_cases reclaims : action.Reclaims heap
  · obtain ⟨next, ran, moves⟩ := coherent.run_moves enabled reclaims
    exact ⟨next, ran, coherent.moves moves, consistent.logged.moves coherent moves⟩
  · obtain ⟨middle, next, ran, leak, moves⟩ := coherent.run_leaks enabled reclaims
    have leaked := coherent.leak leak
    have later := moves_of_user moves
    exact ⟨next, ran, leaked.moves later, (consistent.logged.leak leak).moves leaked later⟩

/-- The blocks of a new loop are its own, open and internal. -/
theorem loopInit_blocks {id : HandleId} {block : Block}
    (allocated : Heap.loopInit.blocks id = some block) :
    (id = 0 ∨ id = 1) ∧ block.pooled = false ∧ block.data = 0 ∧ block.phase = .opened ∧
      block.referenced = false := by
  simp only [Heap.loopInit] at allocated
  split at allocated
  · rename_i first
    cases allocated
    exact ⟨Or.inl first, rfl, rfl, rfl, rfl⟩
  · split at allocated
    · rename_i second
      cases allocated
      exact ⟨Or.inr second, rfl, rfl, rfl, rfl⟩
    · cases allocated

/-- A new loop is consistent. It has two internal handles, which are open and in the queue, and
no wrapper. -/
theorem loopInit_consistent : Consistent Heap.loopInit := by
  have known (id : HandleId) (member : id = 0 ∨ id = 1) :
      Heap.loopInit.progress id = some (.opened, .null) := by
    rcases member with rfl | rfl <;> rfl
  have unknown (id : HandleId) (other : ¬ (id = 0 ∨ id = 1)) :
      Heap.loopInit.progress id = none := by
    obtain ⟨notFirst, notSecond⟩ := not_or.mp other
    simp [Heap.progress, Heap.loopInit, notFirst, notSecond]
  constructor
  · constructor
    · constructor
      · intro self wrapper live
        cases live
      · intro id block allocated
        obtain ⟨_, outside, null, opened, unreferenced⟩ := loopInit_blocks allocated
        constructor
        · exact ⟨by simp [outside], by simp [outside], by simp [null], by simp [opened],
            fun _ => ⟨outside, opened, unreferenced⟩⟩
        · intro self named
          simp [ownership, null] at named
    · intro id
      have queue : Heap.loopInit.queue = [0, 1] := rfl
      have closing : Heap.loopInit.closingHandles = [] := rfl
      by_cases member : id = 0 ∨ id = 1
      · constructor
        · rw [known id member, queue]
          simpa using member
        · rw [known id member, closing]
          simp
        · intro beyond
          rcases member with rfl | rfl
          · exact absurd beyond (by decide)
          · exact absurd beyond (by decide)
      · constructor
        · rw [unknown id member, queue]
          simpa using member
        · rw [unknown id member, closing]
          simp
        · exact fun _ => unknown id member
    · exact List.nodup_nil
  · intro id
    by_cases member : id = 0 ∨ id = 1
    · rw [Recorded, known id member]
      rfl
    · have notBorn : ¬ id < Heap.loopInit.fresh := by
        intro born
        exact member (Nat.le_one_iff_eq_zero_or_eq_one.mp (Nat.le_of_lt_succ born))
      rw [Recorded, unknown id member, decide_eq_false notBorn]
      rfl

/-- Two addresses at which the sample runs place their wrappers. -/
def wrapperA : Pointer := ⟨0x1000, by decide, by decide⟩
def wrapperB : Pointer := ⟨0x2000, by decide, by decide⟩

section Ownership

/-- The ownership rules. Events of one block are listed latest first. -/
structure OwnershipSafe (heap : Heap) : Prop where
  /-- `uv_close` comes first and once, then the close callback, and the block is
  freed at most once and only after its callback was entered. -/
  ordered : ∀ id, heap.history id <:+ [.freed id, .closeCallback id, .uvClose id]
  /-- The data of a block is the tag of the one wrapper that holds it, or null;
  and null only while it is closing or closed. -/
  data : ∀ id block, heap.blocks id = some block → block.pooled = true →
    (∃ self wrapper, heap.wrappers self = some wrapper ∧ wrapper.handle = some id ∧
      block.data = handleToData self ∧
      ∀ other another, heap.wrappers other = some another → another.handle = some id →
        other = self) ∨
    (block.data = 0 ∧ block.phase ≠ .opened ∧
      ∀ other another, heap.wrappers other = some another → another.handle ≠ some id)
  /-- A callback is dispatched to a live wrapper that holds the block. -/
  dispatched : ∀ id block self, heap.blocks id = some block →
    dataToHandle block.data = some self →
      ∃ wrapper, heap.wrappers self = some wrapper ∧ wrapper.handle = some id

/-- The expected histories are initial parts of one complete life. -/
theorem expectedHistory_ordered (id : HandleId) (born : Bool)
    (progress : Option (Phase × CloseCallback)) :
    expectedHistory id born progress <:+ [.freed id, .closeCallback id, .uvClose id] := by
  cases progress with
  | none => cases born <;> simp [expectedHistory]
  | some flags =>
    obtain ⟨phase, closeCb⟩ := flags
    cases phase <;> cases closeCb <;> simp [expectedHistory, List.suffix_cons_iff]

/-- Consistency includes the ownership rules. -/
theorem Consistent.ownershipSafe (consistent : Consistent heap) : OwnershipSafe heap := by
  have owned := consistent.coherent.owned
  constructor
  · intro id
    rw [consistent.logged id]
    exact expectedHistory_ordered id _ _
  · intro id block allocated pooled
    have valid := owned.valid allocated
    by_cases null : block.data = 0
    · right
      refine ⟨null, valid.orphan pooled null, ?_⟩
      intro other another live holds
      obtain ⟨found, found', _, _, tagged, _⟩ := owned.holds live holds
      obtain rfl : found = block := Option.some.inj (found'.symm.trans allocated)
      exact handleToData_ne_null other (tagged.symm.trans null)
    · left
      obtain ⟨self, tagged⟩ := valid.tagged pooled null
      obtain ⟨wrapper, live, holds⟩ := owned.named_by_tag allocated tagged
      exact ⟨self, wrapper, live, holds, tagged, fun other another otherLive otherHolds =>
        owned.unique otherLive otherHolds live holds⟩
  · intro id block self allocated tagged
    exact owned.named_by allocated tagged

/-- Every state that a run reaches is consistent, and the run does not fault. -/
theorem consistent_throughout {actions : List Action}
    (legal : handleSystem.Legal Heap.loopInit actions) :
    handleSystem.Throughout Consistent Heap.loopInit actions :=
  handleSystem.throughout_of_safe Consistent
    (fun _ _ consistent enabled => consistent.run enabled) loopInit_consistent legal

/-- No run faults, and the ownership rules hold in every state it reaches. -/
theorem ownership_safe (actions : List Action)
    (legal : handleSystem.Legal Heap.loopInit actions) :
    handleSystem.Throughout OwnershipSafe Heap.loopInit actions :=
  System.Throughout.mono handleSystem (fun _ reached => reached.ownershipSafe)
    (consistent_throughout legal)

/-- One wrapper is moved over another; the orphan's close and the owner's close
are delivered, and both wrappers are destroyed. -/
theorem ownership_safe_overwritten :
    handleSystem.Throughout OwnershipSafe Heap.loopInit
      [.construct wrapperA true, .construct wrapperB false, .moveAssign wrapperA wrapperB,
        .deliverClose 2, .forceCloseAllHandle, .deliverClose 3, .destroy wrapperA,
        .destroy wrapperB] :=
  ownership_safe _ (handleSystem.legal_of_check (by decide))

end Ownership

section Reclamation

/-- A pooled block without an owner, whose close callback has come and gone. -/
def Lost (heap : Heap) (id : HandleId) : Prop :=
  ∃ block, heap.blocks id = some block ∧ block.pooled = true ∧ block.phase = .closed ∧
    block.data = 0

/-- Where the same block is found, the same is lost. -/
theorem Lost.congr {id : HandleId} (same : next.blocks id = heap.blocks id) :
    Lost next id ↔ Lost heap id := by
  rw [Lost, same, Lost]

/-- A block is not lost as long as it is not a closed block of the pool whose `data` is null. -/
theorem not_lost {id : HandleId} {block : Block} (allocated : heap.blocks id = some block)
    (kept : ¬ (block.pooled = true ∧ block.phase = .closed ∧ block.data = 0)) :
    ¬ Lost heap id := by
  rintro ⟨found, present, lost⟩
  obtain rfl : block = found := Option.some.inj (allocated.symm.trans present)
  exact kept lost

/-- A held block is not lost. -/
theorem Owned.not_lost (owned : Owned heap) {self : Pointer} {wrapper : Wrapper} {id : HandleId}
    (live : heap.wrappers self = some wrapper) (holds : wrapper.handle = some id) :
    ¬ Lost heap id := by
  obtain ⟨block, allocated, _, _, tagged, _⟩ := owned.holds live holds
  exact MoeUV.not_lost allocated (by simp [tagged])

/-- A change of one block that is neither lost before nor after. -/
theorem lost_iff_of_update {id : HandleId} {content : Option Block}
    (blocks : ∀ other, next.blocks other = if other = id then content else heap.blocks other)
    (before : ¬ Lost heap id)
    (after : ∀ changed, content = some changed →
      ¬ (changed.pooled = true ∧ changed.phase = .closed ∧ changed.data = 0)) (other : HandleId) :
    Lost next other ↔ Lost heap other := by
  by_cases same : other = id
  · subst same
    refine iff_of_false ?_ before
    rintro ⟨changed, present, lost⟩
    rw [blocks, if_pos rfl] at present
    exact after changed present lost
  · exact Lost.congr (by rw [blocks, if_neg same])

/-- No move loses a block, and none recovers one. A move never touches a closed block whose
`data` is null, and makes none. -/
theorem lost_move_iff (coherent : Coherent heap) (move : Move heap next) (id : HandleId) :
    Lost next id ↔ Lost heap id := by
  have owned := coherent.owned
  have unborn : ¬ Lost heap heap.fresh := by
    rintro ⟨block, allocated, _⟩
    rw [coherent.linked.unborn] at allocated
    cases allocated
  cases move with
  | close id block allocated opened external =>
    exact lost_iff_of_update (heap.markClosing_blocks id · block _)
      (not_lost allocated (by simp [opened])) (by rintro changed ⟨⟩; simp) _
  | abandon self wrapper id block content live holds allocated closing empty =>
    exact lost_iff_of_update (heap.setBlock_blocks id · _) (owned.not_lost live holds)
      (by rintro changed ⟨⟩; simp [closing]) _
  | rest self content idle empty => exact Iff.rfl
  | transfer self org source id block apart idle live holds allocated =>
    exact lost_iff_of_update (Heap.setBlock_blocks _ id · _) (owned.not_lost live holds)
      (by rintro changed ⟨⟩; simp) _
  | discard self wrapper id block live holds allocated closed =>
    exact lost_iff_of_update (Heap.free_blocks _ id ·) (owned.not_lost live holds) nofun _
  | finishOwned self wrapper id block live holds allocated closing =>
    obtain ⟨found, found', _, _, tagged, _⟩ := owned.holds live holds
    obtain rfl : found = block := Option.some.inj (found'.symm.trans allocated)
    exact lost_iff_of_update (heap.markClosed_blocks id · found) (owned.not_lost live holds)
      (by rintro changed ⟨⟩; simp [tagged]) _
  | finishOrphan id block allocated closing pooled null =>
    exact lost_iff_of_update (finishOrphan_blocks heap id block)
      (not_lost allocated (by simp [closing])) nofun _
  | finishForeign id block allocated closing outside =>
    exact lost_iff_of_update (heap.markClosed_blocks id · block)
      (not_lost allocated (by simp [outside])) (by rintro changed ⟨⟩; simp [outside]) _
  | adopt self active vacant =>
    exact lost_iff_of_update (heap.setBlock_blocks heap.fresh · _) unborn
      (by rintro changed ⟨⟩; simp) _
  | share data active untagged =>
    exact lost_iff_of_update (heap.setBlock_blocks heap.fresh · _) unborn
      (by rintro changed ⟨⟩; simp) _
  | flag other block active referenced allocated unreferenced =>
    by_cases same : id = other
    · subst same
      simp [Lost, allocated]
    · exact Lost.congr ((heap.setBlock_blocks other id _).trans (if_neg same))

/-- What is lost stays lost, and nothing else is. -/
theorem lost_moves_iff (coherent : Coherent heap) (moves : Moves heap next) (id : HandleId) :
    Lost next id ↔ Lost heap id := by
  induction moves with
  | refl => exact Iff.rfl
  | tail earlier last inductionHypothesis =>
    rw [lost_move_iff (coherent.moves earlier) last, inductionHypothesis]

/-- A leak loses a block. -/
theorem Leak.lost (owned : Owned heap) (leak : Leak heap next) : ∃ id, Lost next id := by
  cases leak with
  | abandon self wrapper id block content live holds allocated closed empty =>
    obtain ⟨found, found', _, pooled, _⟩ := owned.holds live holds
    obtain rfl : found = block := Option.some.inj (found'.symm.trans allocated)
    exact ⟨id, _, (heap.setBlock_blocks id id _).trans (if_pos rfl), pooled, closed, rfl⟩

/-- Every block called back is owned or freed; and once no wrapper owns a handle
and no close is under way, every block ever taken from the pool is freed. -/
structure Reclaimed (heap : Heap) : Prop where
  owned_or_freed : ∀ id, .closeCallback id ∈ heap.events →
    (∃ self wrapper, heap.wrappers self = some wrapper ∧ wrapper.handle = some id) ∨
      .freed id ∈ heap.events
  all_freed : (∀ self wrapper, heap.wrappers self = some wrapper → wrapper.handle = none) →
    heap.closingHandles = [] → ∀ id, id < heap.fresh →
      .freed id ∈ heap.events ∨ ∃ block, heap.blocks id = some block ∧ block.pooled = false

/-- An event of the history has happened. -/
theorem mem_history (id : HandleId) {event : Event} (own : event.handle = id) :
    event ∈ heap.history id ↔ event ∈ heap.events := by
  simp [Heap.history, own]

/-- A block that was allocated and no longer exists was freed. -/
theorem Consistent.freed (consistent : Consistent heap) {id : HandleId} (born : id < heap.fresh)
    (absent : heap.blocks id = none) : .freed id ∈ heap.events := by
  have history := consistent.logged id
  rw [Recorded, Heap.progress, absent, decide_eq_true born] at history
  rw [← mem_history id rfl, history]
  simp [expectedHistory]

/-- Reclamation means that no block is lost. A block that is not lost still has a wrapper or a
close callback that releases it, so what is allocated is accounted for. -/
theorem Consistent.reclaimed_iff_none_lost (consistent : Consistent heap) :
    Reclaimed heap ↔ ∀ id, ¬ Lost heap id := by
  have owned := consistent.coherent.owned
  have linked := consistent.coherent.linked
  constructor
  · rintro reclaimed id ⟨block, allocated, pooled, closed, null⟩
    have closeCb := owned.closeCb_pooled allocated (by simp [closed]) pooled
    have history := consistent.logged.of_allocated allocated
    rw [closed, closeCb] at history
    have called : .closeCallback id ∈ heap.events := by
      rw [← mem_history id rfl, history]
      simp [expectedHistory]
    rcases reclaimed.owned_or_freed id called with ⟨self, wrapper, live, holds⟩ | freed
    · exact owned.not_lost live holds ⟨block, allocated, pooled, closed, null⟩
    · rw [← mem_history id rfl, history] at freed
      simp [expectedHistory] at freed
  · intro nothing
    have held {id : HandleId} {block : Block} (allocated : heap.blocks id = some block)
        (pooled : block.pooled = true) (phase : block.phase = .closed) :
        ∃ self wrapper, heap.wrappers self = some wrapper ∧ wrapper.handle = some id := by
      have present : block.data ≠ 0 := by
        intro null
        exact nothing id ⟨block, allocated, pooled, phase, null⟩
      obtain ⟨self, tagged⟩ := (owned.valid allocated).tagged pooled present
      obtain ⟨wrapper, live, holds⟩ := owned.named_by_tag allocated tagged
      exact ⟨self, wrapper, live, holds⟩
    constructor
    · intro id called
      rw [← mem_history id rfl, consistent.logged id] at called
      cases allocated : heap.blocks id with
      | none =>
        by_cases born : id < heap.fresh
        · exact Or.inr (consistent.freed born allocated)
        · simp [Heap.progress, allocated, born, expectedHistory] at called
      | some block =>
        left
        have valid := owned.valid allocated
        rw [progress_of_allocated allocated] at called
        cases phase : block.phase with
        | opened => simp [phase, expectedHistory] at called
        | closing => simp [phase, expectedHistory] at called
        | closed =>
          refine held allocated ?_ phase
          by_contra pooled
          have closeCb := valid.callback (by simp [phase])
          simp [phase, closeCb, pooled, expectedHistory] at called
    · intro idle quiet id born
      cases allocated : heap.blocks id with
      | none => exact Or.inl (consistent.freed born allocated)
      | some block =>
        right
        refine ⟨block, rfl, ?_⟩
        by_contra outside
        have pooled : block.pooled = true := by simpa using outside
        have valid := owned.valid allocated
        have null : block.data = 0 := by
          by_contra present
          obtain ⟨self, tagged⟩ := valid.tagged pooled present
          obtain ⟨wrapper, live, holds⟩ := owned.named_by_tag allocated tagged
          rw [idle self wrapper live] at holds
          cases holds
        have closed : block.phase = .closed := by
          cases phase : block.phase with
          | opened => exact absurd phase (valid.orphan pooled null)
          | closing =>
            have member := (linked.mem_closing allocated).mpr phase
            rw [quiet] at member
            cases member
          | closed => rfl
        exact nothing id ⟨block, allocated, pooled, closed, null⟩

/-- The losing assignments are exactly those that break reclamation: along every
run, all blocks are reclaimed exactly when no step assigns onto a wrapper whose
handle has already been closed. -/
theorem reclaimed_iff (actions : List Action)
    (legal : handleSystem.Legal Heap.loopInit actions) :
    handleSystem.Throughout Reclaimed Heap.loopInit actions ↔
      handleSystem.Guarded (fun heap action => action.Reclaims heap) Heap.loopInit actions := by
  have initially : Reclaimed Heap.loopInit := by
    rw [loopInit_consistent.reclaimed_iff_none_lost]
    rintro id ⟨block, allocated, pooled, _⟩
    rw [(loopInit_blocks allocated).2.1] at pooled
    cases pooled
  refine handleSystem.throughout_iff_guarded Consistent Reclaimed _ ?_ ?_ loopInit_consistent
    initially legal
  · intro heap action consistent reclaimed enabled
    have coherent := consistent.coherent
    obtain ⟨final, ran, settled⟩ := consistent.run enabled
    constructor
    · intro reclaims
      obtain ⟨next, ran', moves⟩ := coherent.run_moves enabled reclaims
      obtain rfl : final = next := Except.ok.inj (ran.symm.trans ran')
      refine ⟨final, ran, settled.reclaimed_iff_none_lost.mpr ?_⟩
      intro id
      rw [lost_moves_iff coherent moves]
      exact consistent.reclaimed_iff_none_lost.mp reclaimed id
    · rintro ⟨next, ran', again⟩
      obtain rfl : final = next := Except.ok.inj (ran.symm.trans ran')
      by_contra loses
      obtain ⟨middle, next, ran', leak, moves⟩ := coherent.run_leaks enabled loses
      obtain rfl : final = next := Except.ok.inj (ran.symm.trans ran')
      obtain ⟨id, lost⟩ := leak.lost coherent.owned
      exact settled.reclaimed_iff_none_lost.mp again id
        ((lost_moves_iff (coherent.leak leak) (moves_of_user moves) id).mpr lost)
  · intro heap action next consistent _ enabled _ stepped
    obtain ⟨final, ran, settled⟩ := consistent.run enabled
    obtain rfl : final = next := Except.ok.inj (ran.symm.trans stepped)
    exact settled

/-- A wrapper assigned over while its handle is still closing loses nothing. -/
theorem reclaimed_overwritten_early :
    handleSystem.Throughout Reclaimed Heap.loopInit
      [.construct wrapperA true, .construct wrapperB false, .moveAssign wrapperA wrapperB,
        .deliverClose 2, .destroy wrapperA, .deliverClose 3, .destroy wrapperB] :=
  (reclaimed_iff _ (handleSystem.legal_of_check (by decide))).mpr
    (handleSystem.guarded_of_check (by decide))

/-- The same assignment after the close callback loses the first block. -/
theorem reclaimed_false_overwritten_late :
    let actions := [.construct wrapperA true, .construct wrapperB false, .close wrapperA,
      .deliverClose 2, .moveAssign wrapperA wrapperB]
    handleSystem.Legal Heap.loopInit actions ∧
      ¬ handleSystem.Throughout Reclaimed Heap.loopInit actions := by
  intro actions
  have legal : handleSystem.Legal Heap.loopInit actions := handleSystem.legal_of_check (by decide)
  refine ⟨legal, ?_⟩
  intro throughout
  obtain ⟨final, executed⟩ := throughout.1
  have consistent : Consistent final :=
    System.Throughout.final handleSystem (consistent_throughout legal) executed
  have reclaimed : Reclaimed final := System.Throughout.final handleSystem throughout executed
  have block : (handleSystem.exec Heap.loopInit actions).map (fun heap => heap.blocks 2) =
      .ok (some ⟨true, false, 0, .closed, .onUVClose, false, false⟩) := rfl
  rw [executed] at block
  exact consistent.reclaimed_iff_none_lost.mp reclaimed 2 ⟨_, Except.ok.inj block, rfl, rfl, rfl⟩

end Reclamation

end MoeUV
