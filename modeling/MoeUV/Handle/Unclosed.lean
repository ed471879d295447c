import MoeUV.Handle.Safety

/-!
# Handles that are not closed yet

A block is neither freed nor closed before libuv has finished its close. Between
its creation and that moment, every operation leaves it in place, and requests
and callbacks may go on referring to it.
-/

namespace MoeUV

/-- The block exists, and its close has not finished. -/
def Unclosed (heap : Heap) (id : HandleId) : Prop :=
  ∃ block, heap.blocks id = some block ∧ block.phase ≠ .closed

variable {heap middle next : Heap} {id : HandleId}

/-- A change of one block, which it does not close. -/
theorem Unclosed.update (unclosed : Unclosed heap id) {touched : HandleId}
    {content : Option Block}
    (blocks : ∀ other, next.blocks other = if other = touched then content else heap.blocks other)
    (kept : id = touched → ∃ block, content = some block ∧ block.phase ≠ .closed) :
    Unclosed next id := by
  obtain ⟨block, present, notClosed⟩ := unclosed
  by_cases same : id = touched
  · obtain ⟨changed, content, open_⟩ := kept same
    exact ⟨changed, by rw [blocks, if_pos same, content], open_⟩
  · exact ⟨block, by rw [blocks, if_neg same, present], notClosed⟩

/-- Only the delivery of its own close ends an unclosed block. All other moves leave its phase
alone or take it from open to closing. -/
theorem Unclosed.move (unclosed : Unclosed heap id) (linked : Linked heap)
    (move : Move heap next) :
    Unclosed next id ∨ id ∈ heap.closingHandles ∧ id ∉ next.closingHandles := by
  obtain ⟨found, present, notClosed⟩ := unclosed
  have unclosed : Unclosed heap id := ⟨found, present, notClosed⟩
  -- A finished close takes its own block out of the closing handles.
  have finished {touched : HandleId} {block : Block}
      (others : ∀ other, other ≠ touched → next.blocks other = heap.blocks other)
      (allocated : heap.blocks touched = some block) (closing : block.phase = .closing)
      (remaining : next.closingHandles = heap.closingHandles.filter (· ≠ touched)) :
      Unclosed next id ∨ id ∈ heap.closingHandles ∧ id ∉ next.closingHandles := by
    by_cases same : id = touched
    · right
      exact ⟨same ▸ (linked.mem_closing allocated).mpr closing, by simp [remaining, same]⟩
    · exact Or.inl ⟨found, (others id same).trans present, notClosed⟩
  cases move with
  | close touched block allocated opened external =>
    left
    refine unclosed.update (heap.markClosing_blocks touched · block _) ?_
    intro _
    exact ⟨_, rfl, by simp⟩
  | abandon self wrapper touched block content live holds allocated closing empty =>
    left
    refine unclosed.update (heap.setBlock_blocks touched · _) ?_
    intro _
    exact ⟨_, rfl, by simp [closing]⟩
  | rest self content idle empty => exact Or.inl unclosed
  | transfer self org source touched block apart idle live holds allocated =>
    left
    refine unclosed.update (Heap.setBlock_blocks _ touched · _) ?_
    rintro rfl
    obtain rfl : found = block := Option.some.inj (present.symm.trans allocated)
    exact ⟨_, rfl, notClosed⟩
  | discard self wrapper touched block live holds allocated closed =>
    left
    refine unclosed.update (Heap.free_blocks _ touched ·) ?_
    rintro rfl
    obtain rfl : found = block := Option.some.inj (present.symm.trans allocated)
    exact absurd closed notClosed
  | finishOwned self wrapper touched block live holds allocated closing =>
    refine finished ?_ allocated closing rfl
    intro other apart
    exact (heap.markClosed_blocks touched other block).trans (if_neg apart)
  | finishOrphan touched block allocated closing pooled null =>
    refine finished ?_ allocated closing rfl
    intro other apart
    exact (finishOrphan_blocks heap touched block other).trans (if_neg apart)
  | finishForeign touched block allocated closing outside =>
    refine finished ?_ allocated closing rfl
    intro other apart
    exact (heap.markClosed_blocks touched other block).trans (if_neg apart)
  | adopt self active vacant =>
    left
    refine unclosed.update (heap.setBlock_blocks heap.fresh · _) ?_
    intro _
    exact ⟨_, rfl, by simp⟩
  | share data active untagged =>
    left
    refine unclosed.update (heap.setBlock_blocks heap.fresh · _) ?_
    intro _
    exact ⟨_, rfl, by simp⟩
  | flag touched block active referenced allocated unreferenced =>
    left
    refine unclosed.update (heap.setBlock_blocks touched · _) ?_
    rintro rfl
    obtain rfl : found = block := Option.some.inj (present.symm.trans allocated)
    exact ⟨_, rfl, notClosed⟩

/-- The users close, but finish no close. -/
theorem Unclosed.userMoves (unclosed : Unclosed heap id) (coherent : Coherent heap)
    (moves : UserMoves heap next) : Unclosed next id := by
  induction moves with
  | refl => exact unclosed
  | tail earlier last inductionHypothesis =>
    have linked := (coherent.moves (moves_of_user earlier)).linked
    rcases inductionHypothesis.move linked last.move with kept | ⟨closing, finished⟩
    · exact kept
    · exact absurd (last.pending id closing) finished

/-- A leak changes only the data of a block. -/
theorem Unclosed.leak (unclosed : Unclosed heap id) (leak : Leak heap next) :
    Unclosed next id := by
  cases leak with
  | abandon self wrapper touched block content live holds allocated closed empty =>
    refine unclosed.update (heap.setBlock_blocks touched · _) ?_
    rintro rfl
    obtain ⟨found, present, notClosed⟩ := unclosed
    obtain rfl : found = block := Option.some.inj (present.symm.trans allocated)
    exact absurd closed notClosed

/-- Handles are numbered upwards. -/
theorem fresh_le_of_move (move : Move heap next) : heap.fresh ≤ next.fresh := by
  cases move with
  | adopt self active vacant => exact Nat.le_succ _
  | share data active untagged => exact Nat.le_succ _
  | _ => exact Nat.le_refl heap.fresh

/-- Addresses of handles are only ever handed out. -/
theorem fresh_le_of_moves (moves : Moves heap next) : heap.fresh ≤ next.fresh := by
  induction moves with
  | refl => exact Nat.le_refl _
  | tail _ last inductionHypothesis =>
    exact Nat.le_trans inductionHypothesis (fresh_le_of_move last)

/-- A wrapper that gives up its handle hands out no address. -/
theorem fresh_of_leak (leak : Leak heap next) : next.fresh = heap.fresh := by
  cases leak
  rfl

/-- Every operation keeps the heap coherent, and leaves every unclosed block in
place unless it is the delivery of that block's close. -/
theorem Coherent.run_unclosed (coherent : Coherent heap) {action : Action}
    (enabled : action.Enabled heap) :
    ∃ next, action.run heap = .ok next ∧ Coherent next ∧ heap.fresh ≤ next.fresh ∧
      ∀ id, action ≠ .deliverClose id → Unclosed heap id → Unclosed next id := by
  by_cases quiet : action.Quiet
  · by_cases reclaims : action.Reclaims heap
    · obtain ⟨next, ran, moves⟩ := coherent.run_user_moves quiet enabled reclaims
      exact ⟨next, ran, coherent.moves (moves_of_user moves),
        fresh_le_of_moves (moves_of_user moves),
        fun id _ unclosed => unclosed.userMoves coherent moves⟩
    · obtain ⟨middle, next, ran, leak, moves⟩ := coherent.run_leaks enabled reclaims
      have leaked := coherent.leak leak
      exact ⟨next, ran, leaked.moves (moves_of_user moves),
        fresh_of_leak leak ▸ fresh_le_of_moves (moves_of_user moves),
        fun id _ unclosed => (unclosed.leak leak).userMoves leaked moves⟩
  · cases action with
    | construct self active =>
      obtain ⟨next, constructed, move, closing⟩ := construct_move enabled active
      refine ⟨next, constructed, coherent.move move, fresh_le_of_move move, ?_⟩
      intro id _ unclosed
      rcases unclosed.move coherent.linked move with kept | ⟨member, finished⟩
      · exact kept
      · exact absurd (closing ▸ member) finished
    | deliverClose touched =>
      obtain ⟨next, delivered, move, _, closing⟩ := deliverClose_move coherent enabled
      refine ⟨next, delivered, coherent.move move, fresh_le_of_move move, ?_⟩
      intro id other unclosed
      have apart : id ≠ touched := fun same => other (same ▸ rfl)
      rcases unclosed.move coherent.linked move with kept | ⟨member, finished⟩
      · exact kept
      · exact absurd (by simpa [closing, apart] using member) finished
    | foreignInit data active =>
      have move : Move heap (heap.uvForeignInit data active) := .share data active enabled
      refine ⟨_, rfl, coherent.move move, fresh_le_of_move move, ?_⟩
      intro id _ unclosed
      rcases unclosed.move coherent.linked move with kept | ⟨member, finished⟩
      · exact kept
      · exact absurd member finished
    | _ => exact absurd trivial quiet

end MoeUV
