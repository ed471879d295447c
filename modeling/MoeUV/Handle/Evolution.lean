import MoeUV.Handle.Unclosed

/-!
# What a block can become

Whatever the wrappers, the loop and libuv do, a block stays where it came from, it
is never opened again, and once closed it remains so. Only blocks that did not
exist before come into being open.
-/

namespace MoeUV

/-- What a block can become. -/
structure Block.Evolved (before after : Block) : Prop where
  pooled : after.pooled = before.pooled
  opened : after.phase = .opened → before.phase = .opened
  closed : before.phase = .closed → after.phase = .closed

/-- A block that is left alone has not gone back. -/
theorem Block.Evolved.refl (block : Block) : block.Evolved block :=
  ⟨rfl, fun opened => opened, fun closed => closed⟩

/-- Every block that is still there is what an earlier one became, unless it is
new. -/
def Evolves (heap next : Heap) : Prop :=
  ∀ id after, next.blocks id = some after → id < heap.fresh →
    ∃ before, heap.blocks id = some before ∧ before.Evolved after

variable {heap middle next : Heap} {id : HandleId}

/-- Neither has a heap, -/
theorem Evolves.refl (heap : Heap) : Evolves heap heap :=
  fun _ after present _ => ⟨after, present, .refl after⟩

/-- nor has one over two steps. -/
theorem Evolves.trans (earlier : Evolves heap middle) (later : Evolves middle next)
    (fresh : heap.fresh ≤ middle.fresh) : Evolves heap next := by
  intro id after present born
  obtain ⟨between, present', changed'⟩ := later id after present (Nat.lt_of_lt_of_le born fresh)
  obtain ⟨before, present'', changed⟩ := earlier id between present' born
  refine ⟨before, present'', changed'.pooled.trans changed.pooled, ?_, ?_⟩
  · intro opened
    exact changed.opened (changed'.opened opened)
  · intro closed
    exact changed'.closed (changed.closed closed)

/-- No change of the program takes a handle back, -/
theorem Evolves.of_move (move : Move heap next) : Evolves heap next := by
  intro id after present born
  obtain ⟨before, present', changed⟩ := move.becomes present (Or.inl (Nat.ne_of_lt born))
  exact ⟨before, present', changed.pooled, changed.opened, changed.closed⟩

/-- nor do any number of them, -/
theorem Evolves.of_moves (moves : Moves heap next) : Evolves heap next := by
  induction moves with
  | refl => exact .refl heap
  | tail earlier last inductionHypothesis =>
    exact inductionHypothesis.trans (.of_move last) (fresh_le_of_moves earlier)

/-- nor does a block that is lost. -/
theorem Evolves.of_leak (leak : Leak heap next) : Evolves heap next := by
  intro id after present _
  obtain ⟨before, present', changed⟩ := leak.becomes present
  exact ⟨before, present', changed.pooled, changed.opened, changed.closed⟩

/-- No operation makes anything else of a block. -/
theorem Coherent.run_evolves (coherent : Coherent heap) {action : Action}
    (enabled : action.Enabled heap) (ran : action.run heap = .ok next) : Evolves heap next := by
  by_cases reclaims : action.Reclaims heap
  · obtain ⟨reached, ran', moves⟩ := coherent.run_moves enabled reclaims
    obtain rfl : next = reached := Except.ok.inj (ran.symm.trans ran')
    exact .of_moves moves
  · obtain ⟨middle, reached, ran', leak, moves⟩ := coherent.run_leaks enabled reclaims
    obtain rfl : next = reached := Except.ok.inj (ran.symm.trans ran')
    exact (Evolves.of_leak leak).trans (.of_moves (moves_of_user moves))
      (Nat.le_of_eq (fresh_of_leak leak).symm)

/-- The block came from the pool, as long as it is there. -/
def Pooled (heap : Heap) (id : HandleId) : Prop :=
  ∀ block, heap.blocks id = some block → block.pooled = true

/-- The block is not open. -/
def Shut (heap : Heap) (id : HandleId) : Prop :=
  ∀ block, heap.blocks id = some block → block.phase ≠ .opened

/-- A block that the pool has given out stays one of the pool's. -/
theorem Pooled.evolves (pooled : Pooled heap id) (evolves : Evolves heap next)
    (born : id < heap.fresh) : Pooled next id := by
  intro after present
  obtain ⟨before, present', changed⟩ := evolves id after present born
  exact changed.pooled.trans (pooled before present')

/-- A handle that is shut is never open again. -/
theorem Shut.evolves (shut : Shut heap id) (evolves : Evolves heap next)
    (born : id < heap.fresh) : Shut next id := by
  intro after present opened
  obtain ⟨before, present', changed⟩ := evolves id after present born
  exact shut before present' (changed.opened opened)

end MoeUV
