import Mathlib.Tactic.Common

/-!
# The flags of a handle and the number of active handles

A handle that is active and referenced keeps the loop alive. The loop does not look
for such handles but counts them: whatever starts, stops, references or
unreferences a handle adjusts the counter, if the flags say that it must.
-/

namespace MoeUV

/-- The flags of `uv_handle_t` that these macros depend on. -/
structure HandleFlags where
  closing : Bool
  closed : Bool
  active : Bool
  ref : Bool
deriving DecidableEq

namespace HandleFlags

variable (flags : HandleFlags)

/-- `uv__handle_init` -/
def init : HandleFlags := ⟨false, false, false, true⟩

/-- `uv__is_closing` -/
def isClosing : Bool := flags.closing || flags.closed

/-- `uv__handle_start`: the flags, and `active_handles`. -/
def start (activeHandles : BitVec 32) : HandleFlags × BitVec 32 :=
  if flags.active then (flags, activeHandles)
  else ({ flags with active := true },
    if flags.ref then activeHandles + 1 else activeHandles)

/-- `uv__handle_stop` -/
def stop (activeHandles : BitVec 32) : HandleFlags × BitVec 32 :=
  if flags.active = false then (flags, activeHandles)
  else ({ flags with active := false },
    if flags.ref then activeHandles - 1 else activeHandles)

/-- `uv__handle_ref` -/
def reference (activeHandles : BitVec 32) : HandleFlags × BitVec 32 :=
  if flags.ref then (flags, activeHandles)
  else ({ flags with ref := true },
    if flags.closing then activeHandles
    else if flags.active then activeHandles + 1 else activeHandles)

/-- `uv__handle_unref` -/
def unreference (activeHandles : BitVec 32) : HandleFlags × BitVec 32 :=
  if flags.ref = false then (flags, activeHandles)
  else ({ flags with ref := false },
    if flags.closing then activeHandles
    else if flags.active then activeHandles - 1 else activeHandles)

section Count

variable {flags} (activeHandles : BitVec 32)

/-- A started handle is active, whether it was before or not. -/
theorem start_fst : (flags.start activeHandles).1 = { flags with active := true } := by
  rw [start]
  split
  · rename_i already
    cases flags
    cases already
    rfl
  · rfl

/-- A stopped handle is not active. -/
theorem stop_fst : (flags.stop activeHandles).1 = { flags with active := false } := by
  rw [stop]
  split
  · rename_i already
    cases flags
    cases already
    rfl
  · rfl

/-- A referenced handle is marked so, even while it is closing. -/
theorem reference_fst : (flags.reference activeHandles).1 = { flags with ref := true } := by
  rw [reference]
  split
  · rename_i already
    cases flags
    cases already
    rfl
  · rfl

/-- An unreferenced handle is marked so, even while it is closing. -/
theorem unreference_fst : (flags.unreference activeHandles).1 = { flags with ref := false } := by
  rw [unreference]
  split
  · rename_i already
    cases flags
    cases already
    rfl
  · rfl

variable (flags) in
/-- What a handle adds to the number of active handles. -/
def weight : BitVec 32 := if flags.active ∧ flags.ref then 1 else 0

/-- The counter follows the weight. -/
theorem start_snd : (flags.start activeHandles).2 =
    activeHandles - flags.weight + (flags.start activeHandles).1.weight := by
  rcases flags with ⟨_, _, active, ref⟩
  cases active <;> cases ref
  case true.true => exact (BitVec.sub_add_cancel _ _).symm
  all_goals simp [start, weight]

/-- The counter follows the weight of a handle that is stopped. -/
theorem stop_snd : (flags.stop activeHandles).2 =
    activeHandles - flags.weight + (flags.stop activeHandles).1.weight := by
  rcases flags with ⟨_, _, active, ref⟩
  cases active <;> cases ref <;> simp [stop, weight]

/-- The counter follows the weight of a handle that is referenced. A closing handle was stopped
before, so it had no weight to adjust. -/
theorem reference_snd (still : flags.closing = true → flags.active = false) :
    (flags.reference activeHandles).2 =
      activeHandles - flags.weight + (flags.reference activeHandles).1.weight := by
  rcases flags with ⟨closing, _, active, ref⟩
  cases closing <;> cases active <;> cases ref
  case false.true.true => exact (BitVec.sub_add_cancel _ _).symm
  all_goals simp_all [reference, weight]

/-- The counter follows the weight of a handle that is unreferenced. -/
theorem unreference_snd (still : flags.closing = true → flags.active = false) :
    (flags.unreference activeHandles).2 =
      activeHandles - flags.weight + (flags.unreference activeHandles).1.weight := by
  rcases flags with ⟨closing, _, active, ref⟩
  cases closing <;> cases active <;> cases ref <;> simp_all [unreference, weight]

end Count

end HandleFlags

end MoeUV
