/-!
# Mutual exclusion

A mutex belongs to the one thread that is between its lock and its unlock. Where a thread
stands is a predicate of the state; a step of one thread changes it for that thread only, and
what remains to say of the step is whether the thread enters, leaves or stays.
-/

namespace Foundation.Exclusion

universe u
variable {θ : Type u} {owner : Option θ} {inside inside' : θ → Prop} {self : θ}

/-- The mutex belongs to the thread that is inside, and to nobody when no thread is. -/
def Guards (owner : Option θ) (inside : θ → Prop) : Prop :=
  ∀ thread, owner = some thread ↔ inside thread

/-- Nobody is inside while the mutex is free. -/
theorem Guards.outside (guards : Guards none inside) (thread : θ) : ¬ inside thread := by
  intro entered
  cases (guards thread).mpr entered

/-- Two threads are never inside at a time, since the mutex has one owner. -/
theorem Guards.alone (guards : Guards owner inside) {first second : θ} (enters : inside first)
    (enters' : inside second) : first = second := by
  have owned := (guards first).mpr enters
  rw [(guards second).mpr enters'] at owned
  exact (Option.some.inj owned).symm

/-- Threads go on, and none of them enters or leaves. -/
theorem Guards.stay (guards : Guards owner inside)
    (same : ∀ thread, inside' thread ↔ inside thread) : Guards owner inside' := by
  intro thread
  rw [same]
  exact guards thread

/-- A thread takes a mutex that is free. -/
theorem Guards.enter (guards : Guards none inside) (enters : inside' self)
    (others : ∀ thread, thread ≠ self → (inside' thread ↔ inside thread)) :
    Guards (some self) inside' := by
  intro thread
  by_cases own : thread = self
  · rw [own]
    exact iff_of_true rfl enters
  · refine iff_of_false (fun same => own (Option.some.inj same).symm) ?_
    rw [others thread own]
    exact guards.outside thread

/-- The owner gives its mutex back. -/
theorem Guards.leave (guards : Guards owner inside) (entered : inside self)
    (leaves : ¬ inside' self)
    (others : ∀ thread, thread ≠ self → (inside' thread ↔ inside thread)) :
    Guards none inside' := by
  intro thread
  refine iff_of_false (by simp) fun entered' => ?_
  by_cases own : thread = self
  · rw [own] at entered'
    exact leaves entered'
  · rw [others thread own] at entered'
    exact own (guards.alone entered' entered)

end Foundation.Exclusion
