import Mathlib.Tactic.Common

/-!
# Computations that leave a trace

A traced computation returns a value together with the events that happened on
the way, in their order. Sequencing appends the events. Statements about how
often something happens, and in which order, are statements about this list.
-/

namespace Foundation.Trace

universe u
variable {ε α β : Type u}

/-- A value and the events that happened before it was there. -/
structure Traced (ε α : Type u) where
  events : List ε
  value : α
deriving DecidableEq

namespace Traced

instance : Monad (Traced ε) where
  pure value := ⟨[], value⟩
  bind first second :=
    ⟨first.events ++ (second first.value).events, (second first.value).value⟩

/-- One event. -/
def emit (event : ε) : Traced ε PUnit := ⟨[event], ⟨⟩⟩

/-- A value alone has no events. -/
@[simp] theorem events_pure (value : α) : (pure value : Traced ε α).events = [] := rfl

/-- A value alone is the result. -/
@[simp] theorem value_pure (value : α) : (pure value : Traced ε α).value = value := rfl

/-- The events of two computations are those of the first and then those of the second. -/
@[simp] theorem events_bind (first : Traced ε α) (second : α → Traced ε β) :
    (first >>= second).events = first.events ++ (second first.value).events := rfl

/-- The result is that of the second computation, from the result of the first. -/
@[simp] theorem value_bind (first : Traced ε α) (second : α → Traced ε β) :
    (first >>= second).value = (second first.value).value := rfl

/-- Emitting an event is that event. -/
@[simp] theorem events_emit (event : ε) : (emit event).events = [event] := rfl

section Exceptions

variable {δ : Type u} {first : ExceptT δ (Traced ε) α}

/-- What follows a step that returned adds its events. -/
theorem run_bind_of_ok {value : α} (returned : first.run.value = .ok value)
    (second : α → ExceptT δ (Traced ε) β) :
    (first >>= second).run =
      ⟨first.run.events ++ (second value).run.events, (second value).run.value⟩ := by
  rw [ExceptT.run_bind]
  change Traced.mk _ _ = _
  rw [returned]

/-- Nothing follows a step that threw. -/
theorem run_bind_of_error {failure : δ} (thrown : first.run.value = .error failure)
    (second : α → ExceptT δ (Traced ε) β) :
    (first >>= second).run = ⟨first.run.events, .error failure⟩ := by
  rw [ExceptT.run_bind]
  change Traced.mk _ _ = _
  rw [thrown]
  exact congrArg (Traced.mk · _) (List.append_nil _)

end Exceptions

end Traced

end Foundation.Trace
