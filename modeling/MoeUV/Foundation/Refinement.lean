import MoeUV.Foundation.Execution

/-!
# Stuttering refinement

A system refines a machine that has no faults and no environment: related states take
related steps. Some actions are hidden; they concern the representation and leave the
machine where it is. Leaving hidden actions out of an execution then gives another
execution that ends in a state related to the same state of the machine, so whatever
the relation lets one observe is the same in both.
-/

namespace Foundation.Execution.System

universe u v w x
variable {σ : Type u} {α : Type v} {ε : Type w} {τ : Type x} (system : System σ α ε)

/-- The machine takes a step for every action that is not hidden. -/
structure Refines (related : σ → τ → Prop) (visible : α → Bool) (advance : τ → α → τ) :
    Prop where
  simulates : ∀ {state model action}, related state model → system.enabled state action →
    ∃ next, system.step state action = .ok next ∧
      related next (if visible action then advance model action else model)
  /-- Whether a visible action is permitted depends on the state of the machine. -/
  permits : ∀ {state other model action}, related state model → related other model →
    visible action = true → system.enabled state action → system.enabled other action

namespace Refines

variable {system} {related : σ → τ → Prop} {visible : α → Bool} {advance : τ → α → τ}

/-- An execution follows the machine. -/
theorem follows (refines : system.Refines related visible advance) {start : σ} {model : τ}
    {actions : List α} (begins : related start model) (legal : system.Legal start actions) :
    ∃ final, system.exec start actions = .ok final ∧
      related final ((actions.filter visible).foldl advance model) := by
  induction actions generalizing start model with
  | nil => exact ⟨start, rfl, begins⟩
  | cons action rest inductionHypothesis =>
    obtain ⟨permitted, onward⟩ := legal
    obtain ⟨next, stepped, continues⟩ := refines.simulates begins permitted
    obtain ⟨final, executed, ends⟩ := inductionHypothesis continues (onward next stepped)
    refine ⟨final, by rw [system.exec_cons_ok rest stepped, executed], ?_⟩
    cases shown : visible action with
    | true => simpa [List.filter_cons, shown] using ends
    | false => simpa [List.filter_cons, shown] using ends

/-- Leaving out the hidden actions keeps an execution legal. -/
theorem legal_filter (refines : system.Refines related visible advance) {start other : σ}
    {model : τ} {actions : List α} (begins : related start model) (begins' : related other model)
    (legal : system.Legal start actions) : system.Legal other (actions.filter visible) := by
  induction actions generalizing start other model with
  | nil => trivial
  | cons action rest inductionHypothesis =>
    obtain ⟨permitted, onward⟩ := legal
    obtain ⟨next, stepped, continues⟩ := refines.simulates begins permitted
    cases shown : visible action with
    | false =>
      rw [List.filter_cons_of_neg (by simp [shown])]
      rw [shown, if_neg Bool.false_ne_true] at continues
      exact inductionHypothesis continues begins' (onward next stepped)
    | true =>
      rw [List.filter_cons_of_pos shown]
      have permitted' := refines.permits begins begins' shown permitted
      refine ⟨permitted', ?_⟩
      intro next' stepped'
      obtain ⟨reached, stepped'', continues'⟩ := refines.simulates begins' permitted'
      obtain rfl : next' = reached := Except.ok.inj (stepped'.symm.trans stepped'')
      exact inductionHypothesis continues continues' (onward next stepped)

/-- With the hidden actions and without them, an execution ends in states that are
related to the same state of the machine. -/
theorem agrees (refines : system.Refines related visible advance) {start : σ} {model : τ}
    {actions : List α} (begins : related start model) (legal : system.Legal start actions) :
    ∃ final plain reached, system.exec start actions = .ok final ∧
      system.exec start (actions.filter visible) = .ok plain ∧
      related final reached ∧ related plain reached := by
  obtain ⟨final, executed, ends⟩ := refines.follows begins legal
  obtain ⟨plain, executed', ends'⟩ :=
    refines.follows begins (refines.legal_filter begins begins legal)
  rw [List.filter_filter] at ends'
  simp only [Bool.and_self] at ends'
  exact ⟨final, plain, _, executed, executed', ends, ends'⟩

end Refines

end Foundation.Execution.System
