import Mathlib.Tactic.Common

/-!
# While loops with a decreasing variant

A loop body receives the loop's variables. It either goes round again with new
values or leaves with a result, so `break`, `return` and a false loop condition
are all the same event. Fuel counts the passes through the body; running out of
it is explicit.

A bundled loop carries a natural-number variant together with the proof that
each further pass decreases it. That proof supplies enough fuel, and the loop
becomes a total function which still evaluates. Its unfolding law, its invariant
rule and its fixed-exit rule are all that a proof about a particular loop needs.
-/

namespace Foundation.Loop

universe u v
variable {σ : Type u} {ρ : Type v}

/-- The outcome of one pass through a loop body. -/
inductive Pass (σ : Type u) (ρ : Type v) where
  | again : σ → Pass σ ρ
  | leave : ρ → Pass σ ρ
deriving DecidableEq

/-- Run a body for at most the given number of passes. -/
def repeatPass (body : σ → Pass σ ρ) : Nat → σ → Option ρ
  | 0, _ => none
  | fuel + 1, state =>
    match body state with
    | .again next => repeatPass body fuel next
    | .leave result => some result

/-- Passes that decrease a variant cannot exhaust fuel above that variant. -/
theorem repeatPass_completes (body : σ → Pass σ ρ) (variant : σ → Nat)
    (decreases : ∀ state next, body state = .again next → variant next < variant state)
    (fuel : Nat) (state : σ) (enough : variant state < fuel) :
    (repeatPass body fuel state).isSome = true := by
  induction fuel generalizing state with
  | zero => omega
  | succ fuel inductionHypothesis =>
    cases pass : body state with
    | leave result => simp [repeatPass, pass]
    | again next =>
      have smaller : variant next < variant state := decreases state next pass
      simpa [repeatPass, pass] using inductionHypothesis next (by omega)

/-- Fuel that completes a loop may be increased without changing its result. -/
theorem repeatPass_mono (body : σ → Pass σ ρ) (fuel extra : Nat) (state : σ) (result : ρ)
    (completed : repeatPass body fuel state = some result) :
    repeatPass body (fuel + extra) state = some result := by
  induction fuel generalizing state with
  | zero => simp [repeatPass] at completed
  | succ fuel inductionHypothesis =>
    rw [Nat.add_right_comm]
    cases pass : body state with
    | leave other => simpa [repeatPass, pass] using completed
    | again next =>
      simp only [repeatPass, pass] at completed ⊢
      exact inductionHypothesis next completed

/-- A loop together with the reason it terminates. -/
structure While (σ : Type u) (ρ : Type v) where
  body : σ → Pass σ ρ
  variant : σ → Nat
  decreases : ∀ state next, body state = .again next → variant next < variant state

namespace While

/-- The result of running the loop until it leaves. -/
def run (loop : While σ ρ) (state : σ) : ρ :=
  (repeatPass loop.body (loop.variant state + 1) state).get
    (repeatPass_completes loop.body loop.variant loop.decreases _ state (Nat.lt_succ_self _))

variable (loop : While σ ρ)

/-- As many passes as the variant says, and one to find the end, complete the loop. -/
theorem run_completed (state : σ) :
    repeatPass loop.body (loop.variant state + 1) state = some (loop.run state) :=
  (Option.some_get _).symm

/-- Leaving gives the loop's result. -/
theorem run_leave {state : σ} {result : ρ} (pass : loop.body state = .leave result) :
    loop.run state = result := by
  have completed := loop.run_completed state
  simpa [repeatPass, pass] using completed.symm

/-- Going round again continues from the new values. -/
theorem run_again {state next : σ} (pass : loop.body state = .again next) :
    loop.run state = loop.run next := by
  have here := loop.run_completed state
  have there := loop.run_completed next
  have smaller : loop.variant next < loop.variant state := loop.decreases state next pass
  simp only [repeatPass, pass] at here
  obtain ⟨extra, sum⟩ := Nat.exists_eq_add_of_le (Nat.succ_le_of_lt smaller)
  have longer := repeatPass_mono loop.body (loop.variant next + 1) extra next _ there
  rw [← Nat.succ_eq_add_one, ← sum, here] at longer
  exact Option.some.inj longer

/-- An invariant of the passes that leads to a postcondition on leaving gives
that postcondition of the result. -/
theorem run_rule (invariant : σ → Prop) (post : ρ → Prop)
    (again : ∀ state next, invariant state → loop.body state = .again next → invariant next)
    (leave : ∀ state result, invariant state → loop.body state = .leave result → post result)
    (state : σ) (initially : invariant state) : post (loop.run state) := by
  generalize measured : loop.variant state = bound
  induction bound using Nat.strongRecOn generalizing state with
  | ind bound inductionHypothesis =>
    cases pass : loop.body state with
    | leave result =>
      rw [loop.run_leave pass]
      exact leave state result initially pass
    | again next =>
      rw [loop.run_again pass]
      have smaller : loop.variant next < loop.variant state := loop.decreases state next pass
      exact inductionHypothesis (loop.variant next) (measured ▸ smaller) next
        (again state next initially pass) rfl

/-- Loops whose bodies agree wherever an invariant holds have the same result. -/
theorem run_congr (other : While σ ρ) (invariant : σ → Prop)
    (agree : ∀ state, invariant state → loop.body state = other.body state)
    (again : ∀ state next, invariant state → loop.body state = .again next → invariant next)
    (state : σ) (initially : invariant state) : loop.run state = other.run state := by
  generalize measured : loop.variant state = bound
  induction bound using Nat.strongRecOn generalizing state with
  | ind bound inductionHypothesis =>
    have same := agree state initially
    cases pass : loop.body state with
    | leave result =>
      rw [pass] at same
      rw [loop.run_leave pass, other.run_leave same.symm]
    | again next =>
      rw [pass] at same
      rw [loop.run_again pass, other.run_again same.symm]
      have smaller : loop.variant next < loop.variant state := loop.decreases state next pass
      exact inductionHypothesis (loop.variant next) (measured ▸ smaller) next
        (again state next initially pass) rfl

end While

section Checked

variable {κ : Type v} {ε : Type v}

/-- Run a body that may fault for at most the given number of passes. Running
out of them is a fault of its own. -/
def repeatChecked (exhausted : ε) (body : σ → Except ε (Pass σ κ)) : Nat → σ → Except ε κ
  | 0, _ => .error exhausted
  | fuel + 1, state =>
    match body state with
    | .error fault => .error fault
    | .ok (.again next) => repeatChecked exhausted body fuel next
    | .ok (.leave result) => .ok result

/-- A pass whose result may turn out to be a fault. -/
def Pass.settle (finish : ρ → Except ε κ) : Pass σ ρ → Except ε (Pass σ κ)
  | .again next => .ok (.again next)
  | .leave result => (finish result).map .leave

/-- A checked body that does what the body of a bundled loop does, wherever an
invariant holds, computes what that loop computes. -/
theorem repeatChecked_run (loop : While σ ρ) (exhausted : ε) (finish : ρ → Except ε κ)
    (body : σ → Except ε (Pass σ κ)) (invariant : σ → Prop)
    (agree : ∀ state, invariant state → body state = (loop.body state).settle finish)
    (again : ∀ state next, invariant state → loop.body state = .again next → invariant next)
    (fuel : Nat) (state : σ) (initially : invariant state) (enough : loop.variant state < fuel) :
    repeatChecked exhausted body fuel state = finish (loop.run state) := by
  induction fuel generalizing state with
  | zero => omega
  | succ fuel inductionHypothesis =>
    have same := agree state initially
    cases pass : loop.body state with
    | leave result =>
      rw [pass, Pass.settle] at same
      rw [loop.run_leave pass]
      cases settled : finish result with
      | error fault =>
        rw [settled] at same
        simp only [repeatChecked, same, Except.map]
      | ok value =>
        rw [settled] at same
        simp only [repeatChecked, same, Except.map]
    | again next =>
      rw [pass, Pass.settle] at same
      have smaller : loop.variant next < loop.variant state := loop.decreases state next pass
      rw [loop.run_again pass]
      simp only [repeatChecked, same]
      exact inductionHypothesis next (again state next initially pass) (by omega)

end Checked

end Foundation.Loop
