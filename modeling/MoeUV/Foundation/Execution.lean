import Mathlib.Data.List.Infix
import Mathlib.Tactic.Common

/-!
# Executions of a faulting transition system

A system takes labelled actions. Its environment decides which actions may be
taken in a state; the program decides what the action does, and may run into a
fault. An execution is the left-to-right composition of the program's steps. A
legal action list takes only permitted actions, as far as the execution gets.

Two rules carry every whole-run result. The safety rule turns a step lemma into
absence of faults and an invariant in every visited state. The exactness rule
turns a step lemma with a guard into an equivalence between a property of all
visited states and the guard at every step taken. Neither rule inspects the
states, actions or faults of the system.
-/

namespace Foundation.Execution

universe u v w
variable {σ : Type u} {α : Type v} {ε : Type w}

/-- A sequenced computation succeeds through a value of its first part. -/
theorem bind_ok_iff {β γ : Type u} {first : Except ε β} {second : β → Except ε γ} {result : γ} :
    (first >>= second) = .ok result ↔ ∃ value, first = .ok value ∧ second value = .ok result := by
  cases first with
  | error fault => simp [bind, Except.bind]
  | ok value => simp [bind, Except.bind]

/-- A computation that returned passes its value on. -/
theorem ok_bind {β γ : Type u} (value : β) (second : β → Except ε γ) :
    (Except.ok value >>= second) = second value := rfl

/-- A value is returned without a fault. -/
theorem pure_eq_ok {β : Type u} (value : β) : (pure value : Except ε β) = .ok value := rfl

/-- What the environment permits, and what the program then does. -/
structure System (σ : Type u) (α : Type v) (ε : Type w) where
  enabled : σ → α → Prop
  step : σ → α → Except ε σ

namespace System

/-- Take the actions from left to right; the first fault ends the execution. -/
def exec (system : System σ α ε) : σ → List α → Except ε σ
  | state, [] => .ok state
  | state, action :: rest => do
      let next ← system.step state action
      system.exec next rest

/-- Every action is permitted in the state in which it is taken. After a fault
there is no state left, and the remaining actions are not constrained. -/
def Legal (system : System σ α ε) : σ → List α → Prop
  | _, [] => True
  | state, action :: rest =>
      system.enabled state action ∧
        ∀ next, system.step state action = .ok next → system.Legal next rest

/-- Some prefix of the actions leads to the visited state. The empty prefix
visits the initial state, and the whole list visits the final one. -/
def Visits (system : System σ α ε) (start : σ) (actions : List α) (visited : σ) : Prop :=
  ∃ taken, taken <+: actions ∧ system.exec start taken = .ok visited

/-- The execution runs into no fault, and the property holds in every state it
visits, the first and the last included. -/
def Throughout (system : System σ α ε) (property : σ → Prop) (start : σ)
    (actions : List α) : Prop :=
  (∃ final, system.exec start actions = .ok final) ∧
    ∀ visited, system.Visits start actions visited → property visited

/-- The guard holds of every action in the state in which it is taken. -/
def Guarded (system : System σ α ε) (guard : σ → α → Prop) (start : σ)
    (actions : List α) : Prop :=
  ∀ taken action state, taken ++ [action] <+: actions →
    system.exec start taken = .ok state → guard state action

variable (system : System σ α ε)

/-- No actions leave the state. -/
@[simp] theorem exec_nil (state : σ) : system.exec state [] = .ok state := rfl

/-- A run goes on behind a step that succeeds, -/
theorem exec_cons_ok {state next : σ} {action : α} (rest : List α)
    (stepped : system.step state action = .ok next) :
    system.exec state (action :: rest) = system.exec next rest := by
  simp only [exec, stepped]
  rfl

/-- and ends in one that does not. -/
theorem exec_cons_error {state : σ} {action : α} {fault : ε} (rest : List α)
    (faulted : system.step state action = .error fault) :
    system.exec state (action :: rest) = .error fault := by
  simp only [exec, faulted]
  rfl

/-- One action is one step. -/
theorem exec_singleton (state : σ) (action : α) :
    system.exec state [action] = system.step state action := by
  cases stepped : system.step state action with
  | error fault => exact system.exec_cons_error [] stepped
  | ok next => exact system.exec_cons_ok [] stepped

/-- A property of all visited states, read off the first step. The states visited are the
present one and those visited after the step, which must not fail. -/
theorem throughout_cons {property : σ → Prop} {state : σ} {action : α} {rest : List α} :
    system.Throughout property state (action :: rest) ↔
      property state ∧
        ∃ next, system.step state action = .ok next ∧ system.Throughout property next rest := by
  constructor
  · rintro ⟨⟨final, executed⟩, visits⟩
    cases stepped : system.step state action with
    | error fault =>
      rw [system.exec_cons_error rest stepped] at executed
      cases executed
    | ok next =>
      refine ⟨visits state ⟨[], List.nil_prefix, rfl⟩, next, rfl, ⟨final, ?_⟩, ?_⟩
      · rwa [system.exec_cons_ok rest stepped] at executed
      · rintro visited ⟨taken, isPrefix, reached⟩
        refine visits visited ⟨action :: taken, ?_, ?_⟩
        · exact (List.cons_prefix_cons).mpr ⟨rfl, isPrefix⟩
        · rw [system.exec_cons_ok taken stepped, reached]
  · rintro ⟨here, next, stepped, ⟨final, executed⟩, visits⟩
    refine ⟨⟨final, by rw [system.exec_cons_ok rest stepped, executed]⟩, ?_⟩
    rintro visited ⟨taken, isPrefix, reached⟩
    cases taken with
    | nil =>
      have same : state = visited := Except.ok.inj reached
      exact same ▸ here
    | cons first others =>
      obtain ⟨rfl, tailPrefix⟩ := (List.cons_prefix_cons).mp isPrefix
      rw [system.exec_cons_ok others stepped] at reached
      exact visits visited ⟨others, tailPrefix, reached⟩

/-- Over no actions a property has to hold at the start alone. -/
theorem throughout_nil {property : σ → Prop} {state : σ} :
    system.Throughout property state [] ↔ property state := by
  constructor
  · rintro ⟨_, visits⟩
    exact visits state ⟨[], List.nil_prefix, rfl⟩
  · intro here
    refine ⟨⟨state, rfl⟩, ?_⟩
    rintro visited ⟨taken, isPrefix, reached⟩
    obtain rfl : taken = [] := List.prefix_nil.mp isPrefix
    have same : state = visited := Except.ok.inj reached
    exact same ▸ here

/-- A guard at every step, read off the first step. The actions taken before a guard is asked
are none, or the first one and some of the others. -/
theorem guarded_cons {guard : σ → α → Prop} {state : σ} {action : α} {rest : List α} :
    system.Guarded guard state (action :: rest) ↔
      guard state action ∧
        ∀ next, system.step state action = .ok next → system.Guarded guard next rest := by
  constructor
  · intro guarded
    refine ⟨guarded [] action state (by simp) rfl, ?_⟩
    intro next stepped taken later reached isPrefix executed
    refine guarded (action :: taken) later reached ?_ ?_
    · rw [List.cons_append]
      exact (List.cons_prefix_cons).mpr ⟨rfl, isPrefix⟩
    · rw [system.exec_cons_ok taken stepped, executed]
  · rintro ⟨here, later⟩ taken next reached isPrefix executed
    cases taken with
    | nil =>
      have sameAction : next = action := by simpa using isPrefix
      have sameState : state = reached := Except.ok.inj executed
      exact sameAction ▸ sameState ▸ here
    | cons first others =>
      rw [List.cons_append] at isPrefix
      obtain ⟨rfl, tailPrefix⟩ := (List.cons_prefix_cons).mp isPrefix
      cases stepped : system.step state first with
      | error fault =>
        rw [system.exec_cons_error others stepped] at executed
        cases executed
      | ok middle =>
        rw [system.exec_cons_ok others stepped] at executed
        exact later middle stepped others next reached tailPrefix executed

/-- Over no actions there is nothing to guard. -/
theorem guarded_nil {guard : σ → α → Prop} {state : σ} : system.Guarded guard state [] := by
  intro taken action reached isPrefix
  simp at isPrefix

/-- A legal list permits each action where it is taken, and conversely. -/
theorem legal_iff_guarded {start : σ} {actions : List α} :
    system.Legal start actions ↔ system.Guarded system.enabled start actions := by
  induction actions generalizing start with
  | nil => exact iff_of_true trivial system.guarded_nil
  | cons action rest inductionHypothesis =>
    simp only [Legal, system.guarded_cons, inductionHypothesis]

/-- A guard that only inspects the actions is met when all of them meet it. -/
theorem guarded_of_forall {allowed : α → Prop} {start : σ} {actions : List α}
    (all : ∀ action ∈ actions, allowed action) :
    system.Guarded (fun _ action => allowed action) start actions := by
  intro taken action _ isPrefix _
  exact all action (isPrefix.subset (List.mem_append_right _ (List.mem_singleton_self action)))

/-- Conversely, an execution that gets to its end has taken all of them. -/
theorem forall_of_guarded {allowed : α → Prop} {start final : σ} {actions : List α}
    (executed : system.exec start actions = .ok final)
    (guarded : system.Guarded (fun _ action => allowed action) start actions) :
    ∀ action ∈ actions, allowed action := by
  induction actions generalizing start with
  | nil => nofun
  | cons action rest inductionHypothesis =>
    cases stepped : system.step start action with
    | error fault =>
      rw [system.exec_cons_error rest stepped] at executed
      cases executed
    | ok next =>
      rw [system.exec_cons_ok rest stepped] at executed
      obtain ⟨here, later⟩ := system.guarded_cons.mp guarded
      exact List.forall_mem_cons.mpr ⟨here, inductionHypothesis executed (later next stepped)⟩

/-- Evaluate a decidable guard along an execution. -/
def check (guard : σ → α → Prop) [∀ state action, Decidable (guard state action)] :
    σ → List α → Bool
  | _, [] => true
  | state, action :: rest =>
    decide (guard state action) &&
      match system.step state action with
      | .ok next => check guard next rest
      | .error _ => true

/-- A guard can be checked step by step. -/
theorem guarded_of_check {guard : σ → α → Prop} [∀ state action, Decidable (guard state action)]
    {start : σ} {actions : List α} (checked : system.check guard start actions = true) :
    system.Guarded guard start actions := by
  induction actions generalizing start with
  | nil => exact system.guarded_nil
  | cons action rest inductionHypothesis =>
    rw [check, Bool.and_eq_true, decide_eq_true_eq] at checked
    refine system.guarded_cons.mpr ⟨checked.1, ?_⟩
    intro next stepped
    have later := checked.2
    rw [stepped] at later
    exact inductionHypothesis later

/-- A concrete action list is legal when evaluation says so. -/
theorem legal_of_check [∀ state action, Decidable (system.enabled state action)]
    {start : σ} {actions : List α} (checked : system.check system.enabled start actions = true) :
    system.Legal start actions :=
  system.legal_iff_guarded.mpr (system.guarded_of_check checked)

/-- An invariant that permitted steps keep, and under which they do not fault,
holds throughout every legal execution. -/
theorem throughout_of_safe (invariant : σ → Prop)
    (safe : ∀ state action, invariant state → system.enabled state action →
      ∃ next, system.step state action = .ok next ∧ invariant next)
    {start : σ} {actions : List α} (initially : invariant start)
    (legal : system.Legal start actions) : system.Throughout invariant start actions := by
  induction actions generalizing start with
  | nil => exact system.throughout_nil.mpr initially
  | cons action rest inductionHypothesis =>
    obtain ⟨permitted, onward⟩ := legal
    obtain ⟨next, stepped, kept⟩ := safe start action initially permitted
    exact system.throughout_cons.mpr
      ⟨initially, next, stepped, inductionHypothesis kept (onward next stepped)⟩

/-- When a guard is exactly what a step needs to neither fault nor break the
property, the property holds throughout a legal execution exactly when every
step of that execution meets the guard. The invariant may use facts that the
property does not mention; it need only survive the steps that meet the guard. -/
theorem throughout_iff_guarded (invariant property : σ → Prop) (guard : σ → α → Prop)
    (exact : ∀ state action, invariant state → property state → system.enabled state action →
      (guard state action ↔
        ∃ next, system.step state action = .ok next ∧ property next))
    (kept : ∀ state action next, invariant state → property state →
      system.enabled state action → guard state action →
      system.step state action = .ok next → invariant next)
    {start : σ} {actions : List α} (initially : invariant start) (holds : property start)
    (legal : system.Legal start actions) :
    system.Throughout property start actions ↔ system.Guarded guard start actions := by
  induction actions generalizing start with
  | nil => exact iff_of_true (system.throughout_nil.mpr holds) system.guarded_nil
  | cons action rest inductionHypothesis =>
    obtain ⟨permitted, onward⟩ := legal
    have here := exact start action initially holds permitted
    rw [system.throughout_cons, system.guarded_cons]
    constructor
    · rintro ⟨_, next, stepped, later⟩
      have nextHolds : property next :=
        later.2 next ⟨[], List.nil_prefix, rfl⟩
      have met : guard start action := here.mpr ⟨next, stepped, nextHolds⟩
      refine ⟨met, ?_⟩
      intro other otherStepped
      obtain rfl : next = other := Except.ok.inj (stepped.symm.trans otherStepped)
      have nextInvariant : invariant next :=
        kept start action next initially holds permitted met stepped
      exact (inductionHypothesis nextInvariant nextHolds (onward next stepped)).mp later
    · rintro ⟨met, later⟩
      obtain ⟨next, stepped, nextHolds⟩ := here.mp met
      have nextInvariant : invariant next :=
        kept start action next initially holds permitted met stepped
      exact ⟨holds, next, stepped,
        (inductionHypothesis nextInvariant nextHolds (onward next stepped)).mpr
          (later next stepped)⟩

/-- A guard that only inspects a projection of the states may be checked on the
projected execution, when every permitted step succeeds and projects. -/
theorem guarded_project {τ : Type u} {φ : Type w} (projected : System τ α φ) (project : σ → τ)
    (guard : τ → α → Prop)
    (simulates : ∀ state action, system.enabled state action →
      ∃ next, system.step state action = .ok next ∧
        projected.step (project state) action = .ok (project next))
    {start : σ} {actions : List α} (legal : system.Legal start actions) :
    system.Guarded (fun state action => guard (project state) action) start actions ↔
      projected.Guarded guard (project start) actions := by
  induction actions generalizing start with
  | nil => exact iff_of_true system.guarded_nil projected.guarded_nil
  | cons action rest inductionHypothesis =>
    obtain ⟨permitted, onward⟩ := legal
    obtain ⟨next, stepped, projectedStep⟩ := simulates start action permitted
    rw [system.guarded_cons, projected.guarded_cons]
    have later := inductionHypothesis (onward next stepped)
    constructor
    · rintro ⟨here, guarded⟩
      refine ⟨here, ?_⟩
      intro other otherStepped
      obtain rfl : project next = other := Except.ok.inj (projectedStep.symm.trans otherStepped)
      exact later.mp (guarded next stepped)
    · rintro ⟨here, guarded⟩
      refine ⟨here, ?_⟩
      intro other otherStepped
      obtain rfl : next = other := Except.ok.inj (stepped.symm.trans otherStepped)
      exact later.mpr (guarded (project next) projectedStep)

/-- Two guards that agree in every state of an invariant are met by the same legal
executions. -/
theorem guarded_congr (invariant : σ → Prop)
    (safe : ∀ state action, invariant state → system.enabled state action →
      ∃ next, system.step state action = .ok next ∧ invariant next)
    {guard other : σ → α → Prop}
    (same : ∀ state action, invariant state → system.enabled state action →
      (guard state action ↔ other state action))
    {start : σ} {actions : List α} (initially : invariant start)
    (legal : system.Legal start actions) :
    system.Guarded guard start actions ↔ system.Guarded other start actions := by
  induction actions generalizing start with
  | nil => exact iff_of_true system.guarded_nil system.guarded_nil
  | cons action rest inductionHypothesis =>
    obtain ⟨permitted, onward⟩ := legal
    obtain ⟨next, stepped, kept⟩ := safe start action initially permitted
    have later := inductionHypothesis kept (onward next stepped)
    have reads (guard : σ → α → Prop) :
        (∀ reached, system.step start action = .ok reached → system.Guarded guard reached rest) ↔
          system.Guarded guard next rest := by
      rw [stepped]
      exact ⟨fun all => all next rfl, by rintro guarded _ ⟨⟩; exact guarded⟩
    rw [system.guarded_cons, system.guarded_cons, same start action initially permitted,
      reads guard, reads other, later]

/-- Two guards that agree on the actions of an execution, whatever the state. -/
theorem guarded_congr_mem {guard other : σ → α → Prop} {start : σ} {actions : List α}
    (same : ∀ action ∈ actions, ∀ state, guard state action ↔ other state action) :
    system.Guarded guard start actions ↔ system.Guarded other start actions := by
  have member {taken : List α} {action : α} (isPrefix : taken ++ [action] <+: actions) :
      action ∈ actions :=
    isPrefix.subset (List.mem_append_right _ (List.mem_singleton_self action))
  constructor
  · intro guarded taken action state isPrefix reached
    exact (same action (member isPrefix) state).mp (guarded taken action state isPrefix reached)
  · intro guarded taken action state isPrefix reached
    exact (same action (member isPrefix) state).mpr (guarded taken action state isPrefix reached)

/-- Two executions whose actions differ stay together exactly when every step of the
first does what the other action does there. -/
theorem agree_iff_guarded (replace : α → α) {start : σ} {actions : List α} :
    (∀ taken, taken <+: actions →
      system.exec start taken = system.exec start (taken.map replace)) ↔
    system.Guarded (fun state action => system.step state action =
      system.step state (replace action)) start actions := by
  induction actions generalizing start with
  | nil =>
    refine iff_of_true ?_ system.guarded_nil
    intro taken isPrefix
    obtain rfl : taken = [] := List.prefix_nil.mp isPrefix
    rfl
  | cons action rest inductionHypothesis =>
    rw [system.guarded_cons]
    constructor
    · intro agree
      have here : system.step start action = system.step start (replace action) := by
        have first := agree [action] (List.cons_prefix_cons.mpr ⟨rfl, List.nil_prefix⟩)
        rwa [List.map_cons, List.map_nil, system.exec_singleton, system.exec_singleton] at first
      refine ⟨here, ?_⟩
      intro next stepped
      refine inductionHypothesis.mp ?_
      intro taken isPrefix
      have onward := agree (action :: taken) (List.cons_prefix_cons.mpr ⟨rfl, isPrefix⟩)
      rwa [List.map_cons, system.exec_cons_ok taken stepped,
        system.exec_cons_ok _ (here ▸ stepped)] at onward
    · rintro ⟨here, later⟩ taken isPrefix
      cases taken with
      | nil => rfl
      | cons first others =>
        obtain ⟨rfl, tailPrefix⟩ := List.cons_prefix_cons.mp isPrefix
        rw [List.map_cons]
        cases stepped : system.step start first with
        | error fault =>
          rw [system.exec_cons_error others stepped, system.exec_cons_error _ (here ▸ stepped)]
        | ok next =>
          rw [system.exec_cons_ok others stepped, system.exec_cons_ok _ (here ▸ stepped)]
          exact inductionHypothesis.mpr (later next stepped) others tailPrefix

/-- Actions that are permitted in every state form a legal list from any state. -/
theorem legal_of_always {start : σ} {actions : List α}
    (always : ∀ action ∈ actions, ∀ state, system.enabled state action) :
    system.Legal start actions := by
  induction actions generalizing start with
  | nil => trivial
  | cons action rest inductionHypothesis =>
    refine ⟨always action List.mem_cons_self start, ?_⟩
    intro next _
    exact inductionHypothesis (fun other member => always other (List.mem_cons_of_mem _ member))

/-- A property of all visited states may be weakened pointwise. -/
theorem Throughout.mono {stronger weaker : σ → Prop} {start : σ} {actions : List α}
    (implies : ∀ state, stronger state → weaker state)
    (throughout : system.Throughout stronger start actions) :
    system.Throughout weaker start actions :=
  ⟨throughout.1, fun visited visits => implies visited (throughout.2 visited visits)⟩

/-- What holds throughout holds at the end. -/
theorem Throughout.final {property : σ → Prop} {start final : σ} {actions : List α}
    (throughout : system.Throughout property start actions)
    (executed : system.exec start actions = .ok final) : property final :=
  throughout.2 final ⟨actions, List.prefix_refl actions, executed⟩

end System

end Foundation.Execution
