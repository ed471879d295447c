import MoeUV.Process.SubProcess

/-!
# Supervising child processes

A supervisor should see its child alive until the loop handles the exit, and
afterwards see what the child ended with, on whatever wrapper the handle was moved
to. The moves do carry these members along. But no handle is ever given an exit
callback, so the loop ends the handling of an exit without a word to the wrapper,
and the wrapper goes on reporting a live child.
-/

namespace MoeUV

open Foundation.Execution

variable {Callback : Type}

/-- The call that an exit should have caused. -/
def Exit.call (id : HandleId) (exit : Exit Callback) : Option (ExitCall Callback) :=
  exit.registered.map fun callback => ⟨id, callback, exit.status, exit.signal⟩

/-- The wrappers report the state of their children, and each exit has called its
callback once. -/
structure LifeCycle (children : Children Callback) : Prop where
  alive : ∀ self id, children.heap.held self = some id → children.exits id = none →
    (children.processes self).running = true
  exited : ∀ self id exit, children.heap.held self = some id → children.exits id = some exit →
    (children.processes self).running = false ∧
      (children.processes self).exitStatus = exit.status ∧
      (children.processes self).termSignal = exit.signal
  notified : ∀ id, children.callsOf id = ((children.exits id).bind (Exit.call id)).toList

/-- What holds as long as no exit was handled. -/
structure Supervised (children : Children Callback) : Prop where
  coherent : Coherent children.heap
  quiet : ∀ id, children.exitCb id = none
  ongoing : ∀ id, children.exits id = none
  /-- The loop only watches handles that `Spawn` made. -/
  watched : ∀ id ∈ children.processHandles, id < children.heap.fresh ∧ Pooled children.heap id

variable {children next : Children Callback} {self org : Pointer} {id : HandleId}

/-- Without exits, the life cycle is a matter of the wrappers. -/
theorem LifeCycle.of_ongoing (ongoing : ∀ id, children.exits id = none)
    (alive : ∀ self id, children.heap.held self = some id →
      (children.processes self).running = true)
    (silent : ∀ id, children.callsOf id = []) : LifeCycle children := by
  constructor
  · intro self id held _
    exact alive self id held
  · intro self id exit held exited
    rw [ongoing] at exited
    cases exited
  · intro id
    rw [ongoing, silent]
    rfl

/-- Then nothing was called either. -/
theorem LifeCycle.silent (lifeCycle : LifeCycle children) (ongoing : ∀ id, children.exits id = none)
    (id : HandleId) : children.callsOf id = [] := by
  rw [lifeCycle.notified, ongoing]
  rfl

section Steps

/-- An operation on the handles alone keeps the watched handles in the pool. -/
theorem Supervised.operate (supervised : Supervised children) (action : Action)
    (enabled : action.Enabled children.heap) :
    ∃ heap, action.run children.heap = .ok heap ∧ Coherent heap ∧
      ∀ id ∈ children.processHandles, id < heap.fresh ∧ Pooled heap id := by
  obtain ⟨heap, ran, coherent, fresh, _⟩ := supervised.coherent.run_unclosed enabled
  refine ⟨heap, ran, coherent, ?_⟩
  intro id watched
  obtain ⟨born, pooled⟩ := supervised.watched id watched
  exact ⟨Nat.lt_of_lt_of_le born fresh,
    pooled.evolves (supervised.coherent.run_evolves enabled ran) born⟩

/-- `Spawn` makes a wrapper whose child is alive. The wrapper is new, so it is not the one of an
earlier child. -/
theorem Supervised.spawn (supervised : Supervised children)
    (vacant : children.heap.wrappers self = none) :
    ∃ next, children.spawn self = .ok next ∧ Supervised next ∧
      (LifeCycle children → LifeCycle next) := by
  obtain ⟨heap, constructed, coherent, watched⟩ :=
    supervised.operate (.construct self true) vacant
  have constructed : children.heap.construct self true = .ok heap := constructed
  have held (other : Pointer) :
      heap.held other =
        if other = self then some children.heap.fresh else children.heap.held other :=
    held_construct constructed
  have own : Held heap children.heap.fresh := ⟨self, by simp [held]⟩
  refine ⟨{ children.setProcess self .started with
      heap := heap
      processHandles := children.processHandles ++ [children.heap.fresh]
      exitCb := Function.update children.exitCb children.heap.fresh spawnOptions.exitCb }, ?_,
    ⟨coherent, ?_, supervised.ongoing, ?_⟩, ?_⟩
  · simp only [Children.spawn, constructed]
    rfl
  · intro id
    by_cases same : id = children.heap.fresh
    · simp [same, spawnOptions]
    · simp [same, supervised.quiet id]
  · intro id member
    rcases List.mem_append.mp member with earlier | last
    · exact watched id earlier
    · obtain rfl := List.mem_singleton.mp last
      exact ⟨coherent.born own, coherent.owned.pooled own⟩
  · intro lifeCycle
    refine .of_ongoing supervised.ongoing ?_ (lifeCycle.silent supervised.ongoing)
    intro other id holds
    by_cases same : other = self
    · simp [Children.setProcess, same, SubProcess.started]
    · have before : children.heap.held other = some id := by simpa [held, same] using holds
      simpa [Children.setProcess, same] using
        lifeCycle.alive other id before (supervised.ongoing id)

/-- A move takes the members of its source along with the handle. -/
theorem LifeCycle.move (lifeCycle : LifeCycle children) (supervised : Supervised children)
    {heap : Heap}
    (held : ∀ other, heap.held other =
      if other = org then none else if other = self then children.heap.held org
        else children.heap.held other) :
    LifeCycle { children.moveProcess self org with heap := heap } := by
  refine .of_ongoing supervised.ongoing ?_ (lifeCycle.silent supervised.ongoing)
  intro other id holds
  have holds : heap.held other = some id := holds
  rw [held] at holds
  by_cases source : other = org
  · simp [source] at holds
  · by_cases same : other = self
    · have before : children.heap.held org = some id := by
        rwa [if_neg source, if_pos same] at holds
      have apart : self ≠ org := same ▸ source
      simpa [Children.moveProcess, Children.setProcess, same, apart] using
        lifeCycle.alive org id before (supervised.ongoing id)
    · have before : children.heap.held other = some id := by
        rwa [if_neg source, if_neg same] at holds
      simpa [Children.moveProcess, Children.setProcess, same, source] using
        lifeCycle.alive other id before (supervised.ongoing id)

/-- The operations that a `SubProcess` inherits give no wrapper a handle. -/
theorem held_of_inherited {heap next : Heap} {action : Action} (inherited : action.Inherited)
    (ran : action.run heap = .ok next) (held : next.held self = some id) :
    heap.held self = some id := by
  rw [Action.run_held ran] at held
  cases action with
  | construct self active => exact inherited.elim
  | moveConstruct self org => exact inherited.elim
  | moveAssign self org => exact inherited.elim
  | destroy gone =>
    by_cases same : self = gone
    · simp [Action.heldAfter, same] at held
    · simpa [Action.heldAfter, same] using held
  | _ => exact held

/-- Every exit that the loop can handle is that of an owned handle, and is kept
from its owner. -/
theorem Supervised.exit (supervised : Supervised children) {status : BitVec 64}
    {signal : BitVec 32}
    (enabled : (ChildAction.exit id status signal : ChildAction Callback).Enabled children) :
    ∃ next self exit, children.uvHandleExit id status signal = .ok next ∧
      children.heap.held self = some id ∧ next.heap.held self = some id ∧
      next.exits id = some exit ∧ next.processes = children.processes := by
  obtain ⟨watched, opened⟩ := enabled
  obtain ⟨block, present, opened⟩ := Option.map_eq_some_iff.mp opened
  have coherent := supervised.coherent
  have held : Held children.heap id :=
    (supervised.watched id watched).2.held coherent.owned present opened
  have named := (coherent.owned.getSelf_isSome present).mpr held
  obtain ⟨self, names⟩ := Option.isSome_iff_exists.mp named
  obtain ⟨wrapper, live, holds⟩ := coherent.owned.named_by present names
  have owns : children.heap.held self = some id := by simp [Heap.held, live, holds]
  refine ⟨{ children with
      heap := children.heap.setBlock id { block with active := false }
      processHandles := children.processHandles.filter (· ≠ id)
      exits := Function.update children.exits id
        (some ⟨status, signal, (children.processes self).onExit⟩) },
    self, ⟨status, signal, (children.processes self).onExit⟩, ?_, owns, owns, ?_, rfl⟩
  · simp only [Children.uvHandleExit, getSelf_ok present, Heap.uvSetActive,
      Heap.deref_ok present, ok_bind, pure_eq_ok, names, supervised.quiet]
    rfl
  · simp

end Steps

section Runs

variable {action : ChildAction Callback}

/-- No other step faults, and none disturbs the life cycle. The cases are the steps on wrappers
and handles, which are those of any handle, and none of them touches what is known about the
exit of a child. -/
theorem Supervised.run (supervised : Supervised children) (enabled : action.Enabled children)
    (continues : ¬ action.Exits) :
    ∃ next, action.run children = .ok next ∧ Supervised next ∧
      (LifeCycle children → LifeCycle next) := by
  cases action with
  | spawn self => exact supervised.spawn enabled
  | moveConstruct self org =>
    obtain ⟨heap, ran, coherent, watched⟩ := supervised.operate (.moveConstruct self org) enabled
    have ran : children.heap.moveConstruct self org = .ok heap := ran
    refine ⟨{ children.moveProcess self org with heap := heap }, ?_,
      ⟨coherent, supervised.quiet, supervised.ongoing, watched⟩, ?_⟩
    · simp only [ChildAction.run, Children.moveConstruct, ran]
      rfl
    · intro lifeCycle
      exact lifeCycle.move supervised fun other => held_moveConstruct ran
  | moveAssign self org =>
    obtain ⟨heap, ran, coherent, watched⟩ := supervised.operate (.moveAssign self org) enabled
    have ran : children.heap.moveAssign self org = .ok heap := ran
    refine ⟨{ children.moveProcess self org with heap := heap }, ?_,
      ⟨coherent, supervised.quiet, supervised.ongoing, watched⟩, ?_⟩
    · simp only [ChildAction.run, Children.moveAssign, ran]
      rfl
    · intro lifeCycle
      exact lifeCycle.move supervised fun other => held_moveAssign ran
  | setOnExitCallback self callback =>
    refine ⟨children.setOnExitCallback self callback, rfl,
      ⟨supervised.coherent, supervised.quiet, supervised.ongoing, supervised.watched⟩, ?_⟩
    intro lifeCycle
    refine .of_ongoing supervised.ongoing ?_ (lifeCycle.silent supervised.ongoing)
    intro other id holds
    have running := lifeCycle.alive other id holds (supervised.ongoing id)
    by_cases same : other = self
    · simpa [Children.setOnExitCallback, Children.setProcess, same] using same ▸ running
    · simpa [Children.setOnExitCallback, Children.setProcess, same] using running
  | operate action =>
    obtain ⟨inherited, permitted⟩ := enabled
    obtain ⟨heap, ran, coherent, watched⟩ := supervised.operate action permitted
    refine ⟨{ children with heap := heap }, ?_,
      ⟨coherent, supervised.quiet, supervised.ongoing, watched⟩, ?_⟩
    · simp only [ChildAction.run, ran]
      rfl
    · intro lifeCycle
      refine .of_ongoing supervised.ongoing ?_ (lifeCycle.silent supervised.ongoing)
      intro other id holds
      exact lifeCycle.alive other id (held_of_inherited inherited ran holds)
        (supervised.ongoing id)
  | exit id status signal => exact absurd trivial continues

/-- An exit leaves its owner with a child that is still called alive. -/
theorem Supervised.not_lifeCycle_of_exits (supervised : Supervised children)
    (lifeCycle : LifeCycle children) (enabled : action.Enabled children) (exits : action.Exits)
    (stepped : action.run children = .ok next) : ¬ LifeCycle next := by
  cases action with
  | exit id status signal =>
    obtain ⟨reached, self, exit, handled, before, after, recorded, same⟩ := supervised.exit enabled
    obtain rfl : next = reached := Except.ok.inj (stepped.symm.trans handled)
    intro kept
    have dead := (kept.exited self id exit after recorded).1
    rw [same, lifeCycle.alive self id before (supervised.ongoing id)] at dead
    cases dead
  | _ => exact exits.elim

/-- Before the first child there is nothing to supervise. -/
theorem initial_supervised : Supervised (Children.initial : Children Callback) :=
  ⟨loopInit_consistent.coherent, fun _ => rfl, fun _ => rfl, nofun⟩

/-- Before the first child no exit was missed. -/
theorem initial_lifeCycle : LifeCycle (Children.initial : Children Callback) := by
  refine .of_ongoing (fun _ => rfl) ?_ (fun _ => rfl)
  intro self id held
  cases held

/-- Over every run, the wrappers tell the life cycle of their children exactly when
the loop handles the exit of none. -/
theorem life_cycle_iff (actions : List (ChildAction Callback))
    (legal : childSystem.Legal Children.initial actions) :
    childSystem.Throughout LifeCycle Children.initial actions ↔
      ∀ action ∈ actions, ¬ action.Exits := by
  have guarded : childSystem.Throughout LifeCycle Children.initial actions ↔
      childSystem.Guarded (fun _ action => ¬ action.Exits) Children.initial actions := by
    refine childSystem.throughout_iff_guarded Supervised LifeCycle _ ?_ ?_ initial_supervised
      initial_lifeCycle legal
    · intro children action supervised lifeCycle enabled
      constructor
      · intro continues
        obtain ⟨next, ran, _, kept⟩ := supervised.run enabled continues
        exact ⟨next, ran, kept lifeCycle⟩
      · rintro ⟨next, stepped, kept⟩ exits
        exact supervised.not_lifeCycle_of_exits lifeCycle enabled exits stepped kept
    · intro children action next supervised _ enabled continues stepped
      obtain ⟨reached, ran, kept, _⟩ := supervised.run enabled continues
      obtain rfl : next = reached := Except.ok.inj (stepped.symm.trans ran)
      exact kept
  rw [guarded]
  constructor
  · intro met
    obtain ⟨final, executed⟩ := (guarded.mpr met).1
    exact childSystem.forall_of_guarded executed met
  · intro all
    exact childSystem.guarded_of_forall all

/-- A child that outlives its wrapper: this is moved twice, closed and destroyed. -/
theorem life_cycle_outlived :
    childSystem.Throughout LifeCycle (Children.initial : Children Nat)
      [.spawn wrapperA, .setOnExitCallback wrapperA (some 7), .moveConstruct wrapperB wrapperA,
        .moveAssign wrapperA wrapperB, .operate (.close wrapperA), .operate (.deliverClose 2),
        .operate (.destroy wrapperA)] :=
  (life_cycle_iff _ (childSystem.legal_of_check (by decide))).mpr (by simp [ChildAction.Exits])

/-- A child is killed while its wrapper, on which a callback was registered, owns the
handle. The wrapper has not noticed. -/
theorem life_cycle_false_killed :
    let actions : List (ChildAction Nat) :=
      [.spawn wrapperA, .setOnExitCallback wrapperA (some 7), .exit 2 0 9]
    childSystem.Legal Children.initial actions ∧
      (childSystem.exec Children.initial actions).map (fun children =>
          (children.processes wrapperA, children.calls)) = .ok (⟨true, 0, 0, some 7⟩, []) ∧
      ¬ childSystem.Throughout LifeCycle Children.initial actions := by
  intro actions
  refine ⟨childSystem.legal_of_check (by decide), rfl, ?_⟩
  intro throughout
  obtain ⟨final, executed⟩ := throughout.1
  have lifeCycle : LifeCycle final := System.Throughout.final childSystem throughout executed
  have seen : (childSystem.exec Children.initial actions).map (fun children =>
      (children.exits 2, children.calls)) = .ok (some ⟨0, 9, some 7⟩, []) := rfl
  rw [executed] at seen
  obtain ⟨exits, calls⟩ := Prod.mk.inj (Except.ok.inj seen)
  have called := lifeCycle.notified 2
  rw [exits, Children.callsOf, calls] at called
  cases called

end Runs

end MoeUV
