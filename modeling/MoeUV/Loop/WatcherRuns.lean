import MoeUV.Loop.WatcherLists
import Mathlib.Data.Fintype.Card
import Mathlib.Data.List.Nodup

/-!
# Every active handle is called once in each phase

Starts are numbered. In each phase the loop calls the handles that were active at its
beginning, the latest start first, and a handle that a callback stops before its turn
is left out. A handle that a callback starts waits for the next phase, also if it was
called before and stopped meanwhile.
-/

namespace MoeUV

open Foundation.Execution Foundation.Rings

variable {ν : Type} [DecidableEq ν]

/-- The handles of a loop, their starts, and the phase that the loop is in. -/
structure WatcherRun (ν : Type) where
  loop : WatcherLoop ν
  /-- The phase whose function is running. -/
  running : Option WatcherKind
  /-- How many starts there have been. -/
  counter : Nat
  /-- The number of the latest start of a handle. -/
  startedAt : ν → Nat
  /-- How many starts there had been when the phase began. -/
  begun : Nat
  /-- The callbacks of the phase, with the numbers of the starts. -/
  calls : List (ν × Nat)

inductive WatcherAction (ν : Type) where
  | start (handle : ν)
  | stop (handle : ν)
  | close (handle : ν)
  | finishClose (handle : ν)
  | ref (handle : ν)
  | unref (handle : ν)
  | run (name : WatcherKind)
  | pass

/-- The handle that a call is about. -/
def WatcherAction.target {ν : Type} : WatcherAction ν → Option ν
  | .start handle | .stop handle | .close handle | .finishClose handle | .ref handle
  | .unref handle => some handle
  | .run _ | .pass => none

def WatcherAction.isPass {ν : Type} : WatcherAction ν → Bool
  | .pass => true
  | _ => false

def WatcherAction.isRun {ν : Type} : WatcherAction ν → Bool
  | .run _ => true
  | _ => false

namespace WatcherRun

variable (run : WatcherRun ν)

/-- The handles have been created, and none has been started. The local variable holds
anything. -/
def initial (links : Links (QueueAddress ν)) : WatcherRun ν where
  loop := ⟨queueInit (queueInit (queueInit links (.handles .prepare)) (.handles .check))
    (.handles .idle), fun _ => ⟨.init, false⟩, 0⟩
  running := none
  counter := 0
  startedAt := fun _ => 0
  begun := 0
  calls := []

def isActive (handle : ν) : Bool := (run.loop.watcher handle).flags.active

/-- A handle that has become active has been started. -/
def started (handle : ν) (loop : WatcherLoop ν) : WatcherRun ν :=
  if run.isActive handle = false ∧ (loop.watcher handle).flags.active = true then
    { run with
      loop := loop
      startedAt := Function.update run.startedAt handle run.counter
      counter := run.counter + 1 }
  else { run with loop := loop }

def act (kind : ν → WatcherKind) (run : WatcherRun ν) :
    WatcherAction ν → Except QueueFault (WatcherRun ν)
  | .start handle => pure (run.started handle (run.loop.start kind handle).2)
  | .stop handle => pure { run with loop := (run.loop.stop handle).2 }
  | .close handle => pure { run with loop := run.loop.close handle }
  | .finishClose handle => pure { run with loop := run.loop.uvFinishClose handle }
  | .ref handle => pure { run with loop := run.loop.ref handle }
  | .unref handle => pure { run with loop := run.loop.unref handle }
  | .run name =>
    pure { run with
      loop := run.loop.uvRunBegin name
      running := some name
      begun := run.counter
      calls := [] }
  | .pass =>
    match run.running with
    | none => pure run
    | some name => do
      match ← run.loop.uvRunPass name with
      | (none, loop) => pure { run with loop := loop, running := none }
      | (some handle, loop) =>
        pure { run with loop := loop, calls := run.calls ++ [(handle, run.startedAt handle)] }

/-- The loop runs one phase after the other. -/
def Permits (run : WatcherRun ν) : WatcherAction ν → Prop
  | .run _ => run.running = none
  | .pass => run.running.isSome = true
  | .finishClose handle => (run.loop.watcher handle).flags.closing = true ∧
      (run.loop.watcher handle).flags.closed = false
  | .start _ | .stop _ | .close _ | .ref _ | .unref _ => True

end WatcherRun

def watcherSystem (kind : ν → WatcherKind) :
    System (WatcherRun ν) (WatcherAction ν) QueueFault where
  enabled := WatcherRun.Permits
  step := WatcherRun.act kind

namespace WatcherRun

variable {kind : ν → WatcherKind} {run : WatcherRun ν} {main : WatcherKind → List ν}
  {pending : List ν} {handle : ν}

/-- What the lists hold in a state of a run. -/
structure Listed (kind : ν → WatcherKind) (run : WatcherRun ν) (main : WatcherKind → List ν)
    (pending : List ν) : Prop where
  stored : Stored kind run.loop.links main pending run.running.isSome
  ofKind : ∀ handle ∈ pending, run.running = some (kind handle)
  active : ∀ handle, run.isActive handle = true ↔
    handle ∈ main (kind handle) ∨ handle ∈ pending
  closing : ∀ handle, (run.loop.watcher handle).flags.isClosing = true →
    run.isActive handle = false

/-- The lists are in the order of the starts, the latest first. -/
structure Sorted (kind : ν → WatcherKind) (startedAt : ν → Nat) (main : WatcherKind → List ν)
    (pending : List ν) : Prop where
  lists : ∀ name, (main name).Pairwise fun first second => startedAt second < startedAt first
  taken : pending.Pairwise fun first second => startedAt second < startedAt first
  across : ∀ handle ∈ pending, ∀ other ∈ main (kind handle), startedAt handle < startedAt other

/-- The phase calls the handles of the list as it was at its beginning. -/
structure Phased (run : WatcherRun ν) (main : WatcherKind → List ν) (pending : List ν) : Prop where
  numbered : ∀ handle, run.isActive handle = true → run.startedAt handle < run.counter
  begun : run.begun ≤ run.counter
  old : ∀ handle ∈ pending, run.startedAt handle < run.begun
  ordered : run.calls.Pairwise fun earlier later => later.2 < earlier.2
  earlier : ∀ call ∈ run.calls, call.2 < run.begun
  before : ∀ call ∈ run.calls, ∀ handle ∈ pending, run.startedAt handle < call.2
  served : ∀ name, run.running = some name → ∀ handle ∈ main name,
    run.startedAt handle < run.begun → (handle, run.startedAt handle) ∈ run.calls

/-- The lists, their order and the phase agree. -/
structure Kept (kind : ν → WatcherKind) (run : WatcherRun ν) (main : WatcherKind → List ν)
    (pending : List ν) : Prop where
  listed : Listed kind run main pending
  sorted : Sorted kind run.startedAt main pending
  phased : Phased run main pending

/-- A call of a callback, which leaves no more handles pending than before. -/
def Called (kind : ν → WatcherKind) (next : WatcherRun ν) (pending : List ν) : Prop :=
  ∃ main' pending', Kept kind next main' pending' ∧ pending'.Sublist pending

omit [DecidableEq ν] in
/-- Handles may leave the lists. -/
theorem Sorted.sublist {startedAt : ν → Nat} (sorted : Sorted kind startedAt main pending)
    {main' : WatcherKind → List ν} {pending' : List ν}
    (fewer : ∀ name, (main' name).Sublist (main name))
    (fewer' : pending'.Sublist pending) : Sorted kind startedAt main' pending' := by
  refine ⟨fun name => (sorted.lists name).sublist (fewer name), sorted.taken.sublist fewer', ?_⟩
  intro handle member other member'
  exact sorted.across handle (fewer'.subset member) other ((fewer _).subset member')

omit [DecidableEq ν] in
/-- A state in which other handles may be active, but with the same numbers and calls. -/
theorem Phased.sublist (phased : Phased run main pending) {loop : WatcherLoop ν}
    {main' : WatcherKind → List ν} {pending' : List ν}
    (fewer : ∀ name, (main' name).Sublist (main name))
    (fewer' : pending'.Sublist pending)
    (active : ∀ handle, (loop.watcher handle).flags.active = true → run.isActive handle = true) :
    Phased { run with loop := loop } main' pending' := by
  constructor
  · exact fun handle active' => phased.numbered handle (active handle active')
  · exact phased.begun
  · exact fun handle member => phased.old handle (fewer'.subset member)
  · exact phased.ordered
  · exact phased.earlier
  · exact fun call member handle member' => phased.before call member handle (fewer'.subset member')
  · exact fun name running handle member =>
      phased.served name running handle ((fewer name).subset member)

omit [DecidableEq ν] in
/-- Nothing about the links and about which handles are active has changed. -/
theorem Kept.quiet (kept : Kept kind run main pending) {loop : WatcherLoop ν}
    (links : loop.links = run.loop.links)
    (active : ∀ handle, (loop.watcher handle).flags.active = run.isActive handle)
    (closing : ∀ handle, (loop.watcher handle).flags.isClosing = true →
      run.isActive handle = false) : Called kind { run with loop := loop } pending := by
  obtain ⟨listed, sorted, phased⟩ := kept
  refine ⟨main, pending, ⟨⟨?_, listed.ofKind, ?_, ?_⟩, sorted,
    phased.sublist (fun _ => .refl _) (.refl _) fun handle active' => active handle ▸ active'⟩,
    .refl _⟩
  · change Stored kind loop.links main pending run.running.isSome
    rw [links]
    exact listed.stored
  · intro handle
    change (loop.watcher handle).flags.active = true ↔ _
    rw [active]
    exact listed.active handle
  · intro handle closing'
    exact (active handle).trans (closing handle closing')

omit [DecidableEq ν] in
/-- A handle is in a list once. -/
theorem Listed.nodup (listed : Listed kind run main pending) (name : WatcherKind) :
    (main name).Nodup := by
  have distinct := (listed.stored.rings name).distinct
  exact List.Nodup.of_map _ (List.nodup_cons.mp distinct).2

omit [DecidableEq ν] in
/-- No handle is called twice in one phase. -/
theorem Listed.nodup_pending (listed : Listed kind run main pending) : pending.Nodup := by
  cases pending with
  | nil => exact .nil
  | cons handle rest =>
    have running := listed.ofKind handle List.mem_cons_self
    have distinct := (listed.stored.localRing (by rw [running]; rfl)).distinct
    exact List.Nodup.of_map _ (List.nodup_cons.mp distinct).2

section Flags

variable (loop : WatcherLoop ν) (result : HandleFlags × BitVec 32) (other : ν)

/-- The flags of a handle are written, and no other flags. -/
theorem setFlags_watcher : ((loop.setFlags handle result).watcher other).flags =
    if other = handle then result.1 else (loop.watcher other).flags := by
  change (Function.update loop.watcher handle _ other).flags = _
  rw [Function.update_apply]
  split <;> rfl

/-- A handle that has been stopped is not active, and nothing else has changed. -/
theorem uvStop_flags : ((loop.uvStop handle).watcher other).flags =
    if other = handle then { (loop.watcher handle).flags with active := false }
    else (loop.watcher other).flags := by
  rw [WatcherLoop.uvStop]
  by_cases inactive : (loop.watcher handle).flags.active = false
  · rw [if_pos inactive]
    split
    · rename_i same
      subst same
      rw [← inactive]
    · rfl
  · rw [if_neg inactive]
    dsimp only
    rw [setFlags_watcher, HandleFlags.stop_fst]
    rfl

end Flags

omit [DecidableEq ν] in
/-- Taking a handle out of a list leaves the others in it, -/
theorem mem_without {before after : List ν} {other : ν} (different : other ≠ handle) :
    other ∈ before ++ handle :: after ↔ other ∈ before ++ after := by
  rw [List.mem_append, List.mem_cons, or_iff_right different, List.mem_append]

omit [DecidableEq ν] in
/-- and that one is gone if it was there once. -/
theorem not_mem_without {before after : List ν} (distinct : (before ++ handle :: after).Nodup) :
    handle ∉ before ++ after := (List.nodup_cons.mp (List.nodup_middle.mp distinct)).1

/-- Stopping a handle takes it out of its list. It is in the list of its phase or, while that is
running, in the local one; in both cases the other handles stay in their order. -/
theorem Kept.stop (kept : Kept kind run main pending) {loop : WatcherLoop ν}
    (links : loop.links = run.loop.links)
    (active : ∀ other, (loop.watcher other).flags.active = run.isActive other)
    (closing : ∀ other, other ≠ handle → (loop.watcher other).flags.isClosing = true →
      run.isActive other = false) :
    Called kind { run with loop := loop.uvStop handle } pending := by
  have stopped (other : ν) : ((loop.uvStop handle).watcher other).flags.active =
      if other = handle then false else run.isActive other := by
    rw [uvStop_flags]
    split
    · rfl
    · exact active other
  have closed (other : ν)
      (is_closing : ((loop.uvStop handle).watcher other).flags.isClosing = true) :
      ((loop.uvStop handle).watcher other).flags.active = false := by
    rw [stopped]
    split
    · rfl
    · rename_i different
      rw [uvStop_flags, if_neg different] at is_closing
      exact closing other different is_closing
  by_cases inactive : (loop.watcher handle).flags.active = false
  · have same : loop.uvStop handle = loop := by rw [WatcherLoop.uvStop, if_pos inactive]
    rw [same] at closed ⊢
    exact kept.quiet links active fun other is_closing =>
      (active other).symm.trans (closed other is_closing)
  · obtain ⟨listed, sorted, phased⟩ := kept
    have changed : (loop.uvStop handle).links = queueRemove run.loop.links (.handle handle) := by
      rw [WatcherLoop.uvStop, if_neg inactive, ← links]
      rfl
    have weaker (other : ν) (active' : ((loop.uvStop handle).watcher other).flags.active = true) :
        run.isActive other = true := by
      rw [stopped] at active'
      split at active'
      · cases active'
      · exact active'
    rw [active, Bool.not_eq_false, listed.active] at inactive
    rcases inactive with member | member
    · obtain ⟨before, after, split⟩ := List.append_of_mem member
      have shorter : (before ++ after).Sublist (main (kind handle)) := by
        rw [split]
        exact (List.sublist_cons_self handle after).append_left before
      have fewer (name : WatcherKind) :
          (Function.update main (kind handle) (before ++ after) name).Sublist (main name) := by
        by_cases same : name = kind handle
        · subst same
          rwa [Function.update_self]
        · rw [Function.update_of_ne same]
      refine ⟨_, pending, ⟨⟨?_, listed.ofKind, fun other => ?_, closed⟩,
        sorted.sublist fewer (.refl _), phased.sublist fewer (.refl _) weaker⟩, .refl _⟩
      · change Stored kind (loop.uvStop handle).links _ pending run.running.isSome
        rw [changed]
        exact listed.stored.remove split
      · have away := listed.stored.apart _ handle member
        have gone := not_mem_without (split ▸ listed.nodup (kind handle))
        change ((loop.uvStop handle).watcher other).flags.active = true ↔ _
        rw [stopped]
        by_cases same : other = handle
        · rw [same, if_pos rfl, Function.update_self]
          exact iff_of_false Bool.false_ne_true (not_or.mpr ⟨gone, away⟩)
        · rw [if_neg same, listed.active]
          by_cases kinds : kind other = kind handle
          · rw [kinds, Function.update_self, split, mem_without same]
          · rw [Function.update_of_ne kinds]
    · obtain ⟨before, after, split⟩ := List.append_of_mem member
      have shorter : (before ++ after).Sublist pending := by
        rw [split]
        exact (List.sublist_cons_self handle after).append_left before
      have running : run.running.isSome = true := by
        rw [listed.ofKind handle member]
        rfl
      refine ⟨main, before ++ after,
        ⟨⟨?_, fun other inside => listed.ofKind other (shorter.subset inside), fun other => ?_,
            closed⟩,
          sorted.sublist (fun _ => .refl _) shorter,
          phased.sublist (fun _ => .refl _) shorter weaker⟩, shorter⟩
      · change Stored kind (loop.uvStop handle).links main _ run.running.isSome
        rw [changed]
        exact listed.stored.take running split
      · have away : handle ∉ main (kind handle) := fun inside =>
          listed.stored.apart _ handle inside member
        have gone := not_mem_without (split ▸ listed.nodup_pending)
        change ((loop.uvStop handle).watcher other).flags.active = true ↔ _
        rw [stopped]
        by_cases same : other = handle
        · rw [same, if_pos rfl]
          exact iff_of_false Bool.false_ne_true (not_or.mpr ⟨away, gone⟩)
        · rw [if_neg same, listed.active, split, mem_without same]

/-- A handle that was not active joins the front of its list with the next number. It cannot be
in the local list, so it is not called before the next time the phase runs. -/
theorem Kept.join (kept : Kept kind run main pending) {loop : WatcherLoop ν}
    (inactive : run.isActive handle = false)
    (opened : (run.loop.watcher handle).flags.isClosing = false)
    (links : loop.links =
      queueInsertHead run.loop.links (.handles (kind handle)) (.handle handle))
    (flags : ∀ other, (loop.watcher other).flags =
      if other = handle then { (run.loop.watcher handle).flags with active := true }
      else (run.loop.watcher other).flags) :
    Called kind (run.started handle loop) pending := by
  obtain ⟨listed, sorted, phased⟩ := kept
  have begins : (loop.watcher handle).flags.active = true := by rw [flags, if_pos rfl]
  have absent : ¬ (handle ∈ main (kind handle) ∨ handle ∈ pending) := by
    rw [← listed.active, inactive]
    exact Bool.false_ne_true
  obtain ⟨outside, away⟩ := not_or.mp absent
  rw [started, if_pos ⟨inactive, begins⟩]
  have activeNow (other : ν) : (loop.watcher other).flags.active =
      if other = handle then true else run.isActive other := by
    rw [flags]
    split <;> rfl
  -- The numbers of the handles that are in lists are those from before.
  have numbers {other : ν} (inside : other ∈ main (kind other) ∨ other ∈ pending) :
      Function.update run.startedAt handle run.counter other = run.startedAt other := by
    rw [Function.update_of_ne]
    rintro rfl
    exact absent inside
  have listedIn {name : WatcherKind} {other : ν} (member : other ∈ main name) :
      other ∈ main (kind other) ∨ other ∈ pending := by
    rw [listed.stored.kinds name other member]
    exact Or.inl member
  have below {other : ν} (inside : other ∈ main (kind other) ∨ other ∈ pending) :
      run.startedAt other < run.counter :=
    phased.numbered other ((listed.active other).mpr inside)
  refine ⟨Function.update main (kind handle) (handle :: main (kind handle)), pending,
    ⟨⟨?_, listed.ofKind, fun other => ?_, fun other closing => ?_⟩, ⟨fun name => ?_, ?_, ?_⟩,
      ⟨fun other active => ?_, ?_, ?_, phased.ordered, phased.earlier, ?_, ?_⟩⟩, .refl _⟩
  · change Stored kind loop.links _ pending run.running.isSome
    rw [links]
    exact listed.stored.insertHead outside away
  · change (loop.watcher other).flags.active = true ↔ _
    rw [activeNow]
    by_cases same : other = handle
    · rw [same, Function.update_self]
      exact iff_of_true (if_pos rfl) (Or.inl List.mem_cons_self)
    · rw [if_neg same, listed.active]
      by_cases kinds : kind other = kind handle
      · rw [kinds, Function.update_self, List.mem_cons, or_iff_right same]
      · rw [Function.update_of_ne kinds]
  · change (loop.watcher other).flags.active = false
    change (loop.watcher other).flags.isClosing = true at closing
    by_cases same : other = handle
    · rw [flags, if_pos same] at closing
      exact absurd (opened.symm.trans closing) Bool.false_ne_true
    · rw [flags, if_neg same] at closing
      rw [activeNow, if_neg same]
      exact listed.closing other closing
  · have unchanged (name : WatcherKind) : (main name).Pairwise fun first second =>
        Function.update run.startedAt handle run.counter second <
          Function.update run.startedAt handle run.counter first := by
      refine (sorted.lists name).imp_of_mem fun first second less => ?_
      rw [numbers (listedIn first), numbers (listedIn second)]
      exact less
    change (Function.update main (kind handle) (handle :: main (kind handle)) name).Pairwise
      fun first second => Function.update run.startedAt handle run.counter second <
        Function.update run.startedAt handle run.counter first
    by_cases same : name = kind handle
    · subst same
      rw [Function.update_self]
      refine List.pairwise_cons.mpr ⟨fun other member => ?_, unchanged _⟩
      rw [numbers (listedIn member), Function.update_self]
      exact below (listedIn member)
    · rw [Function.update_of_ne same]
      exact unchanged name
  · refine sorted.taken.imp_of_mem fun first second less => ?_
    change Function.update run.startedAt handle run.counter _ <
      Function.update run.startedAt handle run.counter _
    rw [numbers (Or.inr first), numbers (Or.inr second)]
    exact less
  · intro other member before member'
    change Function.update run.startedAt handle run.counter _ <
      Function.update run.startedAt handle run.counter _
    rw [numbers (Or.inr member)]
    by_cases same : kind other = kind handle
    · rw [same, Function.update_self] at member'
      rcases List.mem_cons.mp member' with rfl | member'
      · rw [Function.update_self]
        exact below (Or.inr member)
      · rw [numbers (listedIn member')]
        exact sorted.across other member before (same ▸ member')
    · rw [Function.update_of_ne same] at member'
      rw [numbers (listedIn member')]
      exact sorted.across other member before member'
  · change (loop.watcher other).flags.active = true at active
    change Function.update run.startedAt handle run.counter other < run.counter + 1
    by_cases same : other = handle
    · rw [same, Function.update_self]
      omega
    · rw [activeNow, if_neg same] at active
      rw [Function.update_of_ne same]
      exact Nat.lt_succ_of_lt (phased.numbered other active)
  · exact Nat.le_succ_of_le phased.begun
  · intro other member
    change Function.update run.startedAt handle run.counter other < run.begun
    rw [numbers (Or.inr member)]
    exact phased.old other member
  · intro call member other member'
    change Function.update run.startedAt handle run.counter other < call.2
    rw [numbers (Or.inr member')]
    exact phased.before call member other member'
  · intro name running other member
    change Function.update run.startedAt handle run.counter other < run.begun →
      (other, Function.update run.startedAt handle run.counter other) ∈ run.calls
    -- The new handle was started after the beginning of the phase.
    have begun := phased.begun
    by_cases same : name = kind handle
    · subst same
      rw [Function.update_self] at member
      rcases List.mem_cons.mp member with rfl | member
      · rw [Function.update_self]
        omega
      · rw [numbers (listedIn member)]
        exact phased.served _ running other member
    · rw [Function.update_of_ne same] at member
      rw [numbers (listedIn member)]
      exact phased.served name running other member

omit [DecidableEq ν] in
/-- Outside of a phase no handle waits for its callback. -/
theorem Listed.nothing_pending (listed : Listed kind run main pending)
    (idle : run.running = none) : pending = [] := by
  refine List.eq_nil_iff_forall_not_mem.mpr fun handle member => ?_
  have running := listed.ofKind handle member
  rw [idle] at running
  cases running

/-- At the beginning of a phase, all its handles are pending. The list of the loop is empty
then, and is filled again by the passes. -/
theorem act_run (kept : Kept kind run main pending) (idle : run.running = none)
    (name : WatcherKind) : ∃ next, run.act kind (.run name) = .ok next ∧
      Kept kind next (Function.update main name []) (main name) := by
  obtain ⟨listed, sorted, phased⟩ := kept
  have nothing := listed.nothing_pending idle
  refine ⟨_, rfl,
    ⟨listed.stored.move name, fun handle member => ?_, fun handle => ?_, listed.closing⟩,
    ⟨fun other => ?_, sorted.lists name, fun handle member other member' => ?_⟩,
    ⟨phased.numbered, Nat.le_refl _, fun handle member => ?_, .nil, ?_, ?_, ?_⟩⟩
  · change some name = some (kind handle)
    rw [listed.stored.kinds name handle member]
  · change run.isActive handle = true ↔ _
    rw [listed.active, nothing]
    by_cases same : kind handle = name
    · rw [same, Function.update_self]
      exact or_comm
    · rw [Function.update_of_ne same]
      have elsewhere := listed.stored.not_mem (Ne.symm same)
      rw [or_iff_left List.not_mem_nil, or_iff_left elsewhere]
  · by_cases same : other = name
    · rw [same, Function.update_self]
      exact .nil
    · rw [Function.update_of_ne same]
      exact sorted.lists other
  · rw [listed.stored.kinds name handle member, Function.update_self] at member'
    cases member'
  · refine phased.numbered handle ((listed.active handle).mpr (Or.inl ?_))
    rwa [listed.stored.kinds name handle member]
  · exact fun call member => absurd member List.not_mem_nil
  · exact fun call member => absurd member List.not_mem_nil
  · intro other running handle member
    obtain rfl : name = other := Option.some.inj running
    rw [Function.update_self] at member
    cases member

/-- A pass of the loop takes the first pending handle, or leaves the loop when there is
none. -/
theorem uvRunPass_listed (listed : Listed kind run main pending) {name : WatcherKind}
    (running : run.running = some name) :
    run.loop.uvRunPass name = .ok (none, run.loop) ∧ pending = [] ∨
    ∃ handle rest links, pending = handle :: rest ∧
      run.loop.uvRunPass name = .ok (some handle, run.loop.setLinks links) ∧ kind handle = name ∧
      Stored kind links (Function.update main name (main name ++ [handle])) rest true := by
  have ring := listed.stored.localRing (by rw [running]; rfl)
  cases pending with
  | nil =>
    refine Or.inl ⟨?_, rfl⟩
    rw [WatcherLoop.uvRunPass, if_pos ((queueEmpty_iff ring).mpr rfl)]
    rfl
  | cons handle rest =>
    have some_pending : ¬ queueEmpty run.loop.links .queue = true := fun empty =>
      List.cons_ne_nil _ _ ((queueEmpty_iff ring).mp empty)
    have ofKind : kind handle = name := by
      have same := listed.ofKind handle List.mem_cons_self
      rw [running] at same
      exact (Option.some.inj same).symm
    have busy : run.running.isSome = true := by
      rw [running]
      rfl
    have split : handle :: rest = [] ++ handle :: rest := rfl
    have taken := listed.stored.take busy split
    rw [List.nil_append, busy] at taken
    have outside : handle ∉ main (kind handle) := fun inside =>
      listed.stored.apart _ handle inside List.mem_cons_self
    have away : handle ∉ rest := (List.nodup_cons.mp listed.nodup_pending).1
    have moved := taken.insertTail outside away
    rw [ofKind] at moved
    refine Or.inr ⟨handle, rest, _, rfl, ?_, ofKind, moved⟩
    rw [WatcherLoop.uvRunPass, if_neg some_pending, queueHead_eq ring]
    rfl

/-- Each pass calls the pending handle with the latest start. The handle goes back to the end of
the list of the loop before its callback is made, so the callback may stop it. -/
theorem act_pass (kept : Kept kind run main pending) (busy : run.running.isSome = true) :
    ∃ next main' rest, run.act kind .pass = .ok next ∧ Kept kind next main' rest ∧
      (next.running = none ∨ next.running.isSome = true ∧ rest.length + 1 = pending.length) := by
  obtain ⟨listed, sorted, phased⟩ := kept
  obtain ⟨name, running⟩ := Option.isSome_iff_exists.mp busy
  rcases uvRunPass_listed listed running with
    ⟨leaves, rfl⟩ | ⟨handle, rest, links, rfl, takes, rfl, stored⟩
  · refine ⟨{ run with running := none }, main, [], ?_,
      ⟨⟨⟨listed.stored.rings, fun busy => absurd busy Bool.false_ne_true, listed.stored.kinds,
        listed.stored.apart⟩, fun handle member => absurd member List.not_mem_nil, listed.active,
        listed.closing⟩, sorted,
      ⟨phased.numbered, phased.begun, phased.old, phased.ordered, phased.earlier, phased.before,
        fun name running => (by cases running)⟩⟩, Or.inl rfl⟩
    rw [act, running]
    dsimp only
    rw [leaves]
    rfl
  · refine ⟨{ run with
        loop := run.loop.setLinks links
        calls := run.calls ++ [(handle, run.startedAt handle)] },
      Function.update main (kind handle) (main (kind handle) ++ [handle]), rest, ?_,
      ⟨⟨?_, ?_, ?_, listed.closing⟩, ⟨?_, ?_, ?_⟩,
        ⟨phased.numbered, phased.begun, ?_, ?_, ?_, ?_, ?_⟩⟩, Or.inr ⟨busy, rfl⟩⟩
    · rw [act, running]
      dsimp only
      rw [takes]
      rfl
    · change Stored kind links _ rest run.running.isSome
      rw [busy]
      exact stored
    · exact fun other member => listed.ofKind other (List.mem_cons_of_mem _ member)
    · intro other
      change run.isActive other = true ↔ _
      rw [listed.active]
      by_cases same : kind other = kind handle
      · rw [same, Function.update_self, List.mem_cons, List.mem_append, List.mem_singleton,
          or_assoc]
      · have different : other ≠ handle := fun equal => same (congrArg kind equal)
        rw [Function.update_of_ne same, List.mem_cons, or_iff_right different]
    · intro other
      by_cases same : other = kind handle
      · subst same
        rw [Function.update_self]
        refine List.pairwise_append.mpr ⟨sorted.lists _, List.pairwise_singleton _ _, ?_⟩
        intro before member last equal
        rw [List.mem_singleton.mp equal]
        exact sorted.across handle List.mem_cons_self before member
      · rw [Function.update_of_ne same]
        exact sorted.lists other
    · exact (List.pairwise_cons.mp sorted.taken).2
    · intro other member before member'
      by_cases same : kind other = kind handle
      · rw [same, Function.update_self, List.mem_append, List.mem_singleton] at member'
        rcases member' with member' | rfl
        · exact sorted.across other (List.mem_cons_of_mem _ member) before (same ▸ member')
        · exact (List.pairwise_cons.mp sorted.taken).1 other member
      · rw [Function.update_of_ne same] at member'
        exact sorted.across other (List.mem_cons_of_mem _ member) before member'
    · exact fun other member => phased.old other (List.mem_cons_of_mem _ member)
    · refine List.pairwise_append.mpr ⟨phased.ordered, List.pairwise_singleton _ _, ?_⟩
      intro call member last equal
      rw [List.mem_singleton.mp equal]
      exact phased.before call member handle List.mem_cons_self
    · intro call member
      rcases List.mem_append.mp member with old | last
      · exact phased.earlier call old
      · rw [List.mem_singleton.mp last]
        exact phased.old handle List.mem_cons_self
    · intro call member other member'
      rcases List.mem_append.mp member with old | last
      · exact phased.before call old other (List.mem_cons_of_mem _ member')
      · rw [List.mem_singleton.mp last]
        exact (List.pairwise_cons.mp sorted.taken).1 other member'
    · intro name running' other member old
      obtain rfl : kind handle = name := Option.some.inj (running.symm.trans running')
      rw [Function.update_self, List.mem_append, List.mem_singleton] at member
      rcases member with member | rfl
      · exact List.mem_append_left _ (phased.served _ running other member old)
      · exact List.mem_append_right _ (List.mem_singleton_self _)

section Calls

/-- A call on one handle, which changes neither its list nor its being active. -/
theorem Kept.setFlags (kept : Kept kind run main pending) {result : HandleFlags × BitVec 32}
    {flags : HandleFlags} (sets : result.1 = flags)
    (active : flags.active = run.isActive handle)
    (closing : flags.isClosing = true → run.isActive handle = false) :
    Called kind { run with loop := run.loop.setFlags handle result } pending := by
  refine kept.quiet rfl (fun other => ?_) fun other closing' => ?_
  · rw [setFlags_watcher]
    split
    · rename_i same
      rw [sets, active, same]
    · rfl
  · rw [setFlags_watcher] at closing'
    split at closing'
    · rename_i same
      rw [same]
      exact closing (sets ▸ closing')
    · exact kept.listed.closing other closing'

omit [DecidableEq ν] in
/-- Nothing has changed at all. -/
theorem Kept.called_self (kept : Kept kind run main pending) : Called kind run pending :=
  ⟨main, pending, kept, .refl _⟩

/-- A run is not changed by a loop that is its own. -/
theorem started_self (run : WatcherRun ν) (handle : ν) : run.started handle run.loop = run := by
  rw [started, if_neg]
  rintro ⟨inactive, active⟩
  rw [isActive, active] at inactive
  cases inactive

/-- A call of the program does not end a phase. -/
theorem started_running (run : WatcherRun ν) (handle : ν) (loop : WatcherLoop ν) :
    (run.started handle loop).running = run.running := by
  rw [started]
  split <;> rfl

/-- `EventHandle::Start` starts a handle that is neither active nor closing. In the other two
cases the call changes nothing, or throws. -/
theorem act_start (kept : Kept kind run main pending) (handle : ν) :
    ∃ next, run.act kind (.start handle) = .ok next ∧ next.running = run.running ∧
      Called kind next pending := by
  refine ⟨_, rfl, started_running run handle _, ?_⟩
  by_cases closing : (run.loop.watcher handle).flags.isClosing = true
  · rw [WatcherLoop.start, if_pos closing, started_self]
    exact kept.called_self
  · rw [WatcherLoop.start, if_neg closing]
    by_cases active : (run.loop.watcher handle).flags.active = true
    · have result : run.loop.uvStart kind handle true = (0, run.loop) := by
        rw [WatcherLoop.uvStart, if_pos active]
      rw [result]
      change Called kind (run.started handle run.loop) pending
      rw [started_self]
      exact kept.called_self
    · have result : (run.loop.uvStart kind handle true).1 = 0 := by
        rw [WatcherLoop.uvStart, if_neg active, if_neg (by decide)]
      dsimp only
      rw [result, if_neg (by decide)]
      refine kept.join (Bool.not_eq_true _ ▸ active) (Bool.not_eq_true _ ▸ closing) ?_
        fun other => ?_
      · rw [WatcherLoop.uvStart, if_neg active, if_neg (by decide)]
        rfl
      · rw [WatcherLoop.uvStart, if_neg active, if_neg (by decide)]
        dsimp only
        rw [setFlags_watcher, HandleFlags.start_fst]
        by_cases same : other = handle
        · rw [if_pos same, if_pos same]
          change { (Function.update run.loop.watcher handle _ handle).flags with
            active := true } = _
          rw [Function.update_self]
          rfl
        · rw [if_neg same, if_neg same]
          change (Function.update run.loop.watcher handle _ other).flags = _
          rw [Function.update_of_ne same]

/-- What the program calls keeps what holds, in a callback as outside. Each call is about one
handle and leaves the running phase as it is; none of them adds to what is pending. -/
theorem act_call (kept : Kept kind run main pending) {action : WatcherAction ν}
    (permits : run.Permits action) (target : action.target = some handle) :
    ∃ next, run.act kind action = .ok next ∧ next.running = run.running ∧
      Called kind next pending := by
  have closed := kept.listed.closing
  cases action with
  | start handle => exact act_start kept handle
  | stop handle =>
    by_cases closing : (run.loop.watcher handle).flags.isClosing = true
    · exact ⟨run, by rw [act, WatcherLoop.stop, if_pos closing]; rfl, rfl, kept.called_self⟩
    · refine ⟨{ run with loop := run.loop.uvStop handle },
        by rw [act, WatcherLoop.stop, if_neg closing]; rfl, rfl, ?_⟩
      exact kept.stop rfl (fun _ => rfl) fun other _ => closed other
  | close handle =>
    by_cases closing : (run.loop.watcher handle).flags.isClosing = true
    · exact ⟨run, by rw [act, WatcherLoop.close, if_pos closing]; rfl, rfl, kept.called_self⟩
    · refine ⟨{ run with loop := run.loop.uvWatcherClose handle },
        by rw [act, WatcherLoop.close, if_neg closing]; rfl, rfl, ?_⟩
      refine kept.stop rfl (fun other => ?_) fun other different closing' => ?_
      · change (Function.update run.loop.watcher handle _ other).flags.active = _
        rw [Function.update_apply]
        split
        · rename_i same
          rw [same]
          rfl
        · rfl
      · change (Function.update run.loop.watcher handle _ other).flags.isClosing = true at closing'
        rw [Function.update_of_ne different] at closing'
        exact closed other closing'
  | finishClose handle =>
    have sets : (({ (run.loop.watcher handle).flags with closed := true } :
        HandleFlags).unreference run.loop.activeHandles).1 = _ := HandleFlags.unreference_fst _
    refine ⟨_, rfl, rfl, kept.setFlags sets rfl fun _ => closed handle ?_⟩
    rw [HandleFlags.isClosing, permits.1, Bool.true_or]
  | ref handle =>
    by_cases gone : (run.loop.watcher handle).flags.closed = true
    · exact ⟨run, by rw [act, WatcherLoop.ref, if_pos gone]; rfl, rfl, kept.called_self⟩
    · refine ⟨{ run with
          loop := run.loop.setFlags handle
            ((run.loop.watcher handle).flags.reference run.loop.activeHandles) },
        by rw [act, WatcherLoop.ref, if_neg gone]; rfl, rfl, ?_⟩
      exact kept.setFlags (HandleFlags.reference_fst _) rfl (closed handle)
  | unref handle =>
    by_cases gone : (run.loop.watcher handle).flags.closed = true
    · exact ⟨run, by rw [act, WatcherLoop.unref, if_pos gone]; rfl, rfl, kept.called_self⟩
    · refine ⟨{ run with
          loop := run.loop.setFlags handle
            ((run.loop.watcher handle).flags.unreference run.loop.activeHandles) },
        by rw [act, WatcherLoop.unref, if_neg gone]; rfl, rfl, ?_⟩
      exact kept.setFlags (HandleFlags.unreference_fst _) rfl (closed handle)
  | run name => cases target
  | pass => cases target

end Calls

/-- So does every step, also of the loop. -/
theorem act_kept (kept : Kept kind run main pending) {action : WatcherAction ν}
    (permits : run.Permits action) :
    ∃ next, run.act kind action = .ok next ∧ ∃ main' pending', Kept kind next main' pending' := by
  cases target : action.target with
  | some handle =>
    obtain ⟨next, acts, _, main', pending', kept', _⟩ := act_call kept permits target
    exact ⟨next, acts, main', pending', kept'⟩
  | none =>
    cases action with
    | run name =>
      obtain ⟨next, acts, kept'⟩ := act_run kept permits name
      exact ⟨next, acts, _, _, kept'⟩
    | pass =>
      obtain ⟨next, main', rest, acts, kept', _⟩ := act_pass kept permits
      exact ⟨next, acts, main', rest, kept'⟩
    | _ => cases target

/-- At first nothing is listed. -/
theorem initial_kept (links : Links (QueueAddress ν)) :
    Kept kind (initial links) (fun _ => []) [] := by
  have inactive (handle : ν) : (initial links).isActive handle = false := rfl
  refine ⟨⟨⟨fun name => ?_, fun busy => absurd busy Bool.false_ne_true, ?_, ?_⟩, ?_,
    fun handle => ?_, fun handle _ => inactive handle⟩, ⟨fun _ => .nil, .nil, ?_⟩,
    ⟨fun handle active => absurd active Bool.false_ne_true, Nat.le_refl 0, ?_, .nil, ?_, ?_, ?_⟩⟩
  · rw [List.map_nil, Links.ring_nil]
    cases name <;> simp [initial, queueInit]
  · exact fun name handle member => absurd member List.not_mem_nil
  · exact fun name handle member => absurd member List.not_mem_nil
  · exact fun handle member => absurd member List.not_mem_nil
  · rw [inactive]
    simp
  · exact fun handle member => absurd member List.not_mem_nil
  · exact fun handle member => absurd member List.not_mem_nil
  · exact fun call member => absurd member List.not_mem_nil
  · exact fun call member => absurd member List.not_mem_nil
  · exact fun name running handle member => absurd member List.not_mem_nil

/-- So it holds in every run. -/
theorem throughout_kept {links : Links (QueueAddress ν)} {actions : List (WatcherAction ν)}
    (legal : (watcherSystem kind).Legal (initial links) actions) :
    (watcherSystem kind).Throughout (fun run => ∃ main pending, Kept kind run main pending)
      (initial links) actions := by
  refine (watcherSystem kind).throughout_of_safe _ ?_ ⟨_, _, initial_kept links⟩ legal
  rintro run action ⟨main, pending, kept⟩ permits
  exact act_kept kept permits

/-- The phase has called every handle that was active from its beginning to now, the
latest start first, and none that was started later. -/
structure Served (kind : ν → WatcherKind) (run : WatcherRun ν) (name : WatcherKind) : Prop where
  ordered : run.calls.Pairwise fun earlier later => later.2 < earlier.2
  earlier : ∀ call ∈ run.calls, call.2 < run.begun
  all : ∀ handle, run.isActive handle = true → kind handle = name →
    run.startedAt handle < run.begun → (handle, run.startedAt handle) ∈ run.calls

/-- Whenever the loop of a phase is left, each handle of the phase was called once. Those are
the handles that were active when it began and still are; they are called in the order of their
starts, the latest first, and none that was started later is among them. -/
theorem phases_served (kind : ν → WatcherKind) (links : Links (QueueAddress ν))
    (actions : List (WatcherAction ν))
    (legal : (watcherSystem kind).Legal (initial links) actions) :
    (watcherSystem kind).Throughout (fun run => ∀ name next, run.running = some name →
      run.act kind .pass = .ok next → next.running = none → Served kind next name)
      (initial links) actions := by
  refine System.Throughout.mono _ ?_ (throughout_kept legal)
  rintro run ⟨main, pending, listed, _, phased⟩ name next running passed left
  rcases uvRunPass_listed listed running with
    ⟨leaves, rfl⟩ | ⟨handle, rest, links, rfl, takes, rfl, stored⟩
  · have result : next = { run with running := none } := by
      rw [act, running] at passed
      dsimp only at passed
      rw [leaves] at passed
      exact (Except.ok.inj passed).symm
    subst result
    refine ⟨phased.ordered, phased.earlier, fun handle active ofKind old => ?_⟩
    refine phased.served name running handle ?_ old
    rcases (listed.active handle).mp active with member | member
    · rwa [← ofKind]
    · cases member
  · rw [act, running] at passed
    dsimp only at passed
    rw [takes] at passed
    cases passed
    cases left

section Sample

instance (kind : ν → WatcherKind) (run : WatcherRun ν) : (action : WatcherAction ν) →
    Decidable ((watcherSystem kind).enabled run action)
  | .run _ => inferInstanceAs (Decidable (run.running = none))
  | .pass => inferInstanceAs (Decidable (run.running.isSome = true))
  | .finishClose _ => inferInstanceAs (Decidable (_ ∧ _))
  | .start _ | .stop _ | .close _ | .ref _ | .unref _ => inferInstanceAs (Decidable True)

/-- Four idle handles, whose callbacks stop one another and start again. -/
def fourHandles : List (WatcherAction (Fin 4)) :=
  [.start 0, .start 1, .start 2, .run .idle, .pass, .stop 1, .start 3, .stop 2, .start 2, .pass,
    .pass, .run .idle, .pass, .close 3, .pass, .pass]

/-- Four idle handles, of which one is stopped in a callback and another is started. -/
theorem phases_served_four :
    (watcherSystem fun _ : Fin 4 => WatcherKind.idle).Throughout
      (fun run => ∀ name next, run.running = some name →
        run.act (fun _ => WatcherKind.idle) .pass = .ok next → next.running = none →
        Served (fun _ => WatcherKind.idle) next name) (initial ⟨id, id⟩) fourHandles :=
  phases_served (fun _ => .idle) ⟨id, id⟩ fourHandles
    ((watcherSystem fun _ => WatcherKind.idle).legal_of_check (by decide))

end Sample

section Passes

/-- Every pass takes a handle that is pending, and the callbacks make no others pending. The
induction is on the actions: a pass makes what is pending shorter by one, or leaves the loop. -/
theorem passes_le {actions : List (WatcherAction ν)} (kept : Kept kind run main pending)
    (legal : (watcherSystem kind).Legal run actions)
    (within : ∀ action ∈ actions, action.isRun = false) :
    actions.countP WatcherAction.isPass ≤
      if run.running.isSome then pending.length + 1 else 0 := by
  induction actions generalizing run main pending with
  | nil => exact Nat.zero_le _
  | cons action rest inductionHypothesis =>
    obtain ⟨permits, onward⟩ := legal
    have later : ∀ action ∈ rest, action.isRun = false := fun other member =>
      within other (List.mem_cons_of_mem _ member)
    rw [List.countP_cons]
    cases target : action.target with
    | some handle =>
      obtain ⟨next, acts, running, main', pending', kept', fewer⟩ := act_call kept permits target
      have bounded := inductionHypothesis kept' (onward next acts) later
      have call : action.isPass = false := by
        cases action with
        | pass => cases target
        | _ => rfl
      have shorter := fewer.length_le
      rw [running] at bounded
      rw [call, if_neg Bool.false_ne_true]
      refine bounded.trans ?_
      split
      · exact Nat.succ_le_succ shorter
      · exact Nat.le_refl 0
    | none =>
      cases action with
      | run name => exact absurd (within _ List.mem_cons_self).symm Bool.false_ne_true
      | pass =>
        obtain ⟨next, main', rest', acts, kept', either⟩ := act_pass kept permits
        have bounded := inductionHypothesis kept' (onward next acts) later
        have busy : run.running.isSome = true := permits
        rw [if_pos busy]
        rcases either with left | ⟨stays, shorter⟩
        · rw [left] at bounded
          change _ ≤ 0 at bounded
          change _ + 1 ≤ _
          omega
        · rw [if_pos stays] at bounded
          change _ + 1 ≤ _
          omega
      | _ => cases target

variable [Fintype ν]

/-- A phase ends after as many passes as it has active handles, whatever the callbacks do. A
handle that is started in a callback joins the list of the loop, which the phase does not look
at any more. -/
theorem phases_end (kind : ν → WatcherKind) (links : Links (QueueAddress ν))
    (before actions : List (WatcherAction ν))
    (legal : (watcherSystem kind).Legal (initial links) before) (name : WatcherKind)
    (reached : (watcherSystem kind).exec (initial links) before = .ok run)
    (running : run.running = some name)
    (legal' : (watcherSystem kind).Legal run actions)
    (within : ∀ action ∈ actions, action.isRun = false) :
    actions.countP WatcherAction.isPass ≤
      (Finset.univ.filter fun handle =>
        run.isActive handle = true ∧ kind handle = name).card + 1 := by
  obtain ⟨main, pending, kept⟩ := (throughout_kept legal).final _ reached
  refine (passes_le kept legal' within).trans ?_
  rw [running, if_pos (by rfl), ← List.toFinset_card_of_nodup kept.listed.nodup_pending]
  refine Nat.add_le_add_right (Finset.card_le_card fun handle member => ?_) 1
  rw [List.mem_toFinset] at member
  have same := kept.listed.ofKind handle member
  rw [running] at same
  rw [Finset.mem_filter]
  exact ⟨Finset.mem_univ _, (kept.listed.active handle).mpr (Or.inr member),
    (Option.some.inj same).symm⟩

/-- A handle that is started in the callback of another does not make the phase longer. -/
theorem phases_end_four : ∃ run,
    (watcherSystem fun _ : Fin 4 => WatcherKind.idle).exec (initial ⟨id, id⟩)
      [.start 0, .start 1, .run .idle] = .ok run ∧
      [.pass, .stop 1, .start (1 : Fin 4), .pass, .pass].countP WatcherAction.isPass ≤
        (Finset.univ.filter fun handle : Fin 4 => run.isActive handle = true ∧
          WatcherKind.idle = WatcherKind.idle).card + 1 :=
  ⟨_, rfl, phases_end (fun _ => .idle) ⟨id, id⟩ [.start 0, .start 1, .run .idle]
    [.pass, .stop 1, .start 1, .pass, .pass]
    ((watcherSystem fun _ => WatcherKind.idle).legal_of_check (by decide)) .idle rfl rfl
    ((watcherSystem fun _ => WatcherKind.idle).legal_of_check (by decide)) (by decide)⟩

end Passes

end WatcherRun

end MoeUV
