import MoeUV.Timers.Firing

/-!
# Timers are punctual

Over a whole run, timers fire in the order in which they are due and never before
that. When the loop leaves `uv__run_timers`, every timer that was due has fired or
was stopped. Nothing bounds the number of its passes, though, if callbacks start
their timers with a first time of zero.
-/

namespace MoeUV

open Foundation.BinaryHeap Foundation.Counting Foundation.Execution

namespace TimerRun

variable {ν : Type} [DecidableEq ν] [Fintype ν] {run next : TimerRun ν}

section Sample

instance (run : TimerRun ν) : (action : TimerAction ν) →
    Decidable ((timerSystem ν).enabled run action)
  | .start _ => inferInstanceAs (Decidable (_ < _))
  | .updateTime time => inferInstanceAs (Decidable (run.loop.time ≤ time))
  | .finishClose _ => inferInstanceAs (Decidable (_ ∧ _))
  | .runTimers => inferInstanceAs (Decidable (run.running = false))
  | .pass => inferInstanceAs (Decidable (run.running = true ∧
      run.loop.timerCounter < run.loop.timerCounter + 1))
  | .setFirstTime _ _ | .setInterval _ _ | .stop _ | .close _ | .ref _ | .unref _ =>
    inferInstanceAs (Decidable True)

/-- Three timers, of which one has an interval and one is stopped by the callback of
another. -/
def threeTimers : List (TimerAction (Fin 3)) :=
  [.setFirstTime 0 10, .setFirstTime 1 5, .setInterval 1 5, .setFirstTime 2 7, .start 0, .start 1,
    .start 2, .updateTime 112, .runTimers, .pass, .stop 2, .pass, .start 0, .pass]

def blank : Fin 3 → HeapNode (Fin 3) := fun _ => ⟨none, none, none⟩

/-- The program and the clock may do this. -/
theorem threeTimers_legal : (timerSystem (Fin 3)).Legal (initial blank 100) threeTimers :=
  (timerSystem (Fin 3)).legal_of_check (by decide)

end Sample

section Order

/-- Timers fire in the order of their times, for equal times in the order of their
starts, and not before they are due. -/
structure Punctual (run : TimerRun ν) : Prop where
  ordered : run.firings.Pairwise fun earlier later => earlier.key < later.key
  due : ∀ firing ∈ run.firings, firing.timeout ≤ firing.time

/-- However timers are started, stopped and closed, they fire in order and not early. The
firings of the whole run are in the order of due time and start, and the time of the loop has
reached the due time of each. -/
theorem timers_punctual [Inhabited ν] (few : Fintype.card ν < 2 ^ 32) (memory : ν → HeapNode ν)
    (time : BitVec 64) (actions : List (TimerAction ν))
    (legal : (timerSystem ν).Legal (initial memory time) actions) :
    (timerSystem ν).Throughout Punctual (initial memory time) actions :=
  System.Throughout.mono _ (fun _ kept => ⟨kept.recorded.ordered, kept.recorded.due⟩)
    (throughout_kept few legal)

/-- Three timers, of which two are due at once. -/
theorem timers_punctual_three :
    (timerSystem (Fin 3)).Throughout Punctual (initial blank 100) threeTimers :=
  timers_punctual (by decide) blank 100 threeTimers threeTimers_legal

end Order

section Settled

/-- Every start so far has come to one end, or its timer is due later. -/
def Settled (run : TimerRun ν) : Prop :=
  ∀ number, number < run.loop.timerCounter →
    run.firings.countP (fun firing => firing.startId = number) + run.stops.count number = 1 ∨
    run.firings.countP (fun firing => firing.startId = number) + run.stops.count number = 0 ∧
      ∃ handle, (run.loop.timer handle).Pending number ∧
        run.loop.time < (run.loop.timer handle).timeout

/-- When no timer is due, none is between its deadline and its callback. -/
theorem Kept.settled (kept : Kept run)
    (later : ∀ handle, (run.loop.timer handle).flags.active = true →
      run.loop.time < (run.loop.timer handle).timeout) : Settled run := by
  intro number begun
  have accounted := kept.recorded.accounted number
  rw [if_pos begun, outcomes] at accounted
  by_cases none_pending : occurrences (UvTimer.Pending number) run.loop.timer = 0
  · exact Or.inl (by omega)
  · rw [occurrences_eq_zero, not_forall] at none_pending
    obtain ⟨handle, pending⟩ := none_pending
    rw [not_not] at pending
    have some_pending : occurrences (UvTimer.Pending number) run.loop.timer ≠ 0 := fun zero =>
      occurrences_eq_zero.mp zero handle pending
    exact Or.inr ⟨by omega, handle, pending, later handle pending.1⟩

/-- Whenever a pass leaves the loop, each start has fired once, or was ended by a call, or
its time has not come. -/
theorem timers_settled [Inhabited ν] (few : Fintype.card ν < 2 ^ 32) (memory : ν → HeapNode ν)
    (time : BitVec 64) (actions : List (TimerAction ν))
    (legal : (timerSystem ν).Legal (initial memory time) actions) :
    (timerSystem ν).Throughout (fun run => ∀ next, run.Permits .pass →
      run.act .pass = .ok next → next.running = false → Settled next)
      (initial memory time) actions := by
  refine System.Throughout.mono _ ?_ (throughout_kept few legal)
  intro run kept next permits passed left
  rcases TimerLoop.runTimersPass_scheduled few kept.scheduled with
    ⟨leaves, later⟩ | ⟨handle, loop, takes, _⟩
  · rw [act, leaves] at passed
    cases passed
    have kept' : Kept { run with running := false } :=
      ⟨kept.scheduled, kept.closing, kept.recorded⟩
    exact kept'.settled later
  · rw [act, takes] at passed
    cases passed
    rw [permits.1] at left
    cases left

/-- The last pass of the run finds no timer due. -/
theorem timers_settled_three :
    (timerSystem (Fin 3)).Throughout (fun run => ∀ next, run.Permits .pass →
      run.act .pass = .ok next → next.running = false → Settled next) (initial blank 100)
      threeTimers :=
  timers_settled (by decide) blank 100 threeTimers threeTimers_legal

end Settled

section Waiting

/-- The timeout for the poll is negative if no timer is active. Otherwise the poll does
not sleep beyond the time of a timer, and when it has slept for the whole timeout a
timer is due, unless the timeout is the largest one. -/
structure Awaited (loop : TimerLoop ν) : Prop where
  forever : loop.uvNextTimeout = -1 ↔ ∀ handle, (loop.timer handle).flags.active = false
  range : -1 ≤ loop.uvNextTimeout ∧ loop.uvNextTimeout ≤ 0x7fffffff
  early : 0 < loop.uvNextTimeout → ∀ handle, (loop.timer handle).flags.active = true →
    (loop.time.toNat : Int) + loop.uvNextTimeout ≤ (loop.timer handle).timeout.toNat
  late : 0 ≤ loop.uvNextTimeout → loop.uvNextTimeout < 0x7fffffff →
    ∃ handle, (loop.timer handle).flags.active = true ∧
      ((loop.timer handle).timeout.toNat : Int) ≤ loop.time.toNat + loop.uvNextTimeout

omit [DecidableEq ν] [Fintype ν] in
/-- The timeout is the time until the first timer is due, cut at the largest `int`. -/
theorem uvNextTimeout_eq {loop : TimerLoop ν} {handle : ν} (least : loop.heap.min = some handle) :
    loop.uvNextTimeout =
      min (((loop.timer handle).timeout.toNat - loop.time.toNat : Nat) : Int) 0x7fffffff := by
  rw [TimerLoop.uvNextTimeout, least]
  dsimp only
  by_cases due : (loop.timer handle).timeout ≤ loop.time
  · rw [if_pos due]
    rw [BitVec.le_def] at due
    omega
  · rw [if_neg due]
    have limit : (0x7fffffff : BitVec 64).toNat = 0x7fffffff := rfl
    rw [BitVec.le_def, not_le] at due
    have difference : ((loop.timer handle).timeout - loop.time).toNat =
        (loop.timer handle).timeout.toNat - loop.time.toNat :=
      BitVec.toNat_sub_of_le (BitVec.le_def.mpr due.le)
    simp only [BitVec.lt_def, limit, difference]
    split <;> omega

/-- Without an active timer the poll waits for ever, and otherwise no longer than to the first
deadline. -/
theorem awaited {loop : TimerLoop ν} (scheduled : loop.Scheduled) : Awaited loop := by
  cases empty : loop.heap.min with
  | none =>
    have timeout : loop.uvNextTimeout = -1 := by rw [TimerLoop.uvNextTimeout, empty]
    have inactive := scheduled.min_none empty
    refine ⟨iff_of_true timeout inactive, ?_, ?_, ?_⟩ <;> rw [timeout]
    · omega
    · omega
    · omega
  | some handle =>
    obtain ⟨active, least⟩ := scheduled.min_least empty
    have timeout := uvNextTimeout_eq empty
    refine ⟨iff_of_false (by omega) fun inactive => ?_, by omega, ?_, ?_⟩
    · rw [inactive handle] at active
      exact Bool.false_ne_true active
    · intro positive other active'
      have before := least other active'
      simp only [TimerLoop.key, UvTimer.key, Prod.Lex.toLex_le_toLex] at before
      omega
    · intro _ short
      exact ⟨handle, active, by omega⟩

/-- In every state of a run the poll waits as long as the timers allow. It waits without end
only if no timer is active, never past the due time of an active one, and until some timer is
due, unless the answer is cut at `INT_MAX`. -/
theorem timers_awaited [Inhabited ν] (few : Fintype.card ν < 2 ^ 32) (memory : ν → HeapNode ν)
    (time : BitVec 64) (actions : List (TimerAction ν))
    (legal : (timerSystem ν).Legal (initial memory time) actions) :
    (timerSystem ν).Throughout (fun run => Awaited run.loop) (initial memory time) actions :=
  System.Throughout.mono _ (fun _ kept => awaited kept.scheduled) (throughout_kept few legal)

/-- The poll of the run waits for the first of three timers. -/
theorem timers_awaited_three :
    (timerSystem (Fin 3)).Throughout (fun run => Awaited run.loop) (initial blank 100)
      threeTimers :=
  timers_awaited (by decide) blank 100 threeTimers threeTimers_legal

end Waiting

section Passes

/-- The timers whose time has come. -/
def due (run : TimerRun ν) : Finset ν :=
  run.loop.activeTimers.filter fun handle => (run.loop.timer handle).timeout ≤ run.loop.time

omit [DecidableEq ν] in
/-- The timers that are due are those that are active and whose deadline has come. -/
theorem mem_due {handle : ν} : handle ∈ run.due ↔
    (run.loop.timer handle).flags.active = true ∧
      (run.loop.timer handle).timeout ≤ run.loop.time := by
  rw [due, Finset.mem_filter, TimerLoop.mem_activeTimers]

/-- A bound for the passes until the loop is left. -/
def remaining (run : TimerRun ν) : Nat := if run.running then run.due.card + 1 else 0

/-- Not a start with a first time of zero, and no look at the clock. -/
def Patient (run : TimerRun ν) : TimerAction ν → Prop
  | .start handle => (run.loop.timer handle).firstTime ≠ 0
  | .updateTime _ | .runTimers => False
  | .setFirstTime _ _ | .setInterval _ _ | .stop _ | .close _ | .finishClose _ | .ref _ | .unref _
  | .pass => True

instance (run : TimerRun ν) : (action : TimerAction ν) → Decidable (Patient run action)
  | .start handle => inferInstanceAs (Decidable ((run.loop.timer handle).firstTime ≠ 0))
  | .updateTime _ | .runTimers => inferInstanceAs (Decidable False)
  | .setFirstTime _ _ | .setInterval _ _ | .stop _ | .close _ | .finishClose _ | .ref _ | .unref _
  | .pass => inferInstanceAs (Decidable True)

omit [DecidableEq ν] [Fintype ν] in
/-- A timer with interval 0 is due at once. -/
theorem clampedTimeout_zero (loop : TimerLoop ν) : loop.clampedTimeout 0 = loop.time := by
  have none_less : ¬ loop.time + 0 < 0 := BitVec.not_lt_zero
  rw [TimerLoop.clampedTimeout, if_neg none_less]
  exact BitVec.add_zero _

omit [DecidableEq ν] [Fintype ν] in
/-- As long as the counter does not wrap, the next start has a number of its own. -/
theorem numberable_of_lt (room : run.loop.timerCounter.toNat + 1 < 2 ^ 64) : run.Numberable := by
  rw [Numberable, BitVec.lt_def, BitVec.toNat_add]
  change _ < (_ + 1) % _
  omega

omit [DecidableEq ν] [Fintype ν] in
/-- A timer that is started with a positive time is not due yet. -/
theorem lt_clampedTimeout {loop : TimerLoop ν} {timeout : BitVec 64} (positive : timeout ≠ 0)
    (early : loop.time < BitVec.allOnes 64) : loop.time < loop.clampedTimeout timeout := by
  have one := loop.time.isLt
  have two := timeout.isLt
  have nonzero : timeout.toNat ≠ 0 := fun zero => positive (BitVec.eq_of_toNat_eq zero)
  rw [TimerLoop.clampedTimeout]
  split
  · exact early
  · rename_i fits
    rw [BitVec.lt_def, BitVec.toNat_add] at fits
    rw [BitVec.lt_def, BitVec.toNat_add]
    omega

/-- A call of a patient callback makes no timer due. A timer that it starts has a first time
above zero, so it is due later than the time of the loop. -/
theorem call_remaining (few : Fintype.card ν < 2 ^ 32) (kept : Kept run) {action : TimerAction ν}
    (permits : run.Permits action) {handle : ν} (target : action.target = some handle)
    (patient : Patient run action) (early : run.loop.time < BitVec.allOnes 64) :
    ∃ next, run.act action = .ok next ∧ Kept next ∧ next.loop.time = run.loop.time ∧
      next.remaining ≤ run.remaining := by
  obtain ⟨next, timer, acts, called, either⟩ := act_call few kept permits target
  refine ⟨next, acts, called.kept, called.updated.time, ?_⟩
  have fewer : next.due ⊆ run.due := by
    intro other member
    rw [mem_due, called.updated.time] at member
    rw [mem_due]
    by_cases same : other = handle
    · subst same
      rw [called.updated.self] at member
      rcases either with alike | inactive | ⟨rfl, started⟩
      · rwa [← alike.active, ← alike.timeout]
      · rw [inactive] at member
        exact absurd member.1 Bool.false_ne_true
      · rw [started] at member
        exact absurd (lt_clampedTimeout patient early) (BitVec.not_lt.mpr member.2)
    · rwa [called.updated.other same] at member
  rw [remaining, remaining, called.running]
  split
  · exact Nat.add_le_add_right (Finset.card_le_card fewer) 1
  · exact Nat.le_refl 0

/-- Each pass takes a timer that is due and leaves none of them due, or leaves the loop. The
timer that fires is not due any more, and its callback has not been made yet. -/
theorem pass_remaining (few : Fintype.card ν < 2 ^ 32) (kept : Kept run)
    (permits : run.Permits .pass) (early : run.loop.time < BitVec.allOnes 64) :
    ∃ next, run.act .pass = .ok next ∧ Kept next ∧ next.loop.time = run.loop.time ∧
      next.remaining + 1 ≤ run.remaining := by
  obtain ⟨next, acts, kept'⟩ := act_kept few kept permits
  refine ⟨next, acts, kept', ?_⟩
  have here : run.remaining = run.due.card + 1 := by rw [remaining, if_pos permits.1]
  rcases TimerLoop.runTimersPass_scheduled few kept.scheduled with
    ⟨leaves, _⟩ | ⟨handle, loop, takes, active, overdue, least, scheduled, updated, counter⟩
  · rw [act, leaves] at acts
    cases acts
    refine ⟨rfl, ?_⟩
    rw [here, remaining, if_neg (by exact Bool.false_ne_true)]
    omega
  · rw [act, takes] at acts
    cases acts
    refine ⟨updated.time, ?_⟩
    have member : handle ∈ run.due := mem_due.mpr ⟨active, overdue⟩
    have fewer : due { run with loop := loop, firings := run.firings ++ [run.firing handle] } ⊆
        run.due.erase handle := by
      intro other member'
      rw [mem_due, updated.time] at member'
      have apart : other ≠ handle := by
        rintro rfl
        rw [updated.self, TimerLoop.elapsed] at member'
        split at member'
        · rename_i again
          exact absurd (lt_clampedTimeout again early) (BitVec.not_lt.mpr member'.2)
        · exact absurd member'.1 Bool.false_ne_true
      rw [updated.other apart] at member'
      rw [Finset.mem_erase, mem_due]
      exact ⟨apart, member'⟩
    have card := Finset.card_le_card fewer
    rw [Finset.card_erase_of_mem member] at card
    have positive := Finset.card_pos.mpr ⟨handle, member⟩
    rw [here, remaining]
    split <;> omega

/-- Every step of a patient callback, and every pass, uses up what remains. -/
theorem act_remaining (few : Fintype.card ν < 2 ^ 32) (kept : Kept run) {action : TimerAction ν}
    (permits : run.Permits action) (patient : Patient run action)
    (early : run.loop.time < BitVec.allOnes 64) :
    ∃ next, run.act action = .ok next ∧ Kept next ∧ next.loop.time = run.loop.time ∧
      next.remaining + (if action.isPass then 1 else 0) ≤ run.remaining := by
  cases target : action.target with
  | some handle =>
    have call : action.isPass = false := by
      cases action with
      | pass => cases target
      | _ => rfl
    rw [call]
    exact call_remaining few kept permits target patient early
  | none =>
    cases action with
    | pass => exact pass_remaining few kept permits early
    | updateTime time => exact absurd patient id
    | runTimers => exact absurd patient id
    | _ => cases target

/-- The passes that are left are at most the timers that are due and may be started again. -/
theorem passes_le (few : Fintype.card ν < 2 ^ 32) {actions : List (TimerAction ν)}
    (kept : Kept run) (early : run.loop.time < BitVec.allOnes 64)
    (legal : (timerSystem ν).Legal run actions)
    (patient : (timerSystem ν).Guarded Patient run actions) :
    actions.countP TimerAction.isPass ≤ run.remaining := by
  induction actions generalizing run with
  | nil => exact Nat.zero_le _
  | cons action rest inductionHypothesis =>
    obtain ⟨permits, onward⟩ := legal
    obtain ⟨here, later⟩ := (timerSystem ν).guarded_cons.mp patient
    obtain ⟨next, acts, kept', time, less⟩ := act_remaining few kept permits here early
    have bounded := inductionHypothesis kept' (time ▸ early) (onward next acts) (later next acts)
    rw [List.countP_cons]
    omega

/-- `uv__run_timers` makes at most one pass for each timer that is due, and one to find that
none is left, provided that the callbacks are patient: they start no timer with a first time
of zero and leave the time of the loop alone. -/
theorem runTimers_ends [Inhabited ν] (few : Fintype.card ν < 2 ^ 32) (memory : ν → HeapNode ν)
    (time : BitVec 64) (before actions : List (TimerAction ν))
    (legal : (timerSystem ν).Legal (initial memory time) before)
    (reached : (timerSystem ν).exec (initial memory time) before = .ok run)
    (early : run.loop.time < BitVec.allOnes 64)
    (legal' : (timerSystem ν).Legal run actions)
    (patient : (timerSystem ν).Guarded Patient run actions) :
    actions.countP TimerAction.isPass ≤ run.due.card + 1 := by
  have kept := (throughout_kept few legal).final _ reached
  refine (passes_le few kept early legal' patient).trans ?_
  rw [remaining]
  split <;> omega

/-- One timer that is due, and whose callback starts it again. -/
def oneTimer (firstTime : BitVec 64) : List (TimerAction (Fin 3)) :=
  [.setFirstTime 0 firstTime, .start 0, .updateTime 110, .runTimers]

/-- A timer with an interval is started again in its callback, and the loop over the timers ends.
-/
theorem runTimers_ends_one : ∃ run,
    (timerSystem (Fin 3)).exec (initial blank 100) (oneTimer 10) = .ok run ∧
      [TimerAction.pass, .start 0, .pass].countP TimerAction.isPass ≤ run.due.card + 1 :=
  ⟨_, rfl, runTimers_ends (by decide) blank 100 (oneTimer 10) [.pass, .start 0, .pass]
    ((timerSystem (Fin 3)).legal_of_check (by decide)) rfl (by decide)
    ((timerSystem (Fin 3)).legal_of_check (by decide))
    ((timerSystem (Fin 3)).guarded_of_check (by decide))⟩

/-- The timers that are due are started again with a first time of zero, and some are. -/
structure Restless (run : TimerRun ν) : Prop where
  running : run.running = true
  some_due : run.due.Nonempty
  zero : ∀ handle ∈ run.due, (run.loop.timer handle).firstTime = 0

/-- Passes, each of which is followed by the start of a timer. -/
def rounds (handles : List ν) : List (TimerAction ν) :=
  handles.flatMap fun handle => [.pass, .start handle]

omit [DecidableEq ν] [Fintype ν] in
/-- Each round has one pass. -/
theorem countP_rounds (handles : List ν) :
    (rounds handles).countP TimerAction.isPass = handles.length := by
  induction handles with
  | nil => rfl
  | cons handle rest inductionHypothesis =>
    change (TimerAction.pass :: .start handle :: rounds rest).countP TimerAction.isPass = _
    rw [List.countP_cons_of_pos rfl, List.countP_cons_of_neg Bool.false_ne_true,
      inductionHypothesis, List.length_cons]

/-- A pass fires a timer that is due, and the callback starts that timer again. Its first time
is zero, so it is due at once, and the time of the loop is the same in the next pass. -/
theorem Restless.round (few : Fintype.card ν < 2 ^ 32) (kept : Kept run) (restless : Restless run)
    (room : run.loop.timerCounter.toNat + 2 < 2 ^ 64) :
    ∃ handle middle next, run.act .pass = .ok middle ∧ middle.Permits (.start handle) ∧
      middle.act (.start handle) = .ok next ∧ Kept next ∧ Restless next ∧
      next.loop.timerCounter.toNat ≤ run.loop.timerCounter.toNat + 2 ∧
      next.firings = run.firings ++ [run.firing handle] := by
  have fresh : run.Numberable := numberable_of_lt (by omega)
  rcases TimerLoop.runTimersPass_scheduled few kept.scheduled with
    ⟨_, later⟩ | ⟨handle, loop, takes, active, overdue, least, scheduled, updated, counter⟩
  · obtain ⟨handle, member⟩ := restless.some_due
    rw [mem_due] at member
    exact absurd (later handle member.1) (BitVec.not_lt.mpr member.2)
  · have member : handle ∈ run.due := mem_due.mpr ⟨active, overdue⟩
    obtain ⟨middle, acts, kept'⟩ := act_pass few kept fresh
    have result : middle =
        { run with loop := loop, firings := run.firings ++ [run.firing handle] } := by
      rw [act, takes] at acts
      exact (Except.ok.inj acts).symm
    subst result
    have kind : (run.loop.elapsed handle).flags.isClosing =
        (run.loop.timer handle).flags.isClosing ∧
        (run.loop.elapsed handle).firstTime = (run.loop.timer handle).firstTime := by
      rw [TimerLoop.elapsed]
      split <;> exact ⟨rfl, rfl⟩
    have opened : ¬ (loop.timer handle).flags.isClosing = true := by
      rw [updated.self, kind.1]
      intro closing
      rw [kept.closing handle closing] at active
      exact Bool.false_ne_true active
    have counted : loop.timerCounter.toNat ≤ run.loop.timerCounter.toNat + 1 := by
      rw [counter]
      split
      · exact (toNat_succ fresh).le
      · omega
    have fresh' : Numberable
        { run with loop := loop, firings := run.firings ++ [run.firing handle] } :=
      numberable_of_lt (show loop.timerCounter.toNat + 1 < 2 ^ 64 by omega)
    obtain ⟨next, starts, called, counter'⟩ := act_start_open few kept' fresh' opened
    have again := called.updated.self
    have zero : (loop.timer handle).firstTime = 0 := by
      rw [updated.self, kind.2]
      exact restless.zero handle member
    have now : next.loop.time = run.loop.time := called.updated.time.trans updated.time
    refine ⟨handle, _, next, acts, fresh', starts, called.kept,
      ⟨called.running.trans restless.running, ⟨handle, ?_⟩, ?_⟩, ?_, called.firings⟩
    · rw [mem_due, again, now]
      change true = true ∧ loop.clampedTimeout (loop.timer handle).firstTime ≤ run.loop.time
      rw [zero, clampedTimeout_zero, updated.time]
      exact ⟨rfl, BitVec.le_refl _⟩
    · intro other member'
      by_cases same : other = handle
      · rw [same, again]
        exact zero
      · rw [mem_due, called.updated.other same, now] at member'
        change (loop.timer other).flags.active = true ∧ (loop.timer other).timeout ≤ _ at member'
        rw [called.updated.other same]
        change (loop.timer other).firstTime = 0
        rw [updated.other same] at member' ⊢
        exact restless.zero other (mem_due.mpr member')
    · have succ := toNat_succ fresh'
      rw [← counter'] at succ
      change next.loop.timerCounter.toNat = loop.timerCounter.toNat + 1 at succ
      omega

/-- `uv__run_timers` does not return while the callbacks of the timers that are due start
them again with a first time of zero: any number of passes stays in its loop, each of which
fires the timer that is started behind it. -/
theorem runTimers_endless [Inhabited ν] (few : Fintype.card ν < 2 ^ 32)
    (memory : ν → HeapNode ν) (time : BitVec 64) (before : List (TimerAction ν))
    (legal : (timerSystem ν).Legal (initial memory time) before)
    (reached : (timerSystem ν).exec (initial memory time) before = .ok run)
    (restless : Restless run) (count : Nat)
    (room : run.loop.timerCounter.toNat + 2 * count < 2 ^ 64) :
    ∃ handles final, (timerSystem ν).Legal run (rounds handles) ∧
      (timerSystem ν).exec run (rounds handles) = .ok final ∧
      (rounds handles).countP TimerAction.isPass = count ∧ final.running = true ∧
      final.firings.map Firing.timer = run.firings.map Firing.timer ++ handles := by
  have kept := (throughout_kept few legal).final _ reached
  clear reached legal
  induction count generalizing run with
  | zero => exact ⟨[], run, trivial, rfl, rfl, restless.running, (List.append_nil _).symm⟩
  | succ count inductionHypothesis =>
    obtain ⟨handle, middle, next, passes, permits, starts, kept', restless', counter, fired⟩ :=
      restless.round few kept (by omega)
    obtain ⟨handles, final, legal, executed, counted, running, firings⟩ :=
      inductionHypothesis restless' (by omega) kept'
    have fresh : run.Numberable := numberable_of_lt (by omega)
    refine ⟨handle :: handles, final, ⟨⟨restless.running, fresh⟩, ?_⟩, ?_, ?_, running, ?_⟩
    · intro after passed
      obtain rfl : middle = after := Except.ok.inj (passes.symm.trans passed)
      refine ⟨permits, fun after' started => ?_⟩
      obtain rfl : next = after' := Except.ok.inj (starts.symm.trans started)
      exact legal
    · change (timerSystem ν).exec run (.pass :: .start handle :: rounds handles) = .ok final
      rw [System.exec_cons_ok _ _ passes, System.exec_cons_ok _ _ starts, executed]
    · rw [countP_rounds] at counted ⊢
      rw [List.length_cons, counted]
    · rw [firings, fired, List.map_append, List.append_assoc]
      rfl

/-- A timer with interval 0 that starts itself fires a million times. -/
theorem runTimers_endless_one : ∃ run,
    (timerSystem (Fin 3)).exec (initial blank 100) (oneTimer 0) = .ok run ∧
      ∃ handles final, (timerSystem (Fin 3)).Legal run (rounds handles) ∧
        (timerSystem (Fin 3)).exec run (rounds handles) = .ok final ∧
        (rounds handles).countP TimerAction.isPass = 1000000 ∧ final.running = true ∧
        final.firings.map Firing.timer = run.firings.map Firing.timer ++ handles :=
  ⟨_, rfl, runTimers_endless (by decide) blank 100 (oneTimer 0)
    ((timerSystem (Fin 3)).legal_of_check (by decide)) rfl
    ⟨by decide, ⟨0, by decide⟩, by decide⟩ 1000000 (by decide)⟩

end Passes

end TimerRun

end MoeUV
