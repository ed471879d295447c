import MoeUV.Foundation.Counting
import MoeUV.Timers.Schedule

/-!
# The timers that fire

A run consists of the calls that the program makes, in its callbacks and elsewhere,
and of the passes of `uv__run_timers`, after each of which the callback of a timer
runs. What fired is recorded with the time at which it was due, and so are the
starts that the program has ended; no step reads the record.
-/

namespace MoeUV

open Foundation.BinaryHeap Foundation.Counting Foundation.Execution

/-- The callback of a timer was called. -/
structure Firing (ν : Type) where
  timer : ν
  timeout : BitVec 64
  startId : BitVec 64
  /-- The time of the loop at the call. -/
  time : BitVec 64
deriving DecidableEq

/-- When the timer was due, and the number of its start. -/
def Firing.key {ν : Type} (firing : Firing ν) : ℕ ×ₗ ℕ :=
  toLex (firing.timeout.toNat, firing.startId.toNat)

structure TimerRun (ν : Type) where
  loop : TimerLoop ν
  /-- Inside of `uv__run_timers`. -/
  running : Bool
  firings : List (Firing ν)
  /-- The starts that were ended by a call. -/
  stops : List (BitVec 64)

inductive TimerAction (ν : Type) where
  | setFirstTime (handle : ν) (t : BitVec 64)
  | setInterval (handle : ν) (interval : BitVec 64)
  | start (handle : ν)
  | stop (handle : ν)
  | close (handle : ν)
  | finishClose (handle : ν)
  | ref (handle : ν)
  | unref (handle : ν)
  | updateTime (time : BitVec 64)
  | runTimers
  | pass

/-- The timer that a call is about. -/
def TimerAction.target {ν : Type} : TimerAction ν → Option ν
  | .setFirstTime handle _ | .setInterval handle _ | .start handle | .stop handle | .close handle
  | .finishClose handle | .ref handle | .unref handle => some handle
  | .updateTime _ | .runTimers | .pass => none

def TimerAction.isPass {ν : Type} : TimerAction ν → Bool
  | .pass => true
  | _ => false

namespace TimerRun

variable {ν : Type} [DecidableEq ν] (run : TimerRun ν)

/-- The timers of the run have been created, and none has been started. -/
def initial (memory : ν → HeapNode ν) (time : BitVec 64) : TimerRun ν :=
  ⟨⟨.init memory, fun _ => .uvTimerInit, time, 0, 0⟩, false, [], []⟩

/-- A call on the timer ends its start if it is active. -/
def ending (handle : ν) : List (BitVec 64) :=
  if (run.loop.timer handle).flags.active then run.stops ++ [(run.loop.timer handle).startId]
  else run.stops

/-- The firing of a timer, as it is recorded. -/
def firing (handle : ν) : Firing ν :=
  ⟨handle, (run.loop.timer handle).timeout, (run.loop.timer handle).startId, run.loop.time⟩

def act : TimerAction ν → Except HeapFault (TimerRun ν)
  | .setFirstTime handle t => pure { run with loop := run.loop.setFirstTime handle t }
  | .setInterval handle interval => pure { run with loop := run.loop.setInterval handle interval }
  | .start handle => do
    let (_, loop) ← run.loop.start handle
    pure { run with loop := loop, stops := run.ending handle }
  | .stop handle => do
    let loop ← run.loop.stop handle
    pure { run with loop := loop, stops := run.ending handle }
  | .close handle => do
    let loop ← run.loop.close handle
    pure { run with loop := loop, stops := run.ending handle }
  | .finishClose handle => pure { run with loop := run.loop.uvFinishClose handle }
  | .ref handle => pure { run with loop := run.loop.ref handle }
  | .unref handle => pure { run with loop := run.loop.unref handle }
  | .updateTime time => pure { run with loop := { run.loop with time := time } }
  | .runTimers => pure { run with running := true }
  | .pass => do
    match ← run.loop.runTimersPass with
    | (none, loop) => pure { run with loop := loop, running := false }
    | (some handle, loop) =>
      pure { run with loop := loop, firings := run.firings ++ [run.firing handle] }

/-- The number of the next start does not wrap around. -/
def Numberable : Prop := run.loop.timerCounter < run.loop.timerCounter + 1

/-- The clock does not go back, and the loop runs its timers one after the other. -/
def Permits : TimerAction ν → Prop
  | .start _ => run.Numberable
  | .updateTime time => run.loop.time ≤ time
  | .finishClose handle => (run.loop.timer handle).flags.closing = true ∧
      (run.loop.timer handle).flags.closed = false
  | .runTimers => run.running = false
  | .pass => run.running = true ∧ run.Numberable
  | .setFirstTime _ _ | .setInterval _ _ | .stop _ | .close _ | .ref _ | .unref _ => True

end TimerRun

def timerSystem (ν : Type) [DecidableEq ν] : System (TimerRun ν) (TimerAction ν) HeapFault where
  enabled := TimerRun.Permits
  step := TimerRun.act

/-- A number that does not wrap grows by one. -/
theorem toNat_succ {number : BitVec 64} (fresh : number < number + 1) :
    (number + 1).toNat = number.toNat + 1 := by
  have bounded := number.isLt
  have one : (1 : BitVec 64).toNat = 1 := rfl
  rw [BitVec.lt_def] at fresh
  rw [BitVec.toNat_add, one] at fresh ⊢
  omega

section Records

variable {ν : Type} [Fintype ν] {timer : ν → UvTimer} {counter time : BitVec 64}
  {firings : List (Firing ν)} {stops : List (BitVec 64)}

/-- The start with this number has not come to its end. -/
def UvTimer.Pending (number : BitVec 64) (timer : UvTimer) : Prop :=
  timer.flags.active = true ∧ timer.startId = number

instance (number : BitVec 64) : DecidablePred (UvTimer.Pending number) :=
  fun timer => inferInstanceAs (Decidable (timer.flags.active = true ∧ timer.startId = number))

/-- How often the start with this number has fired, was ended by a call, or is pending. -/
def outcomes (timer : ν → UvTimer) (firings : List (Firing ν)) (stops : List (BitVec 64))
    (number : BitVec 64) : Nat :=
  firings.countP (fun firing => firing.startId = number) + stops.count number +
    occurrences (UvTimer.Pending number) timer

/-- What the record says of the timers of a loop. -/
structure FiringsRecorded (timer : ν → UvTimer) (counter time : BitVec 64)
    (firings : List (Firing ν)) (stops : List (BitVec 64)) : Prop where
  past : ∀ firing ∈ firings, firing.timeout ≤ time ∧ firing.startId < counter
  numbered : ∀ handle, (timer handle).flags.active = true → (timer handle).startId < counter
  distinct : ∀ first second, (timer first).flags.active = true →
    (timer second).flags.active = true → (timer first).startId = (timer second).startId →
    first = second
  before : ∀ firing ∈ firings, ∀ handle, (timer handle).flags.active = true →
    firing.key < (timer handle).key
  ordered : firings.Pairwise fun earlier later => earlier.key < later.key
  due : ∀ firing ∈ firings, firing.timeout ≤ firing.time
  accounted : ∀ number, outcomes timer firings stops number = if number < counter then 1 else 0

/-- Nothing that the record depends on has changed. -/
theorem FiringsRecorded.quiet (recorded : FiringsRecorded timer counter time firings stops)
    {timer' : ν → UvTimer} (alike : ∀ handle, (timer' handle).Alike (timer handle)) :
    FiringsRecorded timer' counter time firings stops := by
  constructor
  · exact recorded.past
  · intro handle
    rw [(alike handle).active, (alike handle).startId]
    exact recorded.numbered handle
  · intro first second
    rw [(alike first).active, (alike second).active, (alike first).startId,
      (alike second).startId]
    exact recorded.distinct first second
  · intro firing member handle
    rw [(alike handle).active, (alike handle).key]
    exact recorded.before firing member handle
  · exact recorded.ordered
  · exact recorded.due
  · intro number
    rw [← recorded.accounted number, outcomes, outcomes]
    congr 1
    refine occurrences_congr fun handle => ?_
    rw [UvTimer.Pending, UvTimer.Pending, (alike handle).active, (alike handle).startId]

/-- What was recorded stays right as time passes. -/
theorem FiringsRecorded.tick (recorded : FiringsRecorded timer counter time firings stops)
    {later : BitVec 64} (passed : time ≤ later) :
    FiringsRecorded timer counter later firings stops :=
  { recorded with
    past := fun firing member =>
      ⟨BitVec.le_trans (recorded.past firing member).1 passed, (recorded.past firing member).2⟩ }

variable [DecidableEq ν] {handle : ν}

/-- A pending start comes to its end. -/
theorem outcomes_withActive (active : (timer handle).flags.active = true) (number : BitVec 64) :
    outcomes (Function.update timer handle ((timer handle).withActive false)) firings stops number +
        (if (timer handle).startId = number then 1 else 0) =
      outcomes timer firings stops number := by
  have changed := occurrences_update (UvTimer.Pending number) timer handle
    ((timer handle).withActive false)
  have ended : ¬ ((timer handle).withActive false).Pending number :=
    fun pending => Bool.false_ne_true pending.1
  have begun : (timer handle).Pending number ↔ (timer handle).startId = number :=
    and_iff_right active
  rw [if_neg ended] at changed
  simp only [begun] at changed
  rw [outcomes, outcomes, Nat.add_assoc, changed, Nat.add_zero]

omit [Fintype ν] in
/-- What is active after one timer has become inactive. -/
theorem active_withActive {other : ν} (active : (Function.update timer handle
    ((timer handle).withActive false) other).flags.active = true) :
    Function.update timer handle ((timer handle).withActive false) other = timer other := by
  by_cases same : other = handle
  · rw [same, Function.update_self] at active
    cases active
  · rw [Function.update_of_ne same]

/-- A call ends the start of an active timer. Its number moves from the timers that are active
to the stops that are recorded. -/
theorem FiringsRecorded.stopped (recorded : FiringsRecorded timer counter time firings stops)
    (active : (timer handle).flags.active = true) :
    FiringsRecorded (Function.update timer handle ((timer handle).withActive false)) counter time
      firings (stops ++ [(timer handle).startId]) := by
  constructor
  · exact recorded.past
  · intro other active'
    have same := active_withActive active'
    rw [same] at active' ⊢
    exact recorded.numbered other active'
  · intro first second one two same
    have first' := active_withActive one
    have second' := active_withActive two
    rw [first'] at one same
    rw [second'] at two same
    exact recorded.distinct first second one two same
  · intro firing member other active'
    have same := active_withActive active'
    rw [same] at active' ⊢
    exact recorded.before firing member other active'
  · exact recorded.ordered
  · exact recorded.due
  · intro number
    rw [← recorded.accounted number, ← outcomes_withActive active number]
    simp only [outcomes, List.count_append, List.count_singleton, beq_iff_eq]
    omega

/-- The first timer fires when it is due. Its number moves from the timers that are active to
the firings, where it is the last one in the order. -/
theorem FiringsRecorded.fired (recorded : FiringsRecorded timer counter time firings stops)
    (active : (timer handle).flags.active = true) (due : (timer handle).timeout ≤ time)
    (least : ∀ other, (timer other).flags.active = true →
      (timer handle).key ≤ (timer other).key) :
    FiringsRecorded (Function.update timer handle ((timer handle).withActive false)) counter time
      (firings ++ [⟨handle, (timer handle).timeout, (timer handle).startId, time⟩]) stops := by
  have stopped := recorded.stopped active
  constructor
  · intro firing member
    rcases List.mem_append.mp member with old | last
    · exact recorded.past firing old
    · rw [List.mem_singleton.mp last]
      exact ⟨due, recorded.numbered handle active⟩
  · exact stopped.numbered
  · exact stopped.distinct
  · intro firing member other active'
    rcases List.mem_append.mp member with old | last
    · exact stopped.before firing old other active'
    · have apart : other ≠ handle := by
        rintro rfl
        rw [Function.update_self] at active'
        cases active'
      rw [Function.update_of_ne apart] at active' ⊢
      rw [List.mem_singleton.mp last]
      -- The two keys are not equal, as the starts have different numbers.
      refine lt_of_le_of_ne (least other active') fun equal => apart ?_
      have numbers : (timer other).startId = (timer handle).startId :=
        BitVec.eq_of_toNat_eq (Prod.mk.inj (toLex_inj.mp equal)).2.symm
      exact recorded.distinct other handle active' active numbers
  · refine List.pairwise_append.mpr ⟨recorded.ordered, List.pairwise_singleton _ _, ?_⟩
    intro firing member last same
    rw [List.mem_singleton.mp same]
    exact recorded.before firing member handle active
  · intro firing member
    rcases List.mem_append.mp member with old | last
    · exact recorded.due firing old
    · rw [List.mem_singleton.mp last]
      exact due
  · intro number
    rw [← recorded.accounted number, ← outcomes_withActive active number]
    simp only [outcomes, List.countP_append, List.countP_singleton, decide_eq_true_eq]
    omega

/-- A timer that was not active is started with the next number. Its key is behind all firings:
it is due later than they were, or at the same time with a greater number. -/
theorem FiringsRecorded.started (recorded : FiringsRecorded timer counter time firings stops)
    (inactive : (timer handle).flags.active = false) {entry : UvTimer}
    (active : entry.flags.active = true) (number : entry.startId = counter)
    (later : time ≤ entry.timeout) (fresh : counter < counter + 1) :
    FiringsRecorded (Function.update timer handle entry) (counter + 1) time firings stops := by
  constructor
  · intro firing member
    have past := recorded.past firing member
    exact ⟨past.1, BitVec.lt_trans past.2 fresh⟩
  · intro other active'
    by_cases same : other = handle
    · rw [same, Function.update_self, number]
      exact fresh
    · rw [Function.update_of_ne same] at active' ⊢
      exact BitVec.lt_trans (recorded.numbered other active') fresh
  · -- The number of the new start is not below itself.
    have unlike {other : ν} (active' : (timer other).flags.active = true) :
        (timer other).startId ≠ counter := fun same =>
      BitVec.lt_irrefl _ (same ▸ recorded.numbered other active')
    intro first second one two same
    by_cases new : first = handle
    · by_cases new' : second = handle
      · rw [new, new']
      · rw [Function.update_of_ne new'] at two same
        rw [new, Function.update_self, number] at same
        exact absurd same.symm (unlike two)
    · rw [Function.update_of_ne new] at one same
      by_cases new' : second = handle
      · rw [new', Function.update_self, number] at same
        exact absurd same (unlike one)
      · rw [Function.update_of_ne new'] at two same
        exact recorded.distinct first second one two same
  · intro firing member other active'
    by_cases same : other = handle
    · obtain ⟨past, numbered⟩ := recorded.past firing member
      rw [same, Function.update_self, Firing.key, UvTimer.key, Prod.Lex.toLex_lt_toLex, number]
      rw [BitVec.le_def] at past later
      rw [BitVec.lt_def] at numbered
      omega
    · rw [Function.update_of_ne same] at active' ⊢
      exact recorded.before firing member other active'
  · exact recorded.ordered
  · exact recorded.due
  · intro other
    have changed := occurrences_update (UvTimer.Pending other) timer handle
      entry
    have ended : ¬ (timer handle).Pending other := fun pending => by
      rw [UvTimer.Pending, inactive] at pending
      exact Bool.false_ne_true pending.1
    have begun : entry.Pending other ↔ counter = other := by
      rw [UvTimer.Pending, number]
      exact and_iff_right active
    have accounted := recorded.accounted other
    have increment := toNat_succ fresh
    rw [if_neg ended, Nat.add_zero] at changed
    simp only [begun] at changed
    rw [outcomes] at accounted ⊢
    rw [changed, ← Nat.add_assoc, accounted]
    simp only [BitVec.lt_def, increment, ← BitVec.toNat_inj]
    rcases lt_trichotomy other.toNat counter.toNat with old | new | unused
    · rw [if_pos old, if_neg (by omega), if_pos (by omega)]
    · rw [if_neg (by omega), if_pos new.symm, if_pos (by omega)]
    · rw [if_neg (by omega), if_neg (by omega), if_neg (by omega)]

end Records

namespace TimerRun

variable {ν : Type} [DecidableEq ν] [Fintype ν] {run : TimerRun ν}

/-- The schedule and the record agree, and no timer that is closing is active. -/
structure Kept (run : TimerRun ν) : Prop where
  scheduled : run.loop.Scheduled
  closing : ∀ handle, (run.loop.timer handle).flags.isClosing = true →
    (run.loop.timer handle).flags.active = false
  recorded :
    FiringsRecorded run.loop.timer run.loop.timerCounter run.loop.time run.firings run.stops

variable {loop : TimerLoop ν} {handle : ν} {timer : UvTimer}

/-- A timer that is closing stays inactive, whatever is written. -/
theorem closing_update (kept : Kept run) (updated : run.loop.Updated loop handle timer)
    (open_or : timer.flags.isClosing = true → timer.flags.active = false) (other : ν)
    (closing : (loop.timer other).flags.isClosing = true) :
    (loop.timer other).flags.active = false := by
  by_cases same : other = handle
  · rw [same, updated.self] at closing ⊢
    exact open_or closing
  · rw [updated.other same] at closing ⊢
    exact kept.closing other closing

/-- The call changes nothing about the schedule. -/
theorem Kept.quiet (kept : Kept run) (updated : run.loop.Updated loop handle timer)
    (heap : loop.heap = run.loop.heap) (counter : loop.timerCounter = run.loop.timerCounter)
    (alike : timer.Alike (run.loop.timer handle))
    (open_or : timer.flags.isClosing = true → timer.flags.active = false) :
    Kept { run with loop := loop } := by
  have alike' (other : ν) : (loop.timer other).Alike (run.loop.timer other) := by
    rw [updated.timer]
    exact alike.update other
  refine ⟨kept.scheduled.quiet heap alike',
    fun other => closing_update kept updated open_or other, ?_⟩
  change FiringsRecorded loop.timer loop.timerCounter loop.time run.firings run.stops
  rw [counter, updated.time]
  exact kept.recorded.quiet alike'

/-- The call stops the timer. -/
theorem Kept.ending (kept : Kept run) (handle : ν) :
    FiringsRecorded
      (Function.update run.loop.timer handle ((run.loop.timer handle).withActive false))
      run.loop.timerCounter run.loop.time run.firings (run.ending handle) := by
  rw [TimerRun.ending]
  cases active : (run.loop.timer handle).flags.active with
  | true => exact kept.recorded.stopped active
  | false =>
    rw [UvTimer.withActive_self _ active, Function.update_eq_self]
    exact kept.recorded

/-- A timer that is closing has no start to end. -/
theorem Kept.ending_closing (kept : Kept run)
    (closing : (run.loop.timer handle).flags.isClosing = true) :
    run.ending handle = run.stops := by
  rw [TimerRun.ending, kept.closing handle closing, if_neg Bool.false_ne_true]

/-- The call stops the timer, and may mark it as closing. -/
theorem Kept.stop (kept : Kept run) (scheduled : loop.Scheduled)
    (updated : run.loop.Updated loop handle timer)
    (counter : loop.timerCounter = run.loop.timerCounter)
    (alike : timer.Alike ((run.loop.timer handle).withActive false)) :
    Kept { run with loop := loop, stops := run.ending handle } := by
  refine ⟨scheduled, fun other => closing_update kept updated (fun _ => alike.active) other, ?_⟩
  change FiringsRecorded loop.timer loop.timerCounter loop.time run.firings (run.ending handle)
  rw [counter, updated.time]
  refine (kept.ending handle).quiet fun other => ?_
  rw [updated.timer]
  by_cases same : other = handle
  · rw [same, Function.update_self, Function.update_self]
    exact alike
  · rw [Function.update_of_ne same, Function.update_of_ne same]
    exact .refl _

/-- A call has changed one timer and called no callback. -/
structure Called (run next : TimerRun ν) (handle : ν) (timer : UvTimer) : Prop where
  kept : Kept next
  updated : run.loop.Updated next.loop handle timer
  running : next.running = run.running
  firings : next.firings = run.firings

/-- A step that does nothing keeps everything. -/
theorem Kept.called_self (kept : Kept run) (handle : ν) :
    Called run run handle (run.loop.timer handle) :=
  ⟨kept, ⟨(Function.update_eq_self handle _).symm, rfl⟩, rfl, rfl⟩

/-- Starting a timer that is not closing. -/
theorem act_start_open (few : Fintype.card ν < 2 ^ 32) (kept : Kept run) (fresh : run.Numberable)
    (opened : ¬ (run.loop.timer handle).flags.isClosing = true) :
    ∃ next, run.act (.start handle) = .ok next ∧
      Called run next handle (((run.loop.timer handle).scheduled
        (run.loop.clampedTimeout (run.loop.timer handle).firstTime)
        (run.loop.timer handle).interval run.loop.timerCounter).withActive true) ∧
      next.loop.timerCounter = run.loop.timerCounter + 1 := by
  obtain ⟨loop, starts, scheduled, updated, counter⟩ := TimerLoop.uvTimerStart_scheduled few
    kept.scheduled handle (run.loop.timer handle).firstTime (run.loop.timer handle).interval
  refine ⟨{ run with loop := loop, stops := run.ending handle }, ?_,
    ⟨⟨scheduled, ?_, ?_⟩, updated, rfl, rfl⟩, counter⟩
  · rw [act, TimerLoop.start, if_neg opened, starts]
    rfl
  · intro other
    refine closing_update kept updated (fun closing => ?_) other
    exact absurd closing opened
  · change FiringsRecorded loop.timer loop.timerCounter loop.time run.firings (run.ending handle)
    rw [updated.timer, updated.time, counter,
      ← Function.update_idem ((run.loop.timer handle).withActive false)]
    refine (kept.ending handle).started ?_ rfl rfl ?_ fresh
    · rw [Function.update_self]
      rfl
    · exact TimerLoop.le_clampedTimeout run.loop (run.loop.timer handle).firstTime

/-- `Timer::Start` gives the timer its deadline, or leaves it alone. -/
theorem act_start (few : Fintype.card ν < 2 ^ 32) (kept : Kept run) (fresh : run.Numberable)
    (handle : ν) : ∃ next timer, run.act (.start handle) = .ok next ∧
      Called run next handle timer ∧ (timer.Alike (run.loop.timer handle) ∨
        timer.timeout = run.loop.clampedTimeout (run.loop.timer handle).firstTime) := by
  by_cases closing : (run.loop.timer handle).flags.isClosing = true
  · refine ⟨run, _, ?_, kept.called_self handle, Or.inl (.refl _)⟩
    rw [act, TimerLoop.start, if_pos closing, kept.ending_closing closing]
    rfl
  · obtain ⟨next, starts, called, _⟩ := act_start_open few kept fresh closing
    exact ⟨next, _, starts, called, Or.inr rfl⟩

/-- `Timer::Stop` leaves the timer inactive, if it does anything. -/
theorem act_stop (kept : Kept run) (handle : ν) :
    ∃ next timer, run.act (.stop handle) = .ok next ∧ Called run next handle timer ∧
      (timer.Alike (run.loop.timer handle) ∨ timer.flags.active = false) := by
  by_cases closing : (run.loop.timer handle).flags.isClosing = true
  · refine ⟨run, _, ?_, kept.called_self handle, Or.inl (.refl _)⟩
    rw [act, TimerLoop.stop, if_pos closing, kept.ending_closing closing]
    rfl
  · obtain ⟨loop, stops, scheduled, updated, counter⟩ := TimerLoop.uvTimerStop_scheduled
      kept.scheduled handle
    refine ⟨_, _, ?_, ⟨kept.stop scheduled updated counter (.refl _), updated, rfl, rfl⟩,
      Or.inr rfl⟩
    rw [act, TimerLoop.stop, if_neg closing, stops]
    rfl

/-- So does `Close`. -/
theorem act_close (kept : Kept run) (handle : ν) :
    ∃ next timer, run.act (.close handle) = .ok next ∧ Called run next handle timer ∧
      (timer.Alike (run.loop.timer handle) ∨ timer.flags.active = false) := by
  by_cases closing : (run.loop.timer handle).flags.isClosing = true
  · refine ⟨run, _, ?_, kept.called_self handle, Or.inl (.refl _)⟩
    rw [act, TimerLoop.close, if_pos closing, kept.ending_closing closing]
    rfl
  · let marked := run.loop.setTimer handle ((run.loop.timer handle).withFlags
      { (run.loop.timer handle).flags with closing := true })
    have marks : run.loop.Updated marked handle ((run.loop.timer handle).withFlags
        { (run.loop.timer handle).flags with closing := true }) := ⟨rfl, rfl⟩
    have alike : ((run.loop.timer handle).withFlags
        { (run.loop.timer handle).flags with closing := true }).Alike (run.loop.timer handle) :=
      ⟨rfl, rfl, rfl, rfl⟩
    have scheduled' : marked.Scheduled := kept.scheduled.quiet rfl alike.update
    obtain ⟨loop, stops, scheduled, updated, counter⟩ := TimerLoop.uvTimerStop_scheduled scheduled'
      handle
    have composed : run.loop.Updated loop handle ((marked.timer handle).withActive false) := by
      refine ⟨?_, updated.time⟩
      rw [updated.timer, marks.timer, Function.update_idem]
    have alike' : ((marked.timer handle).withActive false).Alike
        ((run.loop.timer handle).withActive false) := by
      rw [marks.self]
      exact ⟨rfl, rfl, rfl, rfl⟩
    refine ⟨_, _, ?_, ⟨kept.stop scheduled composed counter alike', composed, rfl, rfl⟩,
      Or.inr rfl⟩
    rw [act, TimerLoop.close, if_neg closing]
    change (do
      let loop ← marked.uvTimerStop handle
      pure { run with loop := loop, stops := run.ending handle }) = _
    rw [stops]
    rfl

/-- A call that changes nothing about the schedule. -/
theorem Kept.called (kept : Kept run) (updated : run.loop.Updated loop handle timer)
    (heap : loop.heap = run.loop.heap) (counter : loop.timerCounter = run.loop.timerCounter)
    (alike : timer.Alike (run.loop.timer handle))
    (open_or : timer.flags.isClosing = true → timer.flags.active = false) :
    Called run { run with loop := loop } handle timer :=
  ⟨kept.quiet updated heap counter alike open_or, updated, rfl, rfl⟩

/-- A change of the flags other than that of being active. -/
theorem Kept.setFlags (kept : Kept run) {result : HandleFlags × BitVec 32} {flags : HandleFlags}
    (sets : result.1 = flags) (active : flags.active = (run.loop.timer handle).flags.active)
    (open_or : flags.isClosing = true → flags.active = false) :
    Called run { run with loop := run.loop.setFlags handle result } handle
        ((run.loop.timer handle).withFlags flags) ∧
      ((run.loop.timer handle).withFlags flags).Alike (run.loop.timer handle) := by
  subst sets
  exact ⟨kept.called ⟨rfl, rfl⟩ rfl rfl ⟨active, rfl, rfl, rfl⟩ open_or, active, rfl, rfl, rfl⟩

/-- What a call can do: nothing about the schedule, stop its timer, or start it. The cases are
the calls; those that set a time or a callback are about the next start, and not about the
schedule. -/
theorem act_call (few : Fintype.card ν < 2 ^ 32) (kept : Kept run) {action : TimerAction ν}
    (permits : run.Permits action) {handle : ν} (target : action.target = some handle) :
    ∃ next timer, run.act action = .ok next ∧ Called run next handle timer ∧
      (timer.Alike (run.loop.timer handle) ∨ timer.flags.active = false ∨
        action = .start handle ∧
          timer.timeout = run.loop.clampedTimeout (run.loop.timer handle).firstTime) := by
  cases action with
  | setFirstTime handle t =>
    cases target
    have alike : ({ run.loop.timer handle with firstTime := t } : UvTimer).Alike
        (run.loop.timer handle) := ⟨rfl, rfl, rfl, rfl⟩
    exact ⟨_, _, rfl, kept.called ⟨rfl, rfl⟩ rfl rfl alike (kept.closing handle), Or.inl alike⟩
  | setInterval handle interval =>
    cases target
    have alike : ({ run.loop.timer handle with interval := interval } : UvTimer).Alike
        (run.loop.timer handle) := ⟨rfl, rfl, rfl, rfl⟩
    exact ⟨_, _, rfl, kept.called ⟨rfl, rfl⟩ rfl rfl alike (kept.closing handle), Or.inl alike⟩
  | start handle =>
    cases target
    obtain ⟨next, timer, starts, called, either⟩ := act_start few kept permits handle
    exact ⟨next, timer, starts, called, either.imp id fun due => Or.inr ⟨rfl, due⟩⟩
  | stop handle =>
    cases target
    obtain ⟨next, timer, stops, called, either⟩ := act_stop kept handle
    exact ⟨next, timer, stops, called, either.imp id Or.inl⟩
  | close handle =>
    cases target
    obtain ⟨next, timer, closes, called, either⟩ := act_close kept handle
    exact ⟨next, timer, closes, called, either.imp id Or.inl⟩
  | finishClose handle =>
    cases target
    have inactive := kept.closing handle (by rw [HandleFlags.isClosing, permits.1, Bool.true_or])
    have sets : (({ (run.loop.timer handle).flags with closed := true } : HandleFlags).unreference
        run.loop.activeHandles).1 = _ := HandleFlags.unreference_fst _
    obtain ⟨called, alike⟩ := kept.setFlags sets rfl fun _ => inactive
    exact ⟨_, _, rfl, called, Or.inl alike⟩
  | ref handle =>
    cases target
    by_cases closed : (run.loop.timer handle).flags.closed = true
    · exact ⟨run, _, by rw [act, TimerLoop.ref, if_pos closed]; rfl, kept.called_self handle,
        Or.inl (.refl _)⟩
    · obtain ⟨called, alike⟩ := kept.setFlags (HandleFlags.reference_fst run.loop.activeHandles) rfl
        (kept.closing handle)
      exact ⟨_, _, by rw [act, TimerLoop.ref, if_neg closed]; rfl, called, Or.inl alike⟩
  | unref handle =>
    cases target
    by_cases closed : (run.loop.timer handle).flags.closed = true
    · exact ⟨run, _, by rw [act, TimerLoop.unref, if_pos closed]; rfl, kept.called_self handle,
        Or.inl (.refl _)⟩
    · obtain ⟨called, alike⟩ := kept.setFlags (HandleFlags.unreference_fst run.loop.activeHandles)
        rfl (kept.closing handle)
      exact ⟨_, _, by rw [act, TimerLoop.unref, if_neg closed]; rfl, called, Or.inl alike⟩
  | updateTime time => cases target
  | runTimers => cases target
  | pass => cases target

/-- A pass of `uv__run_timers` stops the first timer that is due, and calls it. If there is
none, the loop over the timers is left, and nothing is recorded. -/
theorem act_pass (few : Fintype.card ν < 2 ^ 32) (kept : Kept run) (fresh : run.Numberable) :
    ∃ next, run.act .pass = .ok next ∧ Kept next := by
  rcases TimerLoop.runTimersPass_scheduled few kept.scheduled with
    ⟨leaves, _⟩ | ⟨handle, loop, takes, active, due, least, scheduled, updated, counter⟩
  · refine ⟨{ run with running := false }, ?_, kept.scheduled, kept.closing, kept.recorded⟩
    rw [act, leaves]
    rfl
  · refine ⟨{ run with loop := loop, firings := run.firings ++ [run.firing handle] }, ?_,
      scheduled, ?_, ?_⟩
    · rw [act, takes]
      rfl
    · refine fun other => closing_update kept updated (fun closing => ?_) other
      have same : (run.loop.elapsed handle).flags.isClosing =
          (run.loop.timer handle).flags.isClosing := by
        rw [TimerLoop.elapsed]
        split <;> rfl
      have inactive := kept.closing handle (same ▸ closing)
      exact absurd active (by rw [inactive]; exact Bool.false_ne_true)
    · have fired := kept.recorded.fired active due least
      change FiringsRecorded loop.timer loop.timerCounter loop.time
        (run.firings ++ [run.firing handle])
        run.stops
      rw [updated.timer, updated.time, counter, TimerLoop.elapsed]
      split
      · rw [← Function.update_idem ((run.loop.timer handle).withActive false)]
        refine FiringsRecorded.started fired ?_ rfl rfl ?_ fresh
        · rw [Function.update_self]
          rfl
        · exact TimerLoop.le_clampedTimeout run.loop (run.loop.timer handle).repeatTime
      · exact fired

/-- Every step keeps the schedule and the record in agreement. -/
theorem act_kept (few : Fintype.card ν < 2 ^ 32) (kept : Kept run) {action : TimerAction ν}
    (permits : run.Permits action) : ∃ next, run.act action = .ok next ∧ Kept next := by
  cases target : action.target with
  | some handle =>
    obtain ⟨next, timer, acts, called, _⟩ := act_call few kept permits target
    exact ⟨next, acts, called.kept⟩
  | none =>
    cases action with
    | updateTime time =>
      exact ⟨_, rfl, kept.scheduled.quiet rfl fun _ => .refl _, kept.closing,
        kept.recorded.tick permits⟩
    | runTimers => exact ⟨_, rfl, kept.scheduled, kept.closing, kept.recorded⟩
    | pass => exact act_pass few kept permits.2
    | _ => cases target

/-- Before the first timer there is nothing to keep. -/
theorem initial_kept [Inhabited ν] (memory : ν → HeapNode ν) (time : BitVec 64) :
    Kept (initial memory time) := by
  have inactive (handle : ν) :
      ((initial memory time).loop.timer handle).flags.active = false := rfl
  refine ⟨⟨?_, fun handle active => ?_⟩, fun handle _ => inactive handle, ?_⟩
  · have none_active : (initial memory time).loop.activeTimers = ∅ :=
      Finset.filter_eq_empty_iff.mpr fun _ _ => Bool.false_ne_true
    rw [none_active]
    exact NodeHeap.init_represents memory
  · exact absurd active Bool.false_ne_true
  · refine ⟨?_, fun handle active => absurd active Bool.false_ne_true,
      fun first _ active => absurd active Bool.false_ne_true, ?_, .nil, ?_, ?_⟩
    · exact fun firing member => absurd member List.not_mem_nil
    · exact fun firing member => absurd member List.not_mem_nil
    · exact fun firing member => absurd member List.not_mem_nil
    · intro number
      have none_pending :
          occurrences (UvTimer.Pending number) (initial memory time).loop.timer = 0 :=
        occurrences_eq_zero.mpr fun _ pending => Bool.false_ne_true pending.1
      have none_begun : ¬ number < (initial memory time).loop.timerCounter := BitVec.not_lt_zero
      rw [outcomes, none_pending, if_neg none_begun]
      rfl

/-- The schedule and the record agree in every run. -/
theorem throughout_kept [Inhabited ν] (few : Fintype.card ν < 2 ^ 32) {memory : ν → HeapNode ν}
    {time : BitVec 64} {actions : List (TimerAction ν)}
    (legal : (timerSystem ν).Legal (initial memory time) actions) :
    (timerSystem ν).Throughout Kept (initial memory time) actions :=
  (timerSystem ν).throughout_of_safe Kept (fun _ _ kept permits => act_kept few kept permits)
    (initial_kept memory time) legal

end TimerRun

end MoeUV