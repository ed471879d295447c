import MoeUV.Timers.NodeHeapRuns
import MoeUV.Timers.Timer
import Mathlib.Data.Fintype.Card
import Mathlib.Data.Prod.Lex

/-!
# The schedule of a loop's timers

The heap of a loop holds the active timers in the order of their times and, for
equal times, of their starts. What the calls do to a timer is said here once: one
timer changes, and the heap follows.
-/

namespace MoeUV

open Foundation.BinaryHeap Foundation.Execution

/-- When a timer is due, and the number of its start. -/
def UvTimer.key (timer : UvTimer) : ℕ ×ₗ ℕ := toLex (timer.timeout.toNat, timer.startId.toNat)

/-- The timer with its handle active, or not. -/
def UvTimer.withActive (timer : UvTimer) (active : Bool) : UvTimer :=
  timer.withFlags { timer.flags with active := active }

/-- A flag that is set to what it is does not change. -/
theorem UvTimer.withActive_self (timer : UvTimer) {active : Bool}
    (same : timer.flags.active = active) : timer.withActive active = timer := by
  subst same
  rfl

/-- The schedule makes no difference between these two states of a timer. -/
structure UvTimer.Alike (timer other : UvTimer) : Prop where
  active : timer.flags.active = other.flags.active
  timerCb : timer.timerCb = other.timerCb
  timeout : timer.timeout = other.timeout
  startId : timer.startId = other.startId

/-- A timer is like itself. -/
theorem UvTimer.Alike.refl (timer : UvTimer) : timer.Alike timer := ⟨rfl, rfl, rfl, rfl⟩

/-- Timers that are alike have the same place in the heap. -/
theorem UvTimer.Alike.key {timer other : UvTimer} (alike : timer.Alike other) :
    timer.key = other.key := by
  rw [UvTimer.key, UvTimer.key, alike.timeout, alike.startId]

/-- One that is written over with one like it makes no difference. -/
theorem UvTimer.Alike.update {ν : Type} [DecidableEq ν] {timer : ν → UvTimer} {handle : ν}
    {entry : UvTimer} (alike : entry.Alike (timer handle)) (other : ν) :
    (Function.update timer handle entry other).Alike (timer other) := by
  by_cases same : other = handle
  · rw [same, Function.update_self]
    exact alike
  · rw [Function.update_of_ne same]
    exact .refl _

namespace TimerLoop

variable {ν : Type} [DecidableEq ν] (loop : TimerLoop ν)

def key (handle : ν) : ℕ ×ₗ ℕ := (loop.timer handle).key

omit [DecidableEq ν] in
/-- The order of libuv is that of the keys: the deadline first, then the order of the starts. -/
theorem timerLessThan_compares (first second : ν) :
    loop.timerLessThan first second = true ↔ loop.key first < loop.key second := by
  simp only [timerLessThan, key, UvTimer.key, Prod.Lex.toLex_lt_toLex, BitVec.lt_def]
  by_cases sooner : (loop.timer first).timeout.toNat < (loop.timer second).timeout.toNat
  · rw [if_pos sooner]
    exact iff_of_true rfl (Or.inl sooner)
  · rw [if_neg sooner]
    by_cases later : (loop.timer second).timeout.toNat < (loop.timer first).timeout.toNat
    · rw [if_pos later]
      exact iff_of_false Bool.false_ne_true (by omega)
    · rw [if_neg later]
      -- The deadlines are the same, so the order of the starts decides.
      by_cases earlier : (loop.timer first).startId.toNat < (loop.timer second).startId.toNat
      · rw [if_pos earlier]
        exact iff_of_true rfl (Or.inr ⟨by omega, earlier⟩)
      · rw [if_neg earlier]
        exact iff_of_false Bool.false_ne_true (by omega)

variable [Fintype ν]

/-- The timers that are active. -/
def activeTimers : Finset ν := Finset.univ.filter fun handle => (loop.timer handle).flags.active

/-- The heap holds the active timers, and these have callbacks. -/
structure Scheduled (loop : TimerLoop ν) : Prop where
  heap : loop.heap.Represents loop.key loop.activeTimers
  callback : ∀ handle, (loop.timer handle).flags.active = true →
    (loop.timer handle).timerCb = true

/-- One timer has changed. -/
structure Updated (loop next : TimerLoop ν) (handle : ν) (timer : UvTimer) : Prop where
  timer : next.timer = Function.update loop.timer handle timer
  time : next.time = loop.time

variable {loop} {next : TimerLoop ν} {handle : ν}

omit [DecidableEq ν] in
/-- The active timers are those that have the flag. -/
theorem mem_activeTimers :
    handle ∈ loop.activeTimers ↔ (loop.timer handle).flags.active = true := by
  rw [activeTimers, Finset.mem_filter]
  exact and_iff_right (Finset.mem_univ handle)

/-- The smallest timer of the heap. -/
theorem Scheduled.min_least (scheduled : Scheduled loop) (least : loop.heap.min = some handle) :
    (loop.timer handle).flags.active = true ∧
      ∀ other, (loop.timer other).flags.active = true → loop.key handle ≤ loop.key other := by
  obtain ⟨member, smallest⟩ := scheduled.heap.min_least least
  exact ⟨mem_activeTimers.mp member,
    fun other active => smallest other (mem_activeTimers.mpr active)⟩

/-- Without a smallest timer there is no active one. -/
theorem Scheduled.min_none (scheduled : Scheduled loop) (empty : loop.heap.min = none) (other : ν) :
    (loop.timer other).flags.active = false := by
  have none_active := scheduled.heap.min_eq_none.mp empty
  rw [← Bool.not_eq_true, ← mem_activeTimers, none_active]
  exact Finset.notMem_empty other

section Flags

omit [Fintype ν]
variable (loop) (handle)

/-- `uv__handle_start` sets the flag of its handle and of no other, -/
theorem uvHandleStart_timer : (loop.uvHandleStart handle).timer =
    Function.update loop.timer handle ((loop.timer handle).withActive true) := by
  change Function.update loop.timer handle _ = _
  rw [HandleFlags.start_fst]
  rfl

/-- and `uv__handle_stop` clears it. -/
theorem uvHandleStop_timer : (loop.uvHandleStop handle).timer =
    Function.update loop.timer handle ((loop.timer handle).withActive false) := by
  change Function.update loop.timer handle _ = _
  rw [HandleFlags.stop_fst]
  rfl

end Flags

section Updates

variable {timer : UvTimer}

omit [Fintype ν] in
/-- The timer has what was written, -/
theorem Updated.self (updated : Updated loop next handle timer) : next.timer handle = timer := by
  rw [updated.timer, Function.update_self]

omit [Fintype ν] in
/-- and the others have what they had. -/
theorem Updated.other (updated : Updated loop next handle timer) {other : ν}
    (apart : other ≠ handle) : next.timer other = loop.timer other := by
  rw [updated.timer, Function.update_of_ne apart]

/-- It is among the active ones exactly when it is active now. -/
theorem Updated.activeTimers (updated : Updated loop next handle timer) :
    next.activeTimers = if timer.flags.active then insert handle loop.activeTimers
      else loop.activeTimers.erase handle := by
  ext other
  rw [mem_activeTimers]
  by_cases same : other = handle
  · subst same
    rw [updated.self]
    split <;> simp_all
  · rw [updated.other same, ← mem_activeTimers]
    split
    · rw [Finset.mem_insert, or_iff_right same]
    · rw [Finset.mem_erase, and_iff_right same]

/-- A heap that is left alone is right as long as the keys stay. -/
theorem Scheduled.quiet (scheduled : Scheduled loop) (heap : next.heap = loop.heap)
    (alike : ∀ other, (next.timer other).Alike (loop.timer other)) : Scheduled next := by
  constructor
  · have active : next.activeTimers = loop.activeTimers := by
      ext other
      rw [mem_activeTimers, mem_activeTimers, (alike other).active]
    rw [heap, active]
    exact scheduled.heap.congr fun other _ => (alike other).key
  · intro other
    rw [(alike other).active, (alike other).timerCb]
    exact scheduled.callback other

/-- A timer that is not active any more has left the schedule. -/
theorem Scheduled.leave (scheduled : Scheduled loop)
    (updated : Updated loop next handle ((loop.timer handle).withActive false))
    (heap : next.heap.Represents loop.key (loop.activeTimers.erase handle)) :
    Scheduled next := by
  have before {other : ν} (active : (next.timer other).flags.active = true) :
      next.timer other = loop.timer other := by
    refine updated.other ?_
    rintro rfl
    rw [updated.self] at active
    cases active
  constructor
  · have inactive : ¬ ((loop.timer handle).withActive false).flags.active = true :=
      Bool.false_ne_true
    rw [updated.activeTimers, if_neg inactive]
    refine heap.congr fun other member => ?_
    rw [key, key, updated.other (Finset.ne_of_mem_erase member)]
  · intro other active
    have same := before active
    rw [same] at active ⊢
    exact scheduled.callback other active

/-- A timer that has become active has joined the schedule. -/
theorem Scheduled.join (scheduled : Scheduled loop) (updated : Updated loop next handle timer)
    (active : timer.flags.active = true) (callback : timer.timerCb = true)
    (heap : next.heap.Represents next.key (insert handle loop.activeTimers)) : Scheduled next := by
  constructor
  · rwa [updated.activeTimers, if_pos active]
  · intro other active'
    by_cases same : other = handle
    · rw [same, updated.self]
      exact callback
    · rw [updated.other same] at active' ⊢
      exact scheduled.callback other active'

end Updates

section Calls

/-- `uv_timer_stop` makes the timer inactive. -/
theorem uvTimerStop_scheduled (scheduled : Scheduled loop) (handle : ν) :
    ∃ next, loop.uvTimerStop handle = .ok next ∧ Scheduled next ∧
      Updated loop next handle ((loop.timer handle).withActive false) ∧
      next.timerCounter = loop.timerCounter := by
  rw [uvTimerStop]
  by_cases active : (loop.timer handle).flags.active = true
  · obtain ⟨heap, removed, ends⟩ := NodeHeap.remove_represents loop.timerLessThan_compares
      scheduled.heap (mem_activeTimers.mpr active)
    have updated : Updated loop ((loop.setHeap heap).uvHandleStop handle) handle
        ((loop.timer handle).withActive false) := by
      exact ⟨uvHandleStop_timer _ handle, rfl⟩
    rw [if_neg (by rw [active]; exact Bool.noConfusion), removed, ok_bind]
    exact ⟨_, rfl, scheduled.leave updated ends, updated, rfl⟩
  · rw [Bool.not_eq_true] at active
    rw [if_pos active]
    refine ⟨loop, rfl, scheduled, ⟨?_, rfl⟩, rfl⟩
    rw [UvTimer.withActive_self _ active, Function.update_eq_self]

omit [DecidableEq ν] [Fintype ν] in
/-- A timer that is started now is not due earlier, and not before now. -/
theorem le_clampedTimeout (loop : TimerLoop ν) (timeout : BitVec 64) :
    loop.time ≤ loop.clampedTimeout timeout := by
  have one := loop.time.isLt
  have two := timeout.isLt
  rw [clampedTimeout, BitVec.le_def]
  split
  · rw [BitVec.toNat_allOnes]
    omega
  · rename_i fits
    rw [BitVec.lt_def, BitVec.toNat_add] at fits
    rw [BitVec.toNat_add]
    omega

omit [DecidableEq ν] [Fintype ν] in
/-- A deadline depends on the time of the loop only. -/
theorem clampedTimeout_congr (same : next.time = loop.time) (timeout : BitVec 64) :
    next.clampedTimeout timeout = loop.clampedTimeout timeout := by
  rw [clampedTimeout, clampedTimeout, same]

/-- `uv_timer_start` gives the timer a time and the next number. It is stopped before if it was
active, so it is in the heap once, at the place for its new time. -/
theorem uvTimerStart_scheduled (few : Fintype.card ν < 2 ^ 32) (scheduled : Scheduled loop)
    (handle : ν) (timeout repeatTime : BitVec 64) :
    ∃ next, loop.uvTimerStart handle true timeout repeatTime = .ok (0, next) ∧ Scheduled next ∧
      Updated loop next handle (((loop.timer handle).scheduled (loop.clampedTimeout timeout)
        repeatTime loop.timerCounter).withActive true) ∧
      next.timerCounter = loop.timerCounter + 1 := by
  obtain ⟨stopped, stops, scheduled', updated', counted'⟩ := uvTimerStop_scheduled scheduled handle
  have first : (if (loop.timer handle).flags.active then loop.uvTimerStop handle else pure loop) =
      .ok stopped := by
    rw [← stops, uvTimerStop]
    cases (loop.timer handle).flags.active <;> rfl
  have inactive : handle ∉ stopped.activeTimers := by
    rw [mem_activeTimers, updated'.self]
    exact Bool.false_ne_true
  have room : stopped.activeTimers.card + 1 < 2 ^ 32 := by
    rw [← Finset.card_insert_of_notMem inactive]
    exact Nat.lt_of_le_of_lt (Finset.card_le_univ _) few
  have clamped := clampedTimeout_congr updated'.time timeout
  have content : (stopped.timer handle).scheduled (stopped.clampedTimeout timeout) repeatTime
      stopped.timerCounter = ((loop.timer handle).scheduled (loop.clampedTimeout timeout) repeatTime
        loop.timerCounter).withActive false := by
    rw [updated'.self, clamped, counted']
    rfl
  have armed : Updated stopped (stopped.arm handle timeout repeatTime) handle
      (((loop.timer handle).scheduled (loop.clampedTimeout timeout) repeatTime
        loop.timerCounter).withActive false) := by
    refine ⟨?_, rfl⟩
    rw [← content]
    rfl
  have represented : (stopped.arm handle timeout repeatTime).heap.Represents
      (stopped.arm handle timeout repeatTime).key stopped.activeTimers := by
    refine scheduled'.heap.congr fun other member => ?_
    rw [key, key, armed.other]
    rintro rfl
    exact inactive member
  obtain ⟨heap, inserted, ends⟩ := NodeHeap.insert_represents
    (stopped.arm handle timeout repeatTime).timerLessThan_compares represented inactive room
  have final : Updated stopped
      (((stopped.arm handle timeout repeatTime).setHeap heap).uvHandleStart handle) handle
      (((loop.timer handle).scheduled (loop.clampedTimeout timeout) repeatTime
        loop.timerCounter).withActive true) := by
    refine ⟨?_, rfl⟩
    rw [uvHandleStart_timer]
    change Function.update (stopped.arm handle timeout repeatTime).timer handle
      (((stopped.arm handle timeout repeatTime).timer handle).withActive true) = _
    rw [armed.self, armed.timer, Function.update_idem]
    rfl
  refine ⟨_, ?_, ?_, ⟨?_, final.time.trans updated'.time⟩, ?_⟩
  · rw [uvTimerStart, if_neg (by decide), first, ok_bind]
    dsimp only
    rw [inserted]
    rfl
  · refine scheduled'.join final rfl rfl
      (ends.congr fun other member => ?_)
    by_cases same : other = handle
    · rw [same, key, key, final.self, armed.self]
      rfl
    · rw [key, key, final.other same, armed.other same]
  · rw [final.timer, updated'.timer, Function.update_idem]
  · exact congrArg (· + 1) counted'

/-- `uv_timer_again` starts a timer that has an interval once more. -/
theorem uvTimerAgain_scheduled (few : Fintype.card ν < 2 ^ 32) (scheduled : Scheduled loop)
    {handle : ν} (callback : (loop.timer handle).timerCb = true)
    (repeats : (loop.timer handle).repeatTime ≠ 0) :
    ∃ next, loop.uvTimerAgain handle = .ok (0, next) ∧ Scheduled next ∧
      Updated loop next handle (((loop.timer handle).scheduled
        (loop.clampedTimeout (loop.timer handle).repeatTime) (loop.timer handle).repeatTime
        loop.timerCounter).withActive true) ∧
      next.timerCounter = loop.timerCounter + 1 := by
  obtain ⟨stopped, stops, scheduled', updated', counted'⟩ := uvTimerStop_scheduled scheduled handle
  have kept : (stopped.timer handle).timerCb = true ∧
      (stopped.timer handle).repeatTime = (loop.timer handle).repeatTime := by
    rw [updated'.self]
    exact ⟨callback, rfl⟩
  obtain ⟨next, starts, ends, updated, counted⟩ := uvTimerStart_scheduled few scheduled'
    handle (loop.timer handle).repeatTime (loop.timer handle).repeatTime
  refine ⟨next, ?_, ends, ⟨?_, updated.time.trans updated'.time⟩, counted.trans (counted' ▸ rfl)⟩
  · rw [uvTimerAgain, callback, if_neg (by decide), if_pos repeats, stops, ok_bind, kept.1, kept.2,
      starts]
    rfl
  · rw [updated.timer, updated'.timer, Function.update_self, Function.update_idem,
      clampedTimeout_congr updated'.time, counted']
    rfl

/-- A timer after its time has come: it is started again if it has an interval. -/
def elapsed (loop : TimerLoop ν) (handle : ν) : UvTimer :=
  if (loop.timer handle).repeatTime ≠ 0 then
    ((loop.timer handle).scheduled (loop.clampedTimeout (loop.timer handle).repeatTime)
      (loop.timer handle).repeatTime loop.timerCounter).withActive true
  else (loop.timer handle).withActive false

/-- A pass of `uv__run_timers` leaves the loop when no timer is due, and otherwise takes
the first of those that are. -/
theorem runTimersPass_scheduled (few : Fintype.card ν < 2 ^ 32) (scheduled : Scheduled loop) :
    (loop.runTimersPass = .ok (none, loop) ∧ ∀ handle, (loop.timer handle).flags.active = true →
      loop.time < (loop.timer handle).timeout) ∨
    ∃ handle next, loop.runTimersPass = .ok (some handle, next) ∧
      (loop.timer handle).flags.active = true ∧ (loop.timer handle).timeout ≤ loop.time ∧
      (∀ other, (loop.timer other).flags.active = true → loop.key handle ≤ loop.key other) ∧
      Scheduled next ∧ Updated loop next handle (loop.elapsed handle) ∧
      next.timerCounter =
        if (loop.timer handle).repeatTime ≠ 0 then loop.timerCounter + 1
        else loop.timerCounter := by
  cases empty : loop.heap.min with
  | none =>
    refine Or.inl ⟨by rw [runTimersPass, empty]; rfl, fun handle active => ?_⟩
    rw [scheduled.min_none empty handle] at active
    cases active
  | some handle =>
    obtain ⟨active, least⟩ := scheduled.min_least empty
    by_cases later : loop.time < (loop.timer handle).timeout
    · refine Or.inl ⟨by rw [runTimersPass, empty]; exact if_pos later, fun other active => ?_⟩
      have before := least other active
      simp only [key, UvTimer.key, Prod.Lex.toLex_le_toLex] at before
      rw [BitVec.lt_def] at later ⊢
      omega
    · obtain ⟨stopped, stops, scheduled', updated', counted'⟩ :=
        uvTimerStop_scheduled scheduled handle
      have callback : (stopped.timer handle).timerCb = true := by
        rw [updated'.self]
        exact scheduled.callback handle active
      have interval : (stopped.timer handle).repeatTime = (loop.timer handle).repeatTime := by
        rw [updated'.self]
        rfl
      have due := BitVec.not_lt.mp later
      right
      by_cases again : (loop.timer handle).repeatTime = 0
      · refine ⟨handle, stopped, ?_, active, due, least, scheduled', ?_, ?_⟩
        · rw [runTimersPass, empty]
          dsimp only
          rw [if_neg later, stops, ok_bind, uvTimerAgain, callback, if_neg (by decide), interval,
            if_neg (not_not.mpr again)]
          rfl
        · rw [elapsed, if_neg (not_not.mpr again)]
          exact updated'
        · rw [if_neg (not_not.mpr again)]
          exact counted'
      · obtain ⟨next, starts, ends, updated, counted⟩ := uvTimerAgain_scheduled few scheduled'
          callback (interval ▸ again)
        refine ⟨handle, next, ?_, active, due, least, ends, ⟨?_, ?_⟩, ?_⟩
        · rw [runTimersPass, empty]
          dsimp only
          rw [if_neg later, stops, ok_bind, starts]
          rfl
        · rw [elapsed, if_pos again, updated.timer, interval, clampedTimeout_congr updated'.time,
            counted', updated'.timer, Function.update_self, Function.update_idem]
          rfl
        · exact updated.time.trans updated'.time
        · rw [if_pos again, counted, counted']

end Calls

end TimerLoop

end MoeUV
