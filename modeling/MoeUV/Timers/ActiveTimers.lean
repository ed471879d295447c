import Mathlib.Algebra.BigOperators.Ring.Finset
import Mathlib.Data.BitVec
import MoeUV.Foundation.Counting
import MoeUV.Timers.Punctual

/-!
# The number of active timers

A loop is alive as long as it has active handles that are referenced. It does not look for
them but keeps their number, which every start, stop, reference and close adjusts. Behind
`uv_close` a handle is not active any more, so what becomes of its reference then, and that
`uv__finish_close` takes it away, does not count.
-/

namespace MoeUV

open Foundation.Counting
open Foundation.Execution

variable {ν : Type} [DecidableEq ν] [Fintype ν]

namespace TimerLoop

variable {loop next : TimerLoop ν} {handle : ν}

/-- The loop has the number of its active timers that are referenced. -/
def Counted (loop : TimerLoop ν) : Prop :=
  loop.activeHandles = ∑ handle, (loop.timer handle).flags.weight

/-- The counter is right when it changes by as much as the flags of the handle weigh more or less.
-/
theorem Counted.setFlags (counted : loop.Counted) {result : HandleFlags × BitVec 32}
    (balance : result.2 =
      loop.activeHandles - (loop.timer handle).flags.weight + result.1.weight) :
    (loop.setFlags handle result).Counted := by
  have sum := sum_update (fun timer : UvTimer => timer.flags.weight) loop.timer handle
    ((loop.timer handle).withFlags result.1)
  dsimp only [UvTimer.withFlags] at sum
  rw [Counted, TimerLoop.setFlags, TimerLoop.setTimer, balance, counted]
  dsimp only [UvTimer.withFlags]
  rw [sub_add_eq_add_sub, ← sum, add_sub_cancel_right]

/-- A change that leaves the flags alone, or one that does not count. -/
theorem Counted.setTimer (counted : loop.Counted) {timer : UvTimer}
    (same : timer.flags.weight = (loop.timer handle).flags.weight) :
    (loop.setTimer handle timer).Counted := by
  have sum := sum_update (fun timer : UvTimer => timer.flags.weight) loop.timer handle timer
  rw [same] at sum
  rw [Counted, TimerLoop.setTimer, add_right_cancel sum]
  exact counted

/-- Stopping a timer keeps the counter right, -/
theorem Counted.uvTimerStop (counted : loop.Counted)
    (stopped : loop.uvTimerStop handle = .ok next) : next.Counted := by
  rw [TimerLoop.uvTimerStop] at stopped
  split at stopped
  · cases stopped
    exact counted
  · obtain ⟨heap, _, result⟩ := bind_ok_iff.mp stopped
    cases result
    have still : (loop.setHeap heap).Counted := counted
    exact still.setFlags (HandleFlags.stop_snd _)

/-- starting it does, -/
theorem Counted.uvTimerStart (counted : loop.Counted) {cb : Bool} {timeout repeatTime : BitVec 64}
    {code : Int} (started : loop.uvTimerStart handle cb timeout repeatTime = .ok (code, next)) :
    next.Counted := by
  rw [TimerLoop.uvTimerStart] at started
  split at started
  · cases started
    exact counted
  · obtain ⟨idle, stopped, started⟩ := bind_ok_iff.mp started
    have counted : idle.Counted := by
      split at stopped
      · exact counted.uvTimerStop stopped
      · cases stopped
        exact counted
    obtain ⟨heap, _, result⟩ := bind_ok_iff.mp started
    cases result
    have still : ((idle.arm handle timeout repeatTime).setHeap heap).Counted := by
      have armed : (idle.setTimer handle ((idle.timer handle).scheduled
        (idle.clampedTimeout timeout) repeatTime idle.timerCounter)).Counted :=
          counted.setTimer rfl
      exact armed
    exact still.setFlags (HandleFlags.start_snd _)

/-- and so does starting it again. -/
theorem Counted.uvTimerAgain (counted : loop.Counted) {code : Int}
    (again : loop.uvTimerAgain handle = .ok (code, next)) : next.Counted := by
  rw [TimerLoop.uvTimerAgain] at again
  split at again
  · cases again
    exact counted
  · split at again
    · obtain ⟨idle, stopped, again⟩ := bind_ok_iff.mp again
      obtain ⟨⟨code, armed⟩, started, result⟩ := bind_ok_iff.mp again
      cases result
      exact (counted.uvTimerStop stopped).uvTimerStart started
    · cases again
      exact counted

/-- A pass stops the first timer that is due, and starts it again when it repeats. -/
theorem Counted.runTimersPass (counted : loop.Counted) {fired : Option ν}
    (passed : loop.runTimersPass = .ok (fired, next)) : next.Counted := by
  rw [TimerLoop.runTimersPass] at passed
  split at passed
  · cases passed
    exact counted
  · split at passed
    · cases passed
      exact counted
    · obtain ⟨idle, stopped, passed⟩ := bind_ok_iff.mp passed
      obtain ⟨⟨code, armed⟩, again, result⟩ := bind_ok_iff.mp passed
      cases result
      exact (counted.uvTimerStop stopped).uvTimerAgain again

/-- `Timer::Start` starts the timer of libuv, or does nothing, -/
theorem Counted.start (counted : loop.Counted) {opened : Bool}
    (started : loop.start handle = .ok (opened, next)) : next.Counted := by
  rw [TimerLoop.start] at started
  split at started
  · cases started
    exact counted
  · obtain ⟨⟨code, armed⟩, started, result⟩ := bind_ok_iff.mp started
    cases result
    exact counted.uvTimerStart started

/-- and `Timer::Stop` stops it. -/
theorem Counted.stop (counted : loop.Counted) (stopped : loop.stop handle = .ok next) :
    next.Counted := by
  rw [TimerLoop.stop] at stopped
  split at stopped
  · cases stopped
    exact counted
  · exact counted.uvTimerStop stopped

/-- `uv_close` marks the handle before it is stopped, and it counts until then. -/
theorem Counted.close (counted : loop.Counted) (closed : loop.close handle = .ok next) :
    next.Counted := by
  rw [TimerLoop.close] at closed
  split at closed
  · cases closed
    exact counted
  · have marked : (loop.setTimer handle ((loop.timer handle).withFlags
        { (loop.timer handle).flags with closing := true })).Counted := counted.setTimer rfl
    exact marked.uvTimerStop closed

/-- A reference counts when the timer is active, and not when it was there before. -/
theorem Counted.ref (counted : loop.Counted)
    (still : (loop.timer handle).flags.closing = true →
      (loop.timer handle).flags.active = false) : (loop.ref handle).Counted := by
  rw [TimerLoop.ref]
  split
  · exact counted
  · exact counted.setFlags (HandleFlags.reference_snd _ still)

/-- So it is when it is taken away. -/
theorem Counted.unref (counted : loop.Counted)
    (still : (loop.timer handle).flags.closing = true →
      (loop.timer handle).flags.active = false) : (loop.unref handle).Counted := by
  rw [TimerLoop.unref]
  split
  · exact counted
  · exact counted.setFlags (HandleFlags.unreference_snd _ still)

/-- A timer that is closed is not active and counts nothing. -/
theorem Counted.uvFinishClose (counted : loop.Counted)
    (still : (loop.timer handle).flags.closing = true →
      (loop.timer handle).flags.active = false) : (loop.uvFinishClose handle).Counted := by
  let flags := { (loop.timer handle).flags with closed := true }
  have balance : (flags.unreference loop.activeHandles).2 = loop.activeHandles - flags.weight +
      (flags.unreference loop.activeHandles).1.weight := HandleFlags.unreference_snd _ still
  exact counted.setFlags balance

end TimerLoop

namespace TimerRun

variable {run next : TimerRun ν}

/-- Each step keeps the counter right. -/
theorem act_counted (kept : Kept run) (counted : run.loop.Counted) {action : TimerAction ν}
    (acts : run.act action = .ok next) : next.loop.Counted := by
  have still (handle : ν) (closing : (run.loop.timer handle).flags.closing = true) :
      (run.loop.timer handle).flags.active = false := by
    refine kept.closing handle ?_
    rw [HandleFlags.isClosing, closing, Bool.true_or]
  cases action with
  | setFirstTime handle t =>
    cases acts
    exact counted.setTimer rfl
  | setInterval handle interval =>
    cases acts
    exact counted.setTimer rfl
  | start handle =>
    obtain ⟨⟨opened, loop⟩, started, result⟩ := bind_ok_iff.mp acts
    cases result
    exact counted.start started
  | stop handle =>
    obtain ⟨loop, stopped, result⟩ := bind_ok_iff.mp acts
    cases result
    exact counted.stop stopped
  | close handle =>
    obtain ⟨loop, closed, result⟩ := bind_ok_iff.mp acts
    cases result
    exact counted.close closed
  | finishClose handle =>
    cases acts
    exact counted.uvFinishClose (still handle)
  | ref handle =>
    cases acts
    exact counted.ref (still handle)
  | unref handle =>
    cases acts
    exact counted.unref (still handle)
  | updateTime time =>
    cases acts
    exact counted
  | runTimers =>
    cases acts
    exact counted
  | pass =>
    obtain ⟨⟨fired, loop⟩, passed, result⟩ := bind_ok_iff.mp acts
    cases fired <;> cases result
    all_goals exact counted.runTimersPass passed

omit [DecidableEq ν] in
/-- Before the first timer is there the counter is 0. -/
theorem initial_counted [Inhabited ν] (memory : ν → HeapNode ν) (time : BitVec 64) :
    (initial memory time).loop.Counted := by
  refine (Finset.sum_eq_zero ?_).symm
  intro handle _
  rfl

omit [DecidableEq ν] in
/-- The number is not cut by its 32 bits. -/
theorem counted_card (few : Fintype.card ν < 2 ^ 32) (counted : run.loop.Counted) :
    run.loop.activeHandles.toNat = (Finset.univ.filter fun handle =>
      (run.loop.timer handle).flags.active = true ∧
        (run.loop.timer handle).flags.ref = true).card := by
  have most := Finset.card_le_univ (Finset.univ.filter fun handle =>
    (run.loop.timer handle).flags.active = true ∧ (run.loop.timer handle).flags.ref = true)
  rw [counted]
  simp only [HandleFlags.weight, Finset.sum_boole, BitVec.natCast_eq_ofNat, BitVec.toNat_ofNat]
  exact Nat.mod_eq_of_lt (by omega)

/-- In whichever order timers are started, stopped, referenced and closed, the loop is alive
for as long as a timer is active and referenced. -/
theorem timers_counted [Inhabited ν] (few : Fintype.card ν < 2 ^ 32) (memory : ν → HeapNode ν)
    (time : BitVec 64) (actions : List (TimerAction ν))
    (legal : (timerSystem ν).Legal (initial memory time) actions) :
    (timerSystem ν).Throughout (fun run => run.loop.activeHandles.toNat =
      (Finset.univ.filter fun handle => (run.loop.timer handle).flags.active = true ∧
        (run.loop.timer handle).flags.ref = true).card) (initial memory time) actions := by
  have both : (timerSystem ν).Throughout (fun run => Kept run ∧ run.loop.Counted)
      (initial memory time) actions := by
    refine (timerSystem ν).throughout_of_safe _ ?_
      ⟨initial_kept memory time, initial_counted memory time⟩ legal
    rintro run action ⟨kept, counted⟩ permits
    obtain ⟨next, acts, kept'⟩ := act_kept few kept permits
    exact ⟨next, acts, kept', act_counted kept counted acts⟩
  refine System.Throughout.mono _ ?_ both
  rintro run ⟨_, counted⟩
  exact counted_card few counted

/-- Three timers, of which one is not referenced. -/
theorem timers_counted_three : (timerSystem (Fin 3)).Throughout
    (fun run => run.loop.activeHandles.toNat =
      (Finset.univ.filter fun handle => (run.loop.timer handle).flags.active = true ∧
        (run.loop.timer handle).flags.ref = true).card) (initial blank 100) threeTimers :=
  timers_counted (by decide) blank 100 threeTimers threeTimers_legal

end TimerRun

end MoeUV
