import MoeUV.Failure
import MoeUV.Loop.HandleFlags
import MoeUV.Timers.NodeHeap

/-!
# Timers

A timer that is started goes into the loop's heap with the time at which it is due
and with the number of its start, which decides between timers that are due at the
same time. The loop looks at the smallest one again and again until that is not due
yet; a timer with an interval is started anew before its callback is called.
-/

namespace MoeUV

/-- `uv_timer_t`, and the members of the `Timer` that owns it. -/
structure UvTimer where
  flags : HandleFlags
  /-- `timer_cb` is set. -/
  timerCb : Bool
  timeout : BitVec 64
  repeatTime : BitVec 64
  startId : BitVec 64
  /-- `m_ullFirstTime` -/
  firstTime : BitVec 64
  /-- `m_ullInterval` -/
  interval : BitVec 64

namespace UvTimer

/-- What `uv_timer_init` makes of cleared memory, and the default values of the members of
`Timer`. -/
def uvTimerInit : UvTimer := ⟨.init, false, 0, 0, 0, 0, 0⟩

variable (timer : UvTimer)

def withFlags (flags : HandleFlags) : UvTimer := { timer with flags := flags }

/-- What `uv_timer_start` writes into the handle before it inserts it. -/
def scheduled (timeout repeatTime startId : BitVec 64) : UvTimer :=
  { timer with timerCb := true, timeout := timeout, repeatTime := repeatTime, startId := startId }

end UvTimer

/-- The parts of `uv_loop_t` that timers use, and the timers in memory. -/
structure TimerLoop (ν : Type) where
  heap : NodeHeap ν
  timer : ν → UvTimer
  time : BitVec 64
  timerCounter : BitVec 64
  activeHandles : BitVec 32

namespace TimerLoop

variable {ν : Type} [DecidableEq ν] (loop : TimerLoop ν) (handle : ν)

def setTimer (timer : UvTimer) : TimerLoop ν :=
  { loop with timer := Function.update loop.timer handle timer }

/-- The result of one of the macros on the flags of a handle. -/
def setFlags (result : HandleFlags × BitVec 32) : TimerLoop ν :=
  { loop.setTimer handle ((loop.timer handle).withFlags result.1) with activeHandles := result.2 }

def uvHandleStart : TimerLoop ν :=
  loop.setFlags handle ((loop.timer handle).flags.start loop.activeHandles)

def uvHandleStop : TimerLoop ν :=
  loop.setFlags handle ((loop.timer handle).flags.stop loop.activeHandles)

def setHeap (heap : NodeHeap ν) : TimerLoop ν := { loop with heap := heap }

/-- `timer_less_than` -/
def timerLessThan (ha hb : ν) : Bool :=
  if (loop.timer ha).timeout < (loop.timer hb).timeout then true
  else if (loop.timer hb).timeout < (loop.timer ha).timeout then false
  else if (loop.timer ha).startId < (loop.timer hb).startId then true
  else false

/-- `uv_timer_stop`, which returns zero in any case. -/
def uvTimerStop : Except HeapFault (TimerLoop ν) :=
  if (loop.timer handle).flags.active = false then pure loop
  else do
    let heap ← loop.heap.remove loop.timerLessThan handle
    pure ((loop.setHeap heap).uvHandleStop handle)

/-- The time at which a timer that is started now is due. -/
def clampedTimeout (timeout : BitVec 64) : BitVec 64 :=
  if loop.time + timeout < timeout then BitVec.allOnes 64 else loop.time + timeout

/-- `uv_timer_start` writes the time and the number into the handle. -/
def arm (timeout repeatTime : BitVec 64) : TimerLoop ν :=
  { loop.setTimer handle ((loop.timer handle).scheduled (loop.clampedTimeout timeout) repeatTime
      loop.timerCounter) with
    timerCounter := loop.timerCounter + 1 }

/-- `uv_timer_start` -/
def uvTimerStart (cb : Bool) (timeout repeatTime : BitVec 64) :
    Except HeapFault (Int × TimerLoop ν) :=
  if cb = false then pure (UV_EINVAL, loop)
  else do
    let loop ← (if (loop.timer handle).flags.active then loop.uvTimerStop handle else pure loop)
    let loop := loop.arm handle timeout repeatTime
    let heap ← loop.heap.insert loop.timerLessThan handle
    pure (0, (loop.setHeap heap).uvHandleStart handle)

/-- `uv_timer_again` -/
def uvTimerAgain : Except HeapFault (Int × TimerLoop ν) :=
  if (loop.timer handle).timerCb = false then pure (UV_EINVAL, loop)
  else if (loop.timer handle).repeatTime ≠ 0 then do
    let loop ← loop.uvTimerStop handle
    let (_, loop) ← loop.uvTimerStart handle (loop.timer handle).timerCb
      (loop.timer handle).repeatTime (loop.timer handle).repeatTime
    pure (0, loop)
  else pure (0, loop)

/-- `uv__next_timeout`, where the difference becomes an `int`. -/
def uvNextTimeout : Int :=
  match loop.heap.min with
  | none => -1
  | some handle =>
    if (loop.timer handle).timeout ≤ loop.time then 0
    else
      let diff := (loop.timer handle).timeout - loop.time
      if 0x7fffffff < diff then 0x7fffffff else diff.toNat

/-- One pass of the loop of `uv__run_timers` up to the call of the callback, or
nothing to call when the loop is left. -/
def runTimersPass : Except HeapFault (Option ν × TimerLoop ν) :=
  match loop.heap.min with
  | none => pure (none, loop)
  | some handle =>
    if loop.time < (loop.timer handle).timeout then pure (none, loop)
    else do
      let loop ← loop.uvTimerStop handle
      let (_, loop) ← loop.uvTimerAgain handle
      pure (some handle, loop)

/-- `uv_close` of a timer, up to the list of closing handles. -/
def uvTimerClose : Except HeapFault (TimerLoop ν) :=
  let timer := loop.timer handle
  (loop.setTimer handle (timer.withFlags { timer.flags with closing := true })).uvTimerStop handle

/-- `Timer::Start`, and whether it returned true. -/
def start : Except HeapFault (Bool × TimerLoop ν) :=
  if (loop.timer handle).flags.isClosing then pure (false, loop)
  else do
    let (_, loop) ← loop.uvTimerStart handle true (loop.timer handle).firstTime
      (loop.timer handle).interval
    pure (true, loop)

/-- `Timer::Stop` -/
def stop : Except HeapFault (TimerLoop ν) :=
  if (loop.timer handle).flags.isClosing then pure loop else loop.uvTimerStop handle

/-- `AsyncHandle::Close` of a timer. -/
def close : Except HeapFault (TimerLoop ν) :=
  if (loop.timer handle).flags.isClosing then pure loop else loop.uvTimerClose handle

/-- `uv__finish_close` of a timer, up to the queue of all handles. -/
def uvFinishClose : TimerLoop ν :=
  let flags := { (loop.timer handle).flags with closed := true }
  loop.setFlags handle (flags.unreference loop.activeHandles)

/-- `AsyncHandle::Ref` of a timer. -/
def ref : TimerLoop ν :=
  if (loop.timer handle).flags.closed then loop
  else loop.setFlags handle ((loop.timer handle).flags.reference loop.activeHandles)

/-- `AsyncHandle::Unref` of a timer. -/
def unref : TimerLoop ν :=
  if (loop.timer handle).flags.closed then loop
  else loop.setFlags handle ((loop.timer handle).flags.unreference loop.activeHandles)

/-- `Timer::SetFirstTime` -/
def setFirstTime (t : BitVec 64) : TimerLoop ν :=
  loop.setTimer handle { loop.timer handle with firstTime := t }

/-- `Timer::SetInterval` -/
def setInterval (interval : BitVec 64) : TimerLoop ν :=
  loop.setTimer handle { loop.timer handle with interval := interval }

end TimerLoop

end MoeUV
