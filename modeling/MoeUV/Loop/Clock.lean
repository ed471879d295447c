import MoeUV.Failure
import MoeUV.Foundation.Execution
import Mathlib.Algebra.Group.Nat.Defs

/-!
# The clock of a thread

`RunLoop::Now` promises the number of milliseconds on a clock. A thread with a
loop is shown the time that the loop has cached, which is a clock reading divided
by a million. A thread without a loop is shown the clock itself, and this counts
nanoseconds.

The steps of a thread are the calls to its loop, the looks that a running loop
takes at the clock, and the passing of time in between. The values that `Now`
returned are recorded with the clock at the call. No step reads the record.
-/

namespace MoeUV

open Foundation.Execution

/-- `uv__update_time`: a clock reading as libuv caches it. -/
def milliseconds (hrtime : BitVec 64) : BitVec 64 := hrtime / 1000000

structure ThreadClock where
  /-- The monotonic clock of the system, `uv_hrtime`. -/
  hrtime : BitVec 64
  /-- The time that the current loop of the thread has cached, `uv_now`. -/
  current : Option (BitVec 64)
  /-- The values of `Now`, and the clock at each call. -/
  readings : List (BitVec 64 × BitVec 64)

namespace ThreadClock

def initial (hrtime : BitVec 64) : ThreadClock := ⟨hrtime, none, []⟩

variable (thread : ThreadClock)

/-- `RunLoop::Now`. -/
def now : BitVec 64 :=
  match thread.current with
  | none => thread.hrtime
  | some time => time

/-- The loop looks at the clock, as it does when it is made, in each iteration and
for `UpdateTime`. -/
def uvUpdateTime : ThreadClock := { thread with current := some (milliseconds thread.hrtime) }

/-- `RunLoop::RunLoop` of a loop of its own; `code` is the one of `uv_loop_init`. -/
def construct (code : Int) : Outcome × ThreadClock :=
  if thread.current.isSome then
    (.threw (.invalidCall "RunLoop is already existed"), thread)
  else if code < 0 then (.threw (uvThrow code), thread)
  else (.returned, thread.uvUpdateTime)

/-- The end of `RunLoop::~RunLoop`. -/
def destroy : ThreadClock := { thread with current := none }

end ThreadClock

/-- What happens on a thread. `Run` and `RunOnce` consist of iterations, with
other steps while the loop waits and in its callbacks; so does the destructor
before its end. -/
inductive ClockAction where
  | pass (hrtime : BitVec 64)
  | construct (code : Int)
  | iterate
  | updateTime
  | destroy
  | now

def ClockAction.run (thread : ThreadClock) : ClockAction → ThreadClock
  | .pass hrtime => { thread with hrtime := hrtime }
  | .construct code => (thread.construct code).2
  | .iterate | .updateTime => thread.uvUpdateTime
  | .destroy => thread.destroy
  | .now => { thread with readings := thread.readings ++ [(thread.now, thread.hrtime)] }

/-- The clock does not go back, and the members are called on a loop. -/
def ClockAction.Enabled (thread : ThreadClock) : ClockAction → Prop
  | .pass hrtime => thread.hrtime ≤ hrtime
  | .iterate | .updateTime | .destroy => thread.current.isSome = true
  | .construct _ | .now => True

def clockSystem : System ThreadClock ClockAction Empty where
  enabled thread action := action.Enabled thread
  step thread action := .ok (action.run thread)

instance (thread : ThreadClock) : (action : ClockAction) →
    Decidable (clockSystem.enabled thread action)
  | .pass hrtime => inferInstanceAs (Decidable (thread.hrtime ≤ hrtime))
  | .iterate | .updateTime | .destroy => inferInstanceAs (Decidable (thread.current.isSome = true))
  | .construct _ | .now => inferInstanceAs (Decidable True)

section Specification

/-- A number of milliseconds that the clock showed, not later than it shows now. -/
def Shown (hrtime value : BitVec 64) : Prop :=
  ∃ earlier, earlier ≤ hrtime ∧ value = milliseconds earlier

/-- The values of `Now` never decrease, and each is a number of milliseconds. -/
structure Chronological (thread : ThreadClock) : Prop where
  increasing : thread.readings.Pairwise (fun earlier later => earlier.1 ≤ later.1)
  shown : ∀ reading ∈ thread.readings, Shown reading.2 reading.1

/-- Not a call of `Now` without a loop, unless the clock is at its beginning. -/
def ClockAction.Dated (thread : ThreadClock) : ClockAction → Prop
  | .now => thread.current.isSome = true ∨ thread.hrtime = 0
  | _ => True

instance (thread : ThreadClock) : (action : ClockAction) → Decidable (action.Dated thread)
  | .now => inferInstanceAs (Decidable (thread.current.isSome = true ∨ thread.hrtime = 0))
  | .pass _ | .construct _ | .iterate | .updateTime | .destroy => inferInstanceAs (Decidable True)

end Specification

section Readings

variable {hrtime next value : BitVec 64}

/-- The time of the loop is that of the system in milliseconds, rounded down. -/
theorem toNat_milliseconds (hrtime : BitVec 64) :
    (milliseconds hrtime).toNat = hrtime.toNat / 1000000 := BitVec.toNat_udiv

/-- It does not go back when the time of the system does not. -/
theorem milliseconds_mono (passed : hrtime ≤ next) : milliseconds hrtime ≤ milliseconds next := by
  rw [BitVec.le_def] at passed ⊢
  rw [toNat_milliseconds, toNat_milliseconds]
  exact Nat.div_le_div_right passed

/-- What is shown is never ahead of the clock, -/
theorem Shown.le (shown : Shown hrtime value) : value ≤ milliseconds hrtime := by
  obtain ⟨earlier, passed, rfl⟩ := shown
  exact milliseconds_mono passed

/-- and stays so as time passes. -/
theorem Shown.later (shown : Shown hrtime value) (passed : hrtime ≤ next) : Shown next value := by
  obtain ⟨earlier, before, same⟩ := shown
  exact ⟨earlier, BitVec.le_trans before passed, same⟩

/-- The clock itself may be shown. -/
theorem shown_milliseconds (hrtime : BitVec 64) : Shown hrtime (milliseconds hrtime) :=
  ⟨hrtime, BitVec.le_refl _, rfl⟩

/-- A clock reading is a number of milliseconds only at the beginning. -/
theorem shown_self_iff : Shown hrtime hrtime ↔ hrtime = 0 := by
  constructor
  · intro shown
    have below := shown.le
    rw [BitVec.le_def, toNat_milliseconds] at below
    apply BitVec.eq_of_toNat_eq
    change hrtime.toNat = 0
    omega
  · rintro rfl
    exact shown_milliseconds 0

end Readings

section Steps

/-- The values so far are not after the clock, and not after the time that the
loop has cached, which the clock has shown. -/
structure Timely (thread : ThreadClock) : Prop where
  past : ∀ reading ∈ thread.readings, reading.1 ≤ milliseconds thread.hrtime
  cached : ∀ time, thread.current = some time → Shown thread.hrtime time ∧
    ∀ reading ∈ thread.readings, reading.1 ≤ time

variable {thread : ThreadClock}

/-- After an update the loop has the time of the clock. -/
theorem Timely.uvUpdateTime (timely : Timely thread) : Timely thread.uvUpdateTime := by
  refine ⟨timely.past, ?_⟩
  rintro time ⟨⟩
  exact ⟨shown_milliseconds thread.hrtime, timely.past⟩

/-- One more value is in order if it is shown and not before the others. -/
theorem chronological_now_iff (chronological : Chronological thread) :
    Chronological (ClockAction.now.run thread) ↔
      (∀ reading ∈ thread.readings, reading.1 ≤ thread.now) ∧
        Shown thread.hrtime thread.now := by
  constructor
  · intro after
    have ordered := List.pairwise_append.mp after.increasing
    refine ⟨fun reading member => ordered.2.2 reading member _ (List.mem_singleton.mpr rfl), ?_⟩
    exact after.shown _ (List.mem_append_right _ (List.mem_singleton.mpr rfl))
  · rintro ⟨ordered, shown⟩
    constructor
    · refine List.pairwise_append.mpr ⟨chronological.increasing, List.pairwise_singleton _ _, ?_⟩
      intro reading member last same
      rw [List.mem_singleton.mp same]
      exact ordered reading member
    · intro reading member
      rcases List.mem_append.mp member with old | last
      · exact chronological.shown reading old
      · rw [List.mem_singleton.mp last]
        exact shown

/-- `Now` is right exactly when there is a loop to ask, or no time to tell. -/
theorem now_dated_iff (timely : Timely thread) (chronological : Chronological thread) :
    ClockAction.now.Dated thread ↔ Chronological (ClockAction.now.run thread) := by
  rw [chronological_now_iff chronological, ClockAction.Dated]
  cases cached : thread.current with
  | some time =>
    obtain ⟨shown, before⟩ := timely.cached time cached
    have value : thread.now = time := by rw [ThreadClock.now, cached]
    rw [value]
    exact iff_of_true (Or.inl rfl) ⟨before, shown⟩
  | none =>
    have value : thread.now = thread.hrtime := by rw [ThreadClock.now, cached]
    rw [value, shown_self_iff, Option.isSome_none, or_iff_right Bool.false_ne_true]
    constructor
    · intro zero
      refine ⟨?_, zero⟩
      intro reading member
      have before := timely.past reading member
      rw [zero] at before ⊢
      exact before
    · exact And.right

/-- Constructing a loop reads no time for the program. -/
theorem construct_readings (code : Int) :
    (thread.construct code).2.readings = thread.readings := by
  unfold ThreadClock.construct
  split
  · rfl
  · split
    · rfl
    · rfl

/-- A step other than `Now` leaves the record alone. -/
theorem run_readings {action : ClockAction} (other : action ≠ .now) :
    (action.run thread).readings = thread.readings := by
  cases action with
  | pass hrtime => rfl
  | construct code => exact construct_readings code
  | iterate => rfl
  | updateTime => rfl
  | destroy => rfl
  | now => exact absurd rfl other

/-- A step other than `Now` keeps the values in order. -/
theorem Chronological.other (chronological : Chronological thread) {action : ClockAction}
    (other : action ≠ .now) : Chronological (action.run thread) := by
  constructor
  · rw [run_readings other]
    exact chronological.increasing
  · rw [run_readings other]
    exact chronological.shown

/-- A new loop has the time of the clock. -/
theorem Timely.construct (timely : Timely thread) (code : Int) :
    Timely (thread.construct code).2 := by
  unfold ThreadClock.construct
  by_cases existed : thread.current.isSome = true
  · rw [if_pos existed]
    exact timely
  · rw [if_neg existed]
    by_cases failed : code < 0
    · rw [if_pos failed]
      exact timely
    · rw [if_neg failed]
      exact timely.uvUpdateTime

/-- Time may pass. -/
theorem Timely.pass (timely : Timely thread) {hrtime : BitVec 64}
    (passed : thread.hrtime ≤ hrtime) : Timely { thread with hrtime := hrtime } := by
  constructor
  · intro reading member
    exact BitVec.le_trans (timely.past reading member) (milliseconds_mono passed)
  · intro time cached
    obtain ⟨shown, before⟩ := timely.cached time cached
    exact ⟨shown.later passed, before⟩

/-- A value of `Now` that is in order is timely, too. -/
theorem Timely.now (timely : Timely thread)
    (chronological : Chronological (ClockAction.now.run thread)) :
    Timely (ClockAction.now.run thread) := by
  have shown : Shown thread.hrtime thread.now :=
    chronological.shown _ (List.mem_append_right _ (List.mem_singleton.mpr rfl))
  constructor
  · intro reading member
    rcases List.mem_append.mp member with old | last
    · exact timely.past reading old
    · rw [List.mem_singleton.mp last]
      exact shown.le
  · intro time cached
    obtain ⟨shown, before⟩ := timely.cached time cached
    refine ⟨shown, ?_⟩
    intro reading member
    rcases List.mem_append.mp member with old | last
    · exact before reading old
    · have value : thread.now = time := by
        rw [ThreadClock.now, show thread.current = some time from cached]
      rw [List.mem_singleton.mp last, value]
      exact BitVec.le_refl _

/-- Every step that meets the condition keeps the values and the cache timely. -/
theorem Timely.run (timely : Timely thread) (chronological : Chronological thread)
    {action : ClockAction} (enabled : action.Enabled thread) (dated : action.Dated thread) :
    Timely (action.run thread) := by
  cases action with
  | pass hrtime => exact timely.pass enabled
  | construct code => exact timely.construct code
  | iterate => exact timely.uvUpdateTime
  | updateTime => exact timely.uvUpdateTime
  | destroy => exact ⟨timely.past, nofun⟩
  | now => exact timely.now ((now_dated_iff timely chronological).mp dated)

/-- A step keeps the values in order exactly when it meets the condition. -/
theorem run_chronological_iff (timely : Timely thread) (chronological : Chronological thread)
    (action : ClockAction) : action.Dated thread ↔ Chronological (action.run thread) := by
  cases action with
  | now => exact now_dated_iff timely chronological
  | pass hrtime => exact iff_of_true trivial (chronological.other nofun)
  | construct code => exact iff_of_true trivial (chronological.other nofun)
  | iterate => exact iff_of_true trivial (chronological.other nofun)
  | updateTime => exact iff_of_true trivial (chronological.other nofun)
  | destroy => exact iff_of_true trivial (chronological.other nofun)

end Steps

/-- At first nothing has been shown, -/
theorem initial_timely (hrtime : BitVec 64) : Timely (.initial hrtime) := ⟨nofun, nofun⟩

/-- so nothing is out of order. -/
theorem initial_chronological (hrtime : BitVec 64) : Chronological (.initial hrtime) :=
  ⟨.nil, nofun⟩

/-- Over every run, `Now` is a monotone clock of milliseconds exactly when it is
only called with a loop, or while the clock is at its beginning. -/
theorem now_chronological_iff (hrtime : BitVec 64) (actions : List ClockAction)
    (legal : clockSystem.Legal (.initial hrtime) actions) :
    clockSystem.Throughout Chronological (.initial hrtime) actions ↔
      clockSystem.Guarded (fun thread action => action.Dated thread) (.initial hrtime) actions := by
  refine clockSystem.throughout_iff_guarded Timely Chronological _ ?_ ?_ (initial_timely hrtime)
    (initial_chronological hrtime) legal
  · intro thread action timely chronological _
    rw [run_chronological_iff timely chronological action]
    constructor
    · intro after
      exact ⟨_, rfl, after⟩
    · rintro ⟨next, stepped, after⟩
      obtain rfl : action.run thread = next := Except.ok.inj stepped
      exact after
  · intro thread action next timely chronological enabled dated stepped
    obtain rfl : action.run thread = next := Except.ok.inj stepped
    exact timely.run chronological enabled dated

section Examples

/-- Two loops after each other, of which each is asked twice. -/
theorem now_chronological_loops :
    clockSystem.Throughout Chronological (.initial 5000000)
      [.construct 0, .now, .pass 7000000, .updateTime, .now, .destroy, .pass 8000000,
        .construct 0, .now, .pass 9500000, .iterate, .now] :=
  (now_chronological_iff 5000000 _ (clockSystem.legal_of_check (by decide))).mpr
    (clockSystem.guarded_of_check (by decide))

/-- Five million before the loop is made, and five afterwards. -/
theorem now_chronological_false :
    clockSystem.Legal (.initial 5000000) [.now, .construct 0, .now] ∧
      ¬ clockSystem.Throughout Chronological (.initial 5000000) [.now, .construct 0, .now] := by
  refine ⟨clockSystem.legal_of_check (by decide), ?_⟩
  intro throughout
  have chronological := System.Throughout.final clockSystem throughout rfl
  have decreases := List.rel_of_pairwise_cons chronological.increasing (List.mem_singleton.mpr rfl)
  exact absurd decreases (by decide)

end Examples

end MoeUV
