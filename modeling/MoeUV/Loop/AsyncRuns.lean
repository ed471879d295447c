import MoeUV.Foundation.Counting
import MoeUV.Foundation.Location
import MoeUV.Loop.Async

/-!
# No notification is lost

Whenever `uv_async_send` has returned, a callback that began after the call did has been
made, or the loop is going to make one: the flag of the handle is set, and the loop is
on its way to it or will find its descriptor readable. Several calls may share one
callback, but there are never more callbacks than calls.
-/

namespace MoeUV

open Foundation.Execution Foundation.Counting Foundation.Location

namespace AsyncFd

variable {fd : AsyncFd}

/-- What has been written can be read. -/
theorem write_readable (roomy : fd.Roomy) : fd.write.readable = true := by
  cases fd with
  | eventfd counter maximum =>
    have maximum_pos : 0 < maximum := roomy
    rw [write]
    split
    · exact decide_eq_true (Nat.succ_pos counter)
    · exact decide_eq_true (by omega)
  | pipe bytes capacity =>
    have capacity_pos : 0 < capacity := roomy
    rw [write]
    split
    · exact decide_eq_true (Nat.succ_pos bytes)
    · exact decide_eq_true (by omega)

/-- How much a descriptor may hold does not change when it is written, -/
theorem write_roomy (roomy : fd.Roomy) : fd.write.Roomy := by
  cases fd with
  | eventfd counter maximum =>
    rw [write]
    split
    · exact roomy
    · exact roomy
  | pipe bytes capacity =>
    rw [write]
    split
    · exact roomy
    · exact roomy

/-- and neither when it is read. -/
theorem read_roomy (roomy : fd.Roomy) : fd.read.2.Roomy := by
  cases fd with
  | eventfd counter maximum => exact roomy
  | pipe bytes capacity =>
    have capacity_pos : 0 < capacity := roomy
    rw [read]
    split
    · exact capacity_pos
    · exact capacity_pos

/-- An event descriptor has room as it is opened. -/
theorem newEventfd_roomy : newEventfd.Roomy := (by decide : 0 < 18446744073709551614)

end AsyncFd

/-- The thread is going to write. -/
def SendPlace.writes {ν : Type} : SendPlace ν → Bool
  | .write _ _ => true
  | _ => false

/-- The handle whose flag the thread may set. -/
def SendPlace.asks {ν : Type} : SendPlace ν → Option ν
  | .cmpxchg handle _ => some handle
  | _ => none

namespace AsyncLoop

open AsyncFd (newEventfd newEventfd_roomy)

variable {τ ν : Type} [DecidableEq τ] [DecidableEq ν] {loop : AsyncLoop τ ν} {handle : ν}
  {thread : τ}

/-- The loop will come to the handle. -/
def OnTheWay (loop : AsyncLoop τ ν) (handle : ν) : Prop :=
  loop.fd.readable = true ∨ (∃ thread, (loop.sender thread).writes = true) ∨
    loop.place = .read ∨ loop.place = .visit ∧ handle ∈ loop.queue

omit [DecidableEq τ] [DecidableEq ν] in
/-- No thread has given up its write, and the loop is where it was. -/
theorem OnTheWay.stay {next : AsyncLoop τ ν} (coming : loop.OnTheWay handle)
    (fd : next.fd = loop.fd) (place : next.place = loop.place) (queue : next.queue = loop.queue)
    (writes : ∀ thread, (loop.sender thread).writes = true → (next.sender thread).writes = true) :
    next.OnTheWay handle := by
  rw [OnTheWay, fd, place, queue]
  rcases coming with readable | ⟨thread, writing⟩ | inside
  · exact Or.inl readable
  · exact Or.inr (Or.inl ⟨thread, writes thread writing⟩)
  · exact Or.inr (Or.inr inside)

/-- The callback that was asked for has begun, or the flag is set for it. -/
structure Owed (loop : AsyncLoop τ ν) (handle : ν) : Prop where
  returned : loop.asked handle ≤ loop.calls handle ∨
    loop.asked handle = loop.calls handle + 1 ∧ (loop.handle handle).pending = true
  writing : ∀ thread before, loop.sender thread = .write handle before →
    before < loop.calls handle ∨ before = loop.calls handle ∧ (loop.handle handle).pending = true
  asking : ∀ thread before, loop.sender thread = .cmpxchg handle before →
    before ≤ loop.calls handle

omit [DecidableEq τ] [DecidableEq ν] in
/-- What is owed to a handle depends on its counters, on its flag and on the threads that send to
it. -/
theorem Owed.stay {next : AsyncLoop τ ν} (owed : loop.Owed handle)
    (asked : next.asked handle = loop.asked handle) (calls : next.calls handle = loop.calls handle)
    (pending : (next.handle handle).pending = (loop.handle handle).pending)
    (senders : ∀ thread, next.sender thread = loop.sender thread ∨
      (next.sender thread).target ≠ some handle) : next.Owed handle := by
  have before (thread : τ) {place : SendPlace ν} (target : place.target = some handle)
      (here : next.sender thread = place) : loop.sender thread = place := by
    rcases senders thread with same | elsewhere
    · exact same.symm.trans here
    · rw [here] at elsewhere
      exact absurd target elsewhere
  constructor
  · rw [asked, calls, pending]
    exact owed.returned
  · intro thread started here
    rw [calls, pending]
    exact owed.writing thread started (before thread rfl here)
  · intro thread started here
    rw [calls]
    exact owed.asking thread started (before thread rfl here)

/-- What the loop and the threads that send to it keep up between any two steps. -/
structure Kept (loop : AsyncLoop τ ν) : Prop where
  roomy : loop.fd.Roomy
  listed : ∀ handle, (handle ∈ loop.asyncHandles ∨ handle ∈ loop.queue) ↔
    (loop.handle handle).opened = true
  visiting : loop.place ≠ .visit → loop.queue = []
  sending : ∀ thread handle, (loop.sender thread).target = some handle →
    (loop.handle handle).opened = true
  coming : ∀ handle, (loop.handle handle).opened = true → (loop.handle handle).pending = true →
    loop.OnTheWay handle
  owed : ∀ handle, (loop.handle handle).asyncCb = true → loop.Owed handle

section Frames

variable {there : SendPlace ν} {other : ν} {before : Nat}

omit [DecidableEq τ] in
/-- A flag that is set or cleared changes nothing else of its handle. -/
theorem setPending_same {β : Type} (pending : Bool) (field : UvAsync → β)
    (same : ∀ fields : UvAsync, field { fields with pending := pending } = field fields)
    (other : ν) :
    field ((loop.setPending handle pending).handle other) = field (loop.handle other) :=
  update_same field (same (loop.handle handle)) other

omit [DecidableEq τ] in
/-- The flags of the other handles stay. -/
theorem setPending_other (pending : Bool) (different : other ≠ handle) :
    (loop.setPending handle pending).handle other = loop.handle other := by
  simp only [setPending, setHandle, Function.update_of_ne different]

omit [DecidableEq ν] in
/-- A thread that goes on leaves the others where they are. -/
theorem setSender_other {someone : τ} (different : someone ≠ thread) :
    (loop.setSender thread there).sender someone = loop.sender someone := by
  simp only [setSender, Function.update_of_ne different]

omit [DecidableEq ν] in
/-- The thread itself is where it goes. -/
theorem setSender_self : (loop.setSender thread there).sender thread = there := by
  simp only [setSender, Function.update_self]

omit [DecidableEq ν] in
/-- A thread that is not about to write may go on. -/
theorem setSender_writes (keeps : (loop.sender thread).writes = true → there.writes = true)
    (someone : τ) (writing : (loop.sender someone).writes = true) :
    ((loop.setSender thread there).sender someone).writes = true := by
  by_cases own : someone = thread
  · rw [own, setSender_self]
    rw [own] at writing
    exact keeps writing
  · rw [setSender_other own]
    exact writing

omit [DecidableEq ν] in
/-- A thread that goes on sends to the handle it sent to, or to none. -/
theorem Kept.sending_setSender (kept : loop.Kept)
    (opened : ∀ handle, there.target = some handle → (loop.handle handle).opened = true)
    (someone : τ) (handle : ν)
    (target : ((loop.setSender thread there).sender someone).target = some handle) :
    (loop.handle handle).opened = true := by
  by_cases own : someone = thread
  · rw [own, setSender_self] at target
    exact opened handle target
  · rw [setSender_other own] at target
    exact kept.sending someone handle target

omit [DecidableEq ν] in
/-- A thread that goes on to another handle, or returns, leaves what is owed to this one. -/
theorem setSender_elsewhere (elsewhere : there.target ≠ some handle) (someone : τ) :
    (loop.setSender thread there).sender someone = loop.sender someone ∨
      ((loop.setSender thread there).sender someone).target ≠ some handle := by
  by_cases own : someone = thread
  · rw [own, setSender_self]
    exact Or.inr elsewhere
  · exact Or.inl (setSender_other own)

/-- The counter of the calls that have returned is written for one handle only. -/
theorem Owed.returnSend_other (owed : loop.Owed other) (different : other ≠ handle) :
    (loop.returnSend thread handle before).Owed other := by
  refine owed.stay ?_ rfl rfl (setSender_elsewhere (by simp [SendPlace.target]))
  simp only [AsyncLoop.returnSend, Function.update_of_ne different]

/-- A call may return when a callback has begun since it did, or the flag is set. -/
theorem Owed.returnSend (owed : loop.Owed handle) (heard : before < loop.calls handle ∨
      before = loop.calls handle ∧ (loop.handle handle).pending = true) :
    (loop.returnSend thread handle before).Owed handle := by
  have stays (someone : τ) {place : SendPlace ν} (target : place.target = some handle)
      (here : (loop.returnSend thread handle before).sender someone = place) :
      loop.sender someone = place := by
    have aside : (loop.setSender thread .returned).sender someone = loop.sender someone ∨
        ((loop.setSender thread .returned).sender someone).target ≠ some handle :=
      setSender_elsewhere (by simp [SendPlace.target]) someone
    rcases aside with same | elsewhere
    · exact same.symm.trans here
    · exact absurd target (here ▸ elsewhere)
  refine ⟨?_, fun someone started here => owed.writing someone started (stays someone rfl here),
    fun someone started here => owed.asking someone started (stays someone rfl here)⟩
  have counted : (loop.returnSend thread handle before).asked handle =
      max (loop.asked handle) (before + 1) := Function.update_self _ _ _
  rw [counted]
  change _ ≤ loop.calls handle ∨ _ = loop.calls handle + 1 ∧ (loop.handle handle).pending = true
  rcases owed.returned with done | ⟨next, pending⟩
  · rcases heard with later | ⟨same, pending⟩
    · exact Or.inl (by omega)
    · exact Or.inr ⟨by omega, pending⟩
  · refine Or.inr ⟨?_, pending⟩
    rcases heard with later | ⟨same, _⟩
    · omega
    · omega

omit [DecidableEq ν] in
/-- A thread begins to send. -/
theorem Owed.ask (owed : loop.Owed handle) :
    (loop.setSender thread (.cmpxchg handle (loop.calls handle))).Owed handle := by
  refine ⟨owed.returned, fun someone started here => ?_, fun someone started here => ?_⟩
  · by_cases own : someone = thread
    · rw [own, setSender_self] at here
      cases here
    · rw [setSender_other own] at here
      exact owed.writing someone started here
  · by_cases own : someone = thread
    · rw [own, setSender_self] at here
      cases here
      exact Nat.le_refl _
    · rw [setSender_other own] at here
      exact owed.asking someone started here

/-- A thread sets the flag, and goes on to write. -/
theorem Owed.set (owed : loop.Owed handle) (early : before ≤ loop.calls handle) :
    ((loop.setPending handle true).setSender thread (.write handle before)).Owed handle := by
  have pending : ((loop.setPending handle true).handle handle).pending = true := by
    simp only [setPending, setHandle, Function.update_self]
  refine ⟨?_, fun someone started here => ?_, fun someone started here => ?_⟩
  · exact owed.returned.imp_right fun later => ⟨later.1, pending⟩
  · by_cases own : someone = thread
    · rw [own, setSender_self] at here
      cases here
      exact (Nat.lt_or_eq_of_le early).imp_right fun same => ⟨same, pending⟩
    · rw [setSender_other own] at here
      exact (owed.writing someone started here).imp_right fun later => ⟨later.1, pending⟩
  · by_cases own : someone = thread
    · rw [own, setSender_self] at here
      cases here
    · rw [setSender_other own] at here
      exact owed.asking someone started here

omit [DecidableEq τ] [DecidableEq ν] in
/-- A callback is one more than any call has seen that the flag was set for. -/
theorem Owed.called {next : AsyncLoop τ ν} (owed : loop.Owed handle)
    (asked : next.asked handle = loop.asked handle)
    (calls : next.calls handle = loop.calls handle + 1) (sender : next.sender = loop.sender) :
    next.Owed handle := by
  constructor
  · rw [asked, calls]
    rcases owed.returned with done | ⟨same, _⟩
    · exact Or.inl (Nat.le_succ_of_le done)
    · exact Or.inl (Nat.le_of_eq same)
  · intro thread started here
    rw [sender] at here
    rw [calls]
    rcases owed.writing thread started here with later | ⟨same, _⟩
    · exact Or.inl (Nat.lt_succ_of_lt later)
    · exact Or.inl (Nat.lt_succ_of_le (Nat.le_of_eq same))
  · intro thread started here
    rw [sender] at here
    rw [calls]
    exact Nat.le_succ_of_le (owed.asking thread started here)

end Frames

section Transitions

omit [DecidableEq τ] in
/-- A handle is opened with its flag cleared, and nobody sends to it yet. The list grows at its
end, and no call to the handle is on its way, since it was not open. -/
theorem Kept.init (kept : loop.Kept) (asyncCb : Bool)
    (permits : loop.Permits (.init handle asyncCb)) : (loop.uvAsyncInit handle asyncCb).Kept := by
  obtain ⟨closed, place⟩ := permits
  have self : (loop.uvAsyncInit handle asyncCb).handle handle = ⟨false, asyncCb, true⟩ :=
    Function.update_self _ _ _
  have apart {other : ν} (different : other ≠ handle) :
      (loop.uvAsyncInit handle asyncCb).handle other = loop.handle other :=
    Function.update_of_ne different _ _
  have unused (thread : τ) : (loop.sender thread).target ≠ some handle := by
    intro target
    have opened := kept.sending thread handle target
    rw [closed] at opened
    cases opened
  refine ⟨kept.roomy, fun other => ?listed, kept.visiting, fun thread other target => ?sending,
    fun other opened pending => ?coming, fun other called => ?owed⟩
  case listed =>
    change (other ∈ loop.asyncHandles ++ [handle] ∨ other ∈ loop.queue) ↔ _
    rw [mem_append_singleton_iff, or_assoc, kept.listed]
    by_cases own : other = handle
    · rw [own, self]
      exact iff_of_true (Or.inl rfl) rfl
    · rw [apart own]
      exact or_iff_right own
  case sending =>
    by_cases own : other = handle
    · rw [own, self]
    · rw [apart own]
      exact kept.sending thread other target
  case coming =>
    by_cases own : other = handle
    · rw [own, self] at pending
      cases pending
    · rw [apart own] at opened pending
      exact kept.coming other opened pending
  case owed =>
    by_cases own : other = handle
    · rw [own]
      have asked : (loop.uvAsyncInit handle asyncCb).asked handle = 0 := Function.update_self _ _ _
      refine ⟨Or.inl (by rw [asked]; exact Nat.zero_le _), fun thread started here => ?_,
        fun thread started here => ?_⟩
      all_goals
        have here' : loop.sender thread = _ := here
        exact absurd (by rw [here']; rfl) (unused thread)
    · rw [apart own] at called
      refine (kept.owed other called).stay (Function.update_of_ne own _ _)
        (Function.update_of_ne own _ _) ?_ fun thread => Or.inl rfl
      rw [apart own]

omit [DecidableEq τ] in
/-- A handle that nobody sends to is closed. It leaves the list that it is in, and the order of
the others stays. -/
theorem Kept.close (kept : loop.Kept) (permits : loop.Permits (.close handle)) :
    (loop.uvAsyncClose handle).Kept := by
  obtain ⟨opened, place, unused⟩ := permits
  have self : (loop.uvAsyncClose handle).handle handle =
      { loop.handle handle with opened := false } := Function.update_self _ _ _
  have apart {other : ν} (different : other ≠ handle) :
      (loop.uvAsyncClose handle).handle other = loop.handle other :=
    Function.update_of_ne different _ _
  have pending (other : ν) : ((loop.uvAsyncClose handle).handle other).pending =
      (loop.handle other).pending := update_same UvAsync.pending (by rfl) other
  have asyncCb (other : ν) : ((loop.uvAsyncClose handle).handle other).asyncCb =
      (loop.handle other).asyncCb := update_same UvAsync.asyncCb (by rfl) other
  refine ⟨kept.roomy, fun other => ?listed, fun away => ?visiting,
    fun thread other target => ?sending, fun other opened pending => ?coming,
    fun other called => ?owed⟩
  case listed =>
    change (other ∈ loop.asyncHandles.filter (· ≠ handle) ∨
      other ∈ loop.queue.filter (· ≠ handle)) ↔ _
    rw [mem_filter_ne_iff, mem_filter_ne_iff, ← or_and_right, kept.listed]
    by_cases own : other = handle
    · rw [own, self]
      exact iff_of_false (fun still => still.2 rfl) (by simp)
    · rw [apart own]
      exact and_iff_left own
  case visiting =>
    change loop.queue.filter (· ≠ handle) = []
    rw [kept.visiting away]
    rfl
  case sending =>
    have different : other ≠ handle := by
      rintro rfl
      exact unused thread target
    rw [apart different]
    exact kept.sending thread other target
  case coming =>
    have different : other ≠ handle := by
      rintro rfl
      rw [self] at opened
      cases opened
    rw [apart different] at opened pending
    refine (kept.coming other opened pending).imp_right (Or.imp_right (Or.imp_right ?_))
    exact fun inside => ⟨inside.1, (mem_filter_ne_iff other).mpr ⟨inside.2, different⟩⟩
  case owed =>
    rw [asyncCb] at called
    exact (kept.owed other called).stay rfl rfl (pending other) fun _ => Or.inl rfl

/-- A call that has set no flag, or whose notification is written, returns. -/
theorem Kept.returnSend (kept : loop.Kept) {before : Nat}
    (silent : (loop.sender thread).writes = false)
    (heard : (loop.handle handle).asyncCb = true → before < loop.calls handle ∨
      before = loop.calls handle ∧ (loop.handle handle).pending = true) :
    (loop.returnSend thread handle before).Kept where
  roomy := kept.roomy
  listed := kept.listed
  visiting := kept.visiting
  sending := kept.sending_setSender (by simp [SendPlace.target])
  coming other opened pending := by
    refine (kept.coming other opened pending).stay rfl rfl rfl (setSender_writes fun writes => ?_)
    rw [silent] at writes
    cases writes
  owed other called := by
    by_cases own : other = handle
    · subst own
      exact (kept.owed other called).returnSend (heard called)
    · exact (kept.owed other called).returnSend_other own

/-- A call that finds the flag set leaves its notification to the one that set it. Otherwise the
thread goes on to set the flag itself. -/
theorem Kept.send (kept : loop.Kept) (permits : loop.Permits (.send thread handle)) :
    (loop.uvAsyncSend thread handle).Kept := by
  obtain ⟨returned, opened⟩ := permits
  have counted : ({ loop with
      sends := Function.update loop.sends handle (loop.sends handle + 1) } : AsyncLoop τ ν).Kept :=
    ⟨kept.roomy, kept.listed, kept.visiting, kept.sending, kept.coming, fun other called =>
      (kept.owed other called).stay rfl rfl rfl fun _ => Or.inl rfl⟩
  rw [uvAsyncSend]
  dsimp only
  by_cases pending : (loop.handle handle).pending = true
  · rw [if_pos pending]
    refine counted.returnSend ?_ fun _ => Or.inr ⟨rfl, pending⟩
    change (loop.sender thread).writes = false
    rw [returned]
    rfl
  · rw [if_neg pending]
    refine ⟨kept.roomy, kept.listed, kept.visiting, counted.sending_setSender ?_,
      fun other opened pending => ?_, fun other called => ?_⟩
    · intro other target
      cases target
      exact opened
    · refine (kept.coming other opened pending).stay rfl rfl rfl (setSender_writes fun writes => ?_)
      change (loop.sender thread).writes = true at writes
      rw [returned] at writes
      cases writes
    · by_cases own : other = handle
      · subst own
        exact (counted.owed other called).ask
      · refine (counted.owed other called).stay rfl rfl rfl (setSender_elsewhere fun same => ?_)
        exact own (Option.some.inj same).symm

/-- The thread that sets the flag writes behind it, so the loop comes as long as it is set. -/
theorem Kept.sendStep (kept : loop.Kept) (interrupted : Bool) :
    (loop.sendStep thread interrupted).Kept := by
  rw [AsyncLoop.sendStep]
  cases here : loop.sender thread with
  | returned => exact kept
  | cmpxchg handle before =>
    have opened : (loop.handle handle).opened = true :=
      kept.sending thread handle (by rw [here]; rfl)
    dsimp only
    by_cases pending : (loop.handle handle).pending = true
    · rw [if_pos pending]
      refine kept.returnSend (by rw [here]; rfl) fun called => ?_
      have early := (kept.owed handle called).asking thread before here
      exact (Nat.lt_or_eq_of_le early).imp_right fun same => ⟨same, pending⟩
    · rw [if_neg pending]
      have opened' (other : ν) : ((loop.setPending handle true).handle other).opened =
          (loop.handle other).opened := setPending_same true UvAsync.opened (fun _ => rfl) other
      have asyncCb (other : ν) : ((loop.setPending handle true).handle other).asyncCb =
          (loop.handle other).asyncCb := setPending_same true UvAsync.asyncCb (fun _ => rfl) other
      refine ⟨kept.roomy, fun other => ?_, kept.visiting, fun someone other target => ?_,
        fun other _ _ => Or.inr (Or.inl ⟨thread, ?_⟩), fun other called => ?_⟩
      · exact (kept.listed other).trans (by rw [← opened' other]; exact Iff.rfl)
      · refine (opened' other).trans (kept.sending_setSender (fun other' target => ?_) someone other
          target)
        cases target
        exact opened
      · simp only [setPending, setHandle, setSender, Function.update_self]
        rfl
      · have called' : (loop.handle other).asyncCb = true := (asyncCb other).symm.trans called
        by_cases own : other = handle
        · subst own
          exact (kept.owed other called').set ((kept.owed other called').asking thread before here)
        · refine (kept.owed other called').stay rfl rfl ?_ (setSender_elsewhere fun same => ?_)
          · exact congrArg UvAsync.pending (setPending_other true own)
          · exact own (Option.some.inj same).symm
  | write handle before =>
    dsimp only
    by_cases interrupt : interrupted = true
    · rw [if_pos interrupt]
      exact kept
    · rw [if_neg interrupt]
      refine ⟨AsyncFd.write_roomy kept.roomy, kept.listed, kept.visiting,
        kept.sending_setSender (by simp [SendPlace.target]),
        fun _ _ _ => Or.inl (AsyncFd.write_readable kept.roomy),
        fun other called => ?_⟩
      by_cases own : other = handle
      · subst own
        have heard := (kept.owed other called).writing thread before here
        exact ((kept.owed other called).returnSend heard).stay rfl rfl rfl fun _ => Or.inl rfl
      · exact ((kept.owed other called).returnSend_other own).stay rfl rfl rfl fun _ => Or.inl rfl

omit [DecidableEq τ] [DecidableEq ν] in
/-- The first of the queue is put back into the list of the loop before its flag is looked at. -/
theorem Kept.listed_take (kept : loop.Kept) {rest : List ν} (queue : loop.queue = handle :: rest)
    (other : ν) :
    (other ∈ loop.asyncHandles ++ [handle] ∨ other ∈ rest) ↔ (loop.handle other).opened = true := by
  rw [← kept.listed, queue, List.mem_append, List.mem_singleton, List.mem_cons, or_assoc]

omit [DecidableEq τ] in
/-- The descriptor is read empty before the handles are visited, so a write behind the
read makes it readable again. -/
theorem Kept.asyncIo (kept : loop.Kept) (interrupted : Bool) : (loop.asyncIo interrupted).Kept := by
  rw [AsyncLoop.asyncIo]
  cases place : loop.place with
  | poll => exact kept
  | read =>
    dsimp only
    by_cases interrupt : interrupted = true
    · rw [if_pos interrupt]
      exact kept
    · rw [if_neg interrupt]
      have empty : loop.queue = [] := kept.visiting (by rw [place]; simp)
      have owed (next : AsyncLoop τ ν) (asked : next.asked = loop.asked)
          (calls : next.calls = loop.calls) (fields : next.handle = loop.handle)
          (sender : next.sender = loop.sender) (other : ν)
          (called : (next.handle other).asyncCb = true) : next.Owed other := by
        rw [fields] at called
        refine (kept.owed other called).stay ?_ ?_ ?_ fun _ => Or.inl ?_
        all_goals simp only [asked, calls, fields, sender]
      by_cases full : loop.fd.read.1 = true
      · rw [if_pos full]
        exact ⟨AsyncFd.read_roomy kept.roomy, kept.listed, fun _ => empty, kept.sending,
          fun _ _ _ => Or.inr (Or.inr (Or.inl rfl)), owed _ rfl rfl rfl rfl⟩
      · rw [if_neg full]
        have listed (other : ν) : (other ∈ ([] : List ν) ∨ other ∈ loop.asyncHandles) ↔
            (loop.handle other).opened = true := by
          rw [← kept.listed, empty]
          exact or_comm
        refine ⟨AsyncFd.read_roomy kept.roomy, listed, fun away => absurd rfl away, kept.sending,
          fun other opened _ => Or.inr (Or.inr (Or.inr ⟨rfl, ?_⟩)), owed _ rfl rfl rfl rfl⟩
        exact ((listed other).mpr opened).resolve_left List.not_mem_nil
  | visit =>
    have ahead {next : AsyncLoop τ ν} {handle other : ν} {rest : List ν}
        (queue : loop.queue = handle :: rest) (fd : next.fd = loop.fd)
        (place' : next.place = .visit) (sender : next.sender = loop.sender)
        (queue' : next.queue = rest) (different : other ≠ handle)
        (coming : loop.OnTheWay other) : next.OnTheWay other := by
      rw [OnTheWay, fd, place', sender, queue']
      rcases coming with readable | writing | reading | ⟨_, member⟩
      · exact Or.inl readable
      · exact Or.inr (Or.inl writing)
      · rw [place] at reading
        cases reading
      · rw [queue] at member
        exact Or.inr (Or.inr (Or.inr ⟨rfl, (List.mem_cons.mp member).resolve_left different⟩))
    cases queue : loop.queue with
    | nil =>
      refine ⟨kept.roomy, fun other => ?_, fun _ => rfl, kept.sending,
        fun other opened pending => ?_, fun other called => ?_⟩
      · have listed := kept.listed other
        rw [queue] at listed
        exact listed
      · rcases kept.coming other opened pending with readable | writing | reading | ⟨_, member⟩
        · exact Or.inl readable
        · exact Or.inr (Or.inl writing)
        · rw [place] at reading
          cases reading
        · rw [queue] at member
          cases member
      · exact (kept.owed other called).stay rfl rfl rfl fun _ => Or.inl rfl
    | cons handle rest =>
      have listed := kept.listed_take queue
      dsimp only
      by_cases silent : (loop.handle handle).pending = false
      · rw [if_pos silent]
        refine ⟨kept.roomy, listed, fun away => absurd rfl away, kept.sending,
          fun other opened pending => ?_, fun other called => ?_⟩
        · refine ahead queue rfl rfl rfl rfl ?_ (kept.coming other opened pending)
          rintro rfl
          exact Bool.false_ne_true (silent.symm.trans pending)
        · exact (kept.owed other called).stay rfl rfl rfl fun _ => Or.inl rfl
      · rw [if_neg silent]
        have opened' (other : ν) : ((loop.setPending handle false).handle other).opened =
            (loop.handle other).opened := setPending_same false UvAsync.opened (fun _ => rfl) other
        have asyncCb (other : ν) : ((loop.setPending handle false).handle other).asyncCb =
            (loop.handle other).asyncCb :=
          setPending_same false UvAsync.asyncCb (fun _ => rfl) other
        have listed' (other : ν) : (other ∈ loop.asyncHandles ++ [handle] ∨ other ∈ rest) ↔
            ((loop.setPending handle false).handle other).opened = true :=
          (listed other).trans (by rw [opened'])
        have sending (thread : τ) (other : ν) (target : (loop.sender thread).target = some other) :
            ((loop.setPending handle false).handle other).opened = true :=
          (opened' other).trans (kept.sending thread other target)
        have different {other : ν}
            (pending : ((loop.setPending handle false).handle other).pending = true) :
            other ≠ handle := by
          rintro rfl
          simp only [setPending, setHandle, Function.update_self] at pending
          cases pending
        have coming {next : AsyncLoop τ ν} {other : ν} (fd : next.fd = loop.fd)
            (place' : next.place = .visit) (sender : next.sender = loop.sender)
            (queue' : next.queue = rest)
            (opened : ((loop.setPending handle false).handle other).opened = true)
            (pending : ((loop.setPending handle false).handle other).pending = true) :
            next.OnTheWay other := by
          rw [opened'] at opened
          have fields : (loop.setPending handle false).handle other = loop.handle other :=
            setPending_other false (different pending)
          have pending' : (loop.handle other).pending = true :=
            (congrArg UvAsync.pending fields).symm.trans pending
          exact ahead queue fd place' sender queue' (different pending)
            (kept.coming other opened pending')
        split
        case isTrue uncalled =>
          refine ⟨kept.roomy, listed', fun away => absurd rfl away, sending,
            fun _ => coming rfl rfl rfl rfl, fun other called => ?_⟩
          have called' : (loop.handle other).asyncCb = true := (asyncCb other).symm.trans called
          have apart : other ≠ handle := by
            rintro rfl
            exact Bool.false_ne_true (uncalled.symm.trans called)
          exact (kept.owed other called').stay rfl rfl
            (congrArg UvAsync.pending (setPending_other false apart)) fun _ => Or.inl rfl
        case isFalse uncalled =>
          refine ⟨kept.roomy, listed', fun away => absurd rfl away, sending,
            fun _ => coming rfl rfl rfl rfl, fun other called => ?_⟩
          have called' : (loop.handle other).asyncCb = true := (asyncCb other).symm.trans called
          by_cases own : other = handle
          · subst own
            exact (kept.owed other called').called rfl (Function.update_self _ _ _) rfl
          · exact (kept.owed other called').stay rfl (Function.update_of_ne own _ _)
              (congrArg UvAsync.pending (setPending_other false own)) fun _ => Or.inl rfl

/-- Every step keeps it up. -/
theorem act_kept (kept : loop.Kept) {action : AsyncAction τ ν} (permits : loop.Permits action) :
    (loop.act action).Kept := by
  cases action with
  | init handle asyncCb => exact kept.init asyncCb permits
  | close handle => exact kept.close permits
  | send thread handle => exact kept.send permits
  | go thread interrupted => exact kept.sendStep interrupted
  | io =>
    obtain ⟨place, readable⟩ := permits
    exact ⟨kept.roomy, kept.listed, fun _ => kept.visiting (by rw [place]; simp),
      kept.sending, fun _ _ _ => Or.inl readable, fun other called =>
      (kept.owed other called).stay rfl rfl rfl fun _ => Or.inl rfl⟩
  | pass interrupted => exact kept.asyncIo interrupted

omit [DecidableEq τ] [DecidableEq ν] in
/-- It holds before any handle is opened, whatever is in the memory of the handles. -/
theorem initial_kept {fd : AsyncFd} (roomy : fd.Roomy) (memory : ν → Bool × Bool) :
    (initial (τ := τ) fd memory).Kept where
  roomy := roomy
  listed _ := iff_of_false (fun member => member.elim List.not_mem_nil List.not_mem_nil)
    Bool.false_ne_true
  visiting _ := rfl
  sending _ _ target := by cases target
  coming _ opened := absurd opened Bool.false_ne_true
  owed _ _ := ⟨Or.inl (Nat.le_refl 0), by simp [initial], by simp [initial]⟩

/-- Every run keeps it up. -/
theorem throughout_kept {fd : AsyncFd} (roomy : fd.Roomy) (memory : ν → Bool × Bool)
    {actions : List (AsyncAction τ ν)}
    (legal : (asyncSystem τ ν).Legal (initial fd memory) actions) :
    (asyncSystem τ ν).Throughout Kept (initial fd memory) actions := by
  refine (asyncSystem τ ν).throughout_of_safe _ ?_ (initial_kept roomy memory) legal
  intro loop action kept permits
  exact ⟨_, rfl, act_kept kept permits⟩

end Transitions

/-- When a call of `uv_async_send` has returned, a callback has begun since the call
did, or one will: the loop finds its descriptor readable or is going to visit the
handle, or another thread has set the flag and is about to write. Until that thread has
written, the loop may go to sleep, and the write wakes it up. -/
theorem notifications_kept {fd : AsyncFd} (roomy : fd.Roomy) (memory : ν → Bool × Bool)
    (actions : List (AsyncAction τ ν))
    (legal : (asyncSystem τ ν).Legal (initial fd memory) actions) :
    (asyncSystem τ ν).Throughout (fun loop => ∀ handle, (loop.handle handle).opened = true →
      (loop.handle handle).asyncCb = true → loop.asked handle ≤ loop.calls handle ∨
        loop.asked handle = loop.calls handle + 1 ∧ loop.OnTheWay handle)
      (initial fd memory) actions := by
  refine System.Throughout.mono _ ?_ (throughout_kept roomy memory legal)
  intro loop kept handle opened asyncCb
  rcases (kept.owed handle asyncCb).returned with done | ⟨next, pending⟩
  · exact Or.inl done
  · exact Or.inr ⟨next, kept.coming handle opened pending⟩

section Sample

variable [Fintype τ]

instance (loop : AsyncLoop τ ν) : (action : AsyncAction τ ν) →
    Decidable ((asyncSystem τ ν).enabled loop action)
  | .init handle _ =>
    inferInstanceAs (Decidable ((loop.handle handle).opened = false ∧ loop.place ≠ .read))
  | .close handle => inferInstanceAs (Decidable ((loop.handle handle).opened = true ∧
      loop.place ≠ .read ∧ ∀ thread, (loop.sender thread).target ≠ some handle))
  | .send thread handle => inferInstanceAs (Decidable (loop.sender thread = .returned ∧
      (loop.handle handle).opened = true))
  | .go thread _ => inferInstanceAs (Decidable (loop.sender thread ≠ .returned))
  | .io => inferInstanceAs (Decidable (loop.place = .poll ∧ loop.fd.readable = true))
  | .pass _ => inferInstanceAs (Decidable (loop.place ≠ .poll))

/-- Two threads notify the first of two handles, one of them again from behind its
callback. -/
def twoSenders : List (AsyncAction (Fin 2) (Fin 2)) :=
  [.init 0 true, .init 1 true, .send 0 0, .send 1 0, .go 0 false, .go 1 false, .go 0 true,
    .go 0 false, .io, .pass true, .pass false, .pass false, .send 1 0, .go 1 false, .pass false,
    .pass false, .go 1 false, .io, .pass false, .pass false, .close 1, .pass false]

/-- Neither of the two threads loses its notification. -/
theorem notifications_kept_two : (asyncSystem (Fin 2) (Fin 2)).Throughout
    (fun loop => ∀ handle, (loop.handle handle).opened = true →
      (loop.handle handle).asyncCb = true → loop.asked handle ≤ loop.calls handle ∨
        loop.asked handle = loop.calls handle + 1 ∧ loop.OnTheWay handle)
    (initial newEventfd fun _ => (true, false)) twoSenders :=
  notifications_kept newEventfd_roomy (fun _ => (true, false)) twoSenders
    ((asyncSystem _ _).legal_of_check (by decide))

end Sample

section Count

variable [Fintype τ]

/-- The threads that may set the flag of the handle. -/
def asking (loop : AsyncLoop τ ν) (handle : ν) : Nat :=
  occurrences (fun place : SendPlace ν => place.asks = some handle) loop.sender

/-- Each callback, and the flag if it is set, comes from a call of its own. -/
def Counted (loop : AsyncLoop τ ν) : Prop :=
  ∀ handle, (loop.handle handle).opened = true →
    loop.calls handle + (if (loop.handle handle).pending then 1 else 0) + loop.asking handle ≤
      loop.sends handle

omit [DecidableEq τ] in
/-- Nobody sends to a handle that is not open. -/
theorem Kept.asking_closed (kept : loop.Kept) (closed : (loop.handle handle).opened = false) :
    loop.asking handle = 0 := by
  refine occurrences_eq_zero.mpr fun thread asks => ?_
  have sending := kept.sending thread handle
  cases here : loop.sender thread with
  | cmpxchg target before =>
    rw [here] at sending asks
    exact Bool.false_ne_true (closed.symm.trans (sending asks))
  | _ => rw [here] at asks; cases asks

/-- A thread that goes on is counted where it goes, and not where it was. -/
theorem asking_setSender (loop : AsyncLoop τ ν) (thread : τ) (there : SendPlace ν) (other : ν) :
    (loop.setSender thread there).asking other +
        (if (loop.sender thread).asks = some other then 1 else 0) =
      loop.asking other + if there.asks = some other then 1 else 0 :=
  occurrences_update (fun place : SendPlace ν => place.asks = some other) loop.sender thread there

/-- A call that returns takes its thread out of the count. -/
theorem Counted.returnSend (counted : loop.Counted) (handle : ν) (before : Nat) :
    (loop.returnSend thread handle before).Counted := by
  intro other opened
  have moved := asking_setSender loop thread .returned other
  have fewer : (loop.returnSend thread handle before).asking other ≤ loop.asking other :=
    (Nat.le_add_right _ _).trans (Nat.le_of_eq moved)
  exact (Nat.add_le_add_left fewer _).trans (counted other opened)

/-- The flag takes the place of the thread that sets it. So the calls that are still owed a
callback do not become more: a thread that finds the flag set no longer counts, and one that
sets it is replaced by the flag. -/
theorem Counted.sendStep (counted : loop.Counted) (interrupted : Bool) :
    (loop.sendStep thread interrupted).Counted := by
  rw [AsyncLoop.sendStep]
  cases here : loop.sender thread with
  | returned => exact counted
  | cmpxchg handle started =>
    dsimp only
    by_cases pending : (loop.handle handle).pending = true
    · rw [if_pos pending]
      exact counted.returnSend handle started
    · rw [if_neg pending]
      intro other opened
      have moved := asking_setSender (loop.setPending handle true) thread (.write handle started)
        other
      change _ + (if (loop.sender thread).asks = some other then 1 else 0) =
        loop.asking other + 0 at moved
      rw [here] at moved
      by_cases own : other = handle
      · subst own
        have opened' : (loop.handle other).opened = true :=
          (setPending_same true UvAsync.opened (fun _ => rfl) other).symm.trans opened
        have before := counted other opened'
        have flag : ((loop.setPending other true).handle other).pending = true := by
          simp only [setPending, setHandle, Function.update_self]
        have asks : (SendPlace.cmpxchg other started).asks = some other := rfl
        rw [if_pos asks] at moved
        rw [if_neg pending] at before
        change loop.calls other + (if ((loop.setPending other true).handle other).pending then 1
          else 0) + ((loop.setPending other true).setSender thread (.write other started)).asking
            other ≤ loop.sends other
        rw [if_pos flag]
        omega
      · have asks : (SendPlace.cmpxchg handle started).asks ≠ some other :=
          fun same => own (Option.some.inj same).symm
        rw [if_neg asks] at moved
        have fields : (loop.setPending handle true).handle other = loop.handle other :=
          setPending_other true own
        have before := counted other ((congrArg UvAsync.opened fields).symm.trans opened)
        change loop.calls other + (if ((loop.setPending handle true).handle other).pending then 1
          else 0) + ((loop.setPending handle true).setSender thread (.write handle started)).asking
            other ≤ loop.sends other
        rw [fields]
        omega
  | write handle started =>
    dsimp only
    by_cases interrupt : interrupted = true
    · rw [if_pos interrupt]
      exact counted
    · rw [if_neg interrupt]
      exact counted.returnSend handle started

omit [DecidableEq τ] in
/-- A flag that is cleared counts no more, and a callback may be counted for it. -/
theorem Counted.clear {next : AsyncLoop τ ν} (counted : loop.Counted)
    (pending : (loop.handle handle).pending = true)
    (fields : next.handle = (loop.setPending handle false).handle)
    (sender : next.sender = loop.sender) (sends : next.sends = loop.sends)
    (calls : next.calls handle ≤ loop.calls handle + 1)
    (others : ∀ other, other ≠ handle → next.calls other = loop.calls other) : next.Counted := by
  intro other opened
  rw [fields] at opened
  have before := counted other
    ((setPending_same false UvAsync.opened (fun _ => rfl) other).symm.trans opened)
  rw [fields, sends, asking, sender]
  by_cases own : other = handle
  · subst own
    have cleared : ((loop.setPending other false).handle other).pending = false := by
      simp only [setPending, setHandle, Function.update_self]
    rw [if_pos pending, asking] at before
    rw [cleared]
    simp only [Bool.false_eq_true, if_false]
    omega
  · rw [setPending_other false own, others other own]
    exact before

omit [DecidableEq τ] in
/-- A callback takes the place of the flag that it clears. Flag and call change in one step, so
their sum does not grow. -/
theorem Counted.asyncIo (counted : loop.Counted) (interrupted : Bool) :
    (loop.asyncIo interrupted).Counted := by
  rw [AsyncLoop.asyncIo]
  cases loop.place with
  | poll => exact counted
  | read =>
    dsimp only
    split
    · exact counted
    · split
      · exact counted
      · exact counted
  | visit =>
    cases loop.queue with
    | nil => exact counted
    | cons handle rest =>
      dsimp only
      by_cases silent : (loop.handle handle).pending = false
      · rw [if_pos silent]
        exact counted
      · rw [if_neg silent]
        have pending := eq_true_of_ne_false silent
        split
        · exact counted.clear pending rfl rfl rfl (Nat.le_succ _) fun _ _ => rfl
        · exact counted.clear pending rfl rfl rfl (Nat.le_of_eq (Function.update_self _ _ _))
            fun other different => Function.update_of_ne different _ _

/-- Every step keeps the count. The cases are the steps; opening and closing a handle concern
handles that nobody is counted for. -/
theorem counted_act (kept : loop.Kept) (counted : loop.Counted) {action : AsyncAction τ ν}
    (permits : loop.Permits action) : (loop.act action).Counted := by
  cases action with
  | init handle asyncCb =>
    intro other opened
    have closed := kept.asking_closed permits.1
    by_cases own : other = handle
    · subst own
      simp only [act, uvAsyncInit, setHandle, asking, Function.update_self, Bool.false_eq_true,
        if_false]
      rw [asking] at closed
      rw [closed]
    · simp only [act, uvAsyncInit, setHandle, Function.update_of_ne own] at opened ⊢
      exact counted other opened
  | close handle =>
    intro other opened
    have different : other ≠ handle := by
      rintro rfl
      simp only [act, uvAsyncClose, setHandle, Function.update_self] at opened
      cases opened
    simp only [act, uvAsyncClose, setHandle, Function.update_of_ne different] at opened ⊢
    exact counted other opened
  | send thread handle =>
    have returned : loop.sender thread = .returned := permits.1
    have more (other : ν) : loop.sends other ≤
        Function.update loop.sends handle (loop.sends handle + 1) other := by
      by_cases own : other = handle
      · rw [own, Function.update_self]
        exact Nat.le_succ _
      · rw [Function.update_of_ne own]
    have begun : ({ loop with
        sends := Function.update loop.sends handle (loop.sends handle + 1) } : AsyncLoop τ
          ν).Counted := fun other opened => (counted other opened).trans (more other)
    rw [act, uvAsyncSend]
    dsimp only
    by_cases pending : (loop.handle handle).pending = true
    · rw [if_pos pending]
      exact begun.returnSend handle (loop.calls handle)
    · rw [if_neg pending]
      intro other opened
      have moved := asking_setSender loop thread (.cmpxchg handle (loop.calls handle)) other
      rw [returned] at moved
      change _ + 0 = _ + (if some handle = some other then 1 else 0) at moved
      have before := counted other opened
      change loop.calls other + _ + (loop.setSender thread (.cmpxchg handle
        (loop.calls handle))).asking other ≤
          Function.update loop.sends handle (loop.sends handle + 1) other
      by_cases own : other = handle
      · rw [if_pos (congrArg some own.symm)] at moved
        rw [own, Function.update_self]
        rw [own] at moved before
        change loop.calls handle + (if (loop.handle handle).pending then 1 else 0) + _ ≤ _
        omega
      · rw [if_neg fun same => own (Option.some.inj same).symm] at moved
        rw [Function.update_of_ne own]
        change loop.calls other + (if (loop.handle other).pending then 1 else 0) + _ ≤ _
        omega
  | go thread interrupted => exact counted.sendStep interrupted
  | io => exact counted
  | pass interrupted => exact counted.asyncIo interrupted

/-- There are never more callbacks than calls of `uv_async_send`. A call sets the flag of its
handle at most once, and each callback clears it. -/
theorem notifications_counted {fd : AsyncFd} (roomy : fd.Roomy) (memory : ν → Bool × Bool)
    (actions : List (AsyncAction τ ν))
    (legal : (asyncSystem τ ν).Legal (initial fd memory) actions) :
    (asyncSystem τ ν).Throughout (fun loop => ∀ handle, (loop.handle handle).opened = true →
      loop.calls handle ≤ loop.sends handle) (initial fd memory) actions := by
  have counted : (asyncSystem τ ν).Throughout (fun loop => loop.Kept ∧ loop.Counted)
      (initial fd memory) actions := by
    refine (asyncSystem τ ν).throughout_of_safe _ ?_ ⟨initial_kept roomy memory, ?_⟩ legal
    · rintro loop action ⟨kept, counted⟩ permits
      exact ⟨_, rfl, act_kept kept permits, counted_act kept counted permits⟩
    · exact fun handle opened => absurd opened Bool.false_ne_true
  refine System.Throughout.mono _ ?_ counted
  rintro loop ⟨_, counted⟩ handle opened
  have enough := counted handle opened
  omega

/-- In the same run no callback comes without a notification. -/
theorem notifications_counted_two : (asyncSystem (Fin 2) (Fin 2)).Throughout
    (fun loop => ∀ handle, (loop.handle handle).opened = true →
      loop.calls handle ≤ loop.sends handle)
    (initial newEventfd fun _ => (true, false)) twoSenders :=
  notifications_counted newEventfd_roomy (fun _ => (true, false)) twoSenders
    ((asyncSystem _ _).legal_of_check (by decide))

end Count

end AsyncLoop

end MoeUV
