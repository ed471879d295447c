import MoeUV.Foundation.Location
import MoeUV.Signal.SignalTree
import Mathlib.Algebra.Group.Nat.Defs

/-!
# No message outlives its handle

A message in a pipe names a handle that is open, and a handle that is being closed is handed
over for its close callback exactly when no message for it is left. Every signal that is
handled while a handle watches it ends in one callback of the handle, unless the pipe was
full or the handle watches another signal by then, and the signal handler is installed as
long as a handle watches that is not one-shot, and never when none does.
-/

namespace MoeUV

open Foundation.Execution Foundation.Location

/-- The walk of the signal handler is over handles of the tree that watch the signal. -/
structure SignalPass.Sound {ℓ ν : Type} (pass : SignalPass ν) (handle : ν → UvSignal ℓ)
    (tree : List ν) : Prop where
  nodup : pass.rest.Nodup
  watching : ∀ other ∈ pass.rest, other ∈ tree ∧ (handle other).signum = pass.signum
  wrote : pass.wrote = true → pass.rest ≠ []

/-- The walk does not notice what happens to the handles that it does not visit. -/
theorem SignalPass.Sound.congr {ℓ ν : Type} {pass : SignalPass ν} {handle handle' : ν → UvSignal ℓ}
    {tree tree' : List ν} (sound : pass.Sound handle tree)
    (same : ∀ other ∈ pass.rest, other ∈ tree → other ∈ tree' ∧
      (handle' other).signum = (handle other).signum) : pass.Sound handle' tree' := by
  refine ⟨sound.nodup, fun other member => ?_, sound.wrote⟩
  obtain ⟨inside, watches⟩ := sound.watching other member
  obtain ⟨inside', signum⟩ := same other member inside
  exact ⟨inside', signum.trans watches⟩

/-- A walk goes on behind the first of its handles. -/
theorem SignalPass.Sound.tail {ℓ ν : Type} {handles : ν → UvSignal ℓ} {tree rest : List ν}
    {signum : Nat} {first : ν} {wrote : Bool}
    (sound : SignalPass.Sound ⟨signum, first :: rest, wrote⟩ handles tree) :
    SignalPass.Sound ⟨signum, rest, false⟩ handles tree :=
  ⟨(List.nodup_cons.mp sound.nodup).2, fun other member =>
    sound.watching other (List.mem_cons_of_mem _ member), by simp⟩

namespace SignalWorld

variable {ℓ ν : Type} [LinearOrder ℓ] [LinearOrder ν] {world next : SignalWorld ℓ ν}
  {handle other : ν} {loop : ℓ} {signum : Nat}

section Messages

omit [LinearOrder ℓ]

/-- The messages of two lists are those of both. -/
theorem messages_append (first second : List (ν × Nat)) :
    messages handle (first ++ second) = messages handle first + messages handle second :=
  List.countP_append

/-- A message counts for the handle that it names. -/
theorem messages_self (rest : List (ν × Nat)) :
    messages handle ((handle, signum) :: rest) = messages handle rest + 1 :=
  List.countP_cons_of_pos (by simp)

/-- It does not count for another. -/
theorem messages_other (different : other ≠ handle) (rest : List (ν × Nat)) :
    messages other ((handle, signum) :: rest) = messages other rest :=
  List.countP_cons_of_neg (by simpa using different.symm)

/-- No message counts for a handle that none names. -/
theorem messages_eq_zero {list : List (ν × Nat)} (none : ∀ message ∈ list, message.1 ≠ handle) :
    messages handle list = 0 := by
  refine List.countP_eq_zero.mpr ?_
  intro message member
  simpa using none message member

/-- No message names a handle for which none counts. -/
theorem messages_none {list : List (ν × Nat)} (none : messages handle list = 0)
    (message : ν × Nat) (member : message ∈ list) : message.1 ≠ handle := by
  have absent := List.countP_eq_zero.mp none message member
  simpa using absent

end Messages

/-- What was caught for a handle has been dispatched or is on its way, and each signal that was
raised for it has been told or will be. -/
structure Balanced (world : SignalWorld ℓ ν) (handle : ν) : Prop where
  counted : (world.handle handle).caughtSignals + world.uncounted handle =
    (world.handle handle).dispatchedSignals + world.inFlight handle
  told : world.raised handle + world.uncounted handle = world.calls handle + world.stale handle +
    world.waiting handle + world.dropped handle + world.visiting handle

/-- What holds also between the steps of `uv_close`. -/
structure Running (world : SignalWorld ℓ ν) : Prop where
  tree : Tree world.handle world.tree world.action
  own : ∀ loop message,
    message ∈ (world.loop loop).pipe ∨ message ∈ (world.loop loop).buf →
      (world.handle message.1).opened = true ∧ (world.handle message.1).loop = loop ∧
        message.2 ≠ 0
  callback : ∀ loop handle, (world.loop loop).place = .callback handle →
    (world.handle handle).opened = true ∧ (world.handle handle).loop = loop
  balanced : ∀ handle, (world.handle handle).opened = true → world.Balanced handle
  closing : ∀ handle, (world.handle handle).opened = true →
    (world.handle handle).closing = true → (world.handle handle).signum = 0
  pass : ∀ pass, world.pass = some pass → pass.Sound world.handle world.tree
  idle : ∀ loop, (world.loop loop).place = .poll → (world.loop loop).buf = []

/-- The handle is to have its close callback on the thread of the loop. -/
def Ripe (world : SignalWorld ℓ ν) (loop : ℓ) (handle : ν) : Prop :=
  (world.handle handle).opened = true ∧ (world.handle handle).loop = loop ∧
    (world.handle handle).closing = true ∧ world.inFlight handle = 0

/-- What holds between any two steps. -/
structure Kept (world : SignalWorld ℓ ν) : Prop extends world.Running where
  pending : ∀ loop handle, handle ∈ (world.loop loop).closingHandles ↔ world.Ripe loop handle
  once : ∀ loop, (world.loop loop).closingHandles.Nodup

/-- All handles but one are handed over as they should. -/
structure Late (world : SignalWorld ℓ ν) (handle : ν) : Prop where
  absent : ∀ loop, handle ∉ (world.loop loop).closingHandles
  pending : ∀ loop other, other ≠ handle →
    (other ∈ (world.loop loop).closingHandles ↔ world.Ripe loop other)
  once : ∀ loop, (world.loop loop).closingHandles.Nodup

/-- A step passes a handle by, as far as its life and its messages go. -/
structure Unmoved (world next : SignalWorld ℓ ν) (handle : ν) : Prop where
  opened : (next.handle handle).opened = (world.handle handle).opened
  home : (next.handle handle).loop = (world.handle handle).loop
  caught : (next.handle handle).caughtSignals = (world.handle handle).caughtSignals
  dispatched : (next.handle handle).dispatchedSignals = (world.handle handle).dispatchedSignals
  waiting : next.waiting handle = world.waiting handle
  inFlight : next.inFlight handle = world.inFlight handle
  uncounted : next.uncounted handle = world.uncounted handle
  visiting : next.visiting handle = world.visiting handle
  raised : next.raised handle = world.raised handle
  dropped : next.dropped handle = world.dropped handle
  calls : next.calls handle = world.calls handle
  stale : next.stale handle = world.stale handle

/-- A step leaves the tree, and what the tree and the life of a handle depend on. -/
structure Steady (world next : SignalWorld ℓ ν) : Prop where
  opened : ∀ other, (next.handle other).opened = (world.handle other).opened
  home : ∀ other, (next.handle other).loop = (world.handle other).loop
  signum : ∀ other, (next.handle other).signum = (world.handle other).signum
  oneShot : ∀ other, (next.handle other).oneShot = (world.handle other).oneShot
  closing : ∀ other, (next.handle other).closing = (world.handle other).closing
  tree : next.tree = world.tree
  action : next.action = world.action

section Frames

omit [LinearOrder ℓ] in
/-- The books of a handle that is passed by stay as they are. -/
theorem Balanced.unmoved (balanced : world.Balanced handle) (unmoved : world.Unmoved next handle) :
    next.Balanced handle := by
  constructor
  · rw [unmoved.caught, unmoved.uncounted, unmoved.dispatched, unmoved.inFlight]
    exact balanced.counted
  · rw [unmoved.raised, unmoved.uncounted, unmoved.calls, unmoved.stale, unmoved.waiting,
      unmoved.dropped, unmoved.visiting]
    exact balanced.told

omit [LinearOrder ℓ] in
/-- So does whether it is to be handed over. -/
theorem Unmoved.ripe (unmoved : world.Unmoved next handle)
    (closing : (next.handle handle).closing = (world.handle handle).closing) (loop : ℓ) :
    next.Ripe loop handle ↔ world.Ripe loop handle := by
  rw [Ripe, Ripe, unmoved.opened, unmoved.home, closing, unmoved.inFlight]

omit [LinearOrder ℓ] [LinearOrder ν] in
/-- No handle is touched. -/
theorem Steady.refl (handle : next.handle = world.handle) (tree : next.tree = world.tree)
    (action : next.action = world.action) : world.Steady next := by
  refine ⟨?_, ?_, ?_, ?_, ?_, tree, action⟩
  all_goals
    intro other
    rw [handle]

omit [LinearOrder ℓ] in
/-- No more than a counter of one handle is touched. -/
theorem Steady.count {fields : UvSignal ℓ}
    (handles : next.handle = Function.update world.handle handle fields)
    (counts : fields = { world.handle handle with
      caughtSignals := fields.caughtSignals, dispatchedSignals := fields.dispatchedSignals })
    (tree : next.tree = world.tree) (action : next.action = world.action) : world.Steady next := by
  refine ⟨fun other => ?_, fun other => ?_, fun other => ?_, fun other => ?_, fun other => ?_, tree,
    action⟩
  · rw [handles, update_same UvSignal.opened (by rw [counts]) other]
  · rw [handles, update_same UvSignal.loop (by rw [counts]) other]
  · rw [handles, update_same UvSignal.signum (by rw [counts]) other]
  · rw [handles, update_same UvSignal.oneShot (by rw [counts]) other]
  · rw [handles, update_same UvSignal.closing (by rw [counts]) other]

omit [LinearOrder ℓ] in
/-- Whether a handle is to be handed over depends on what is in flight for it. -/
theorem Steady.ripe (steady : world.Steady next)
    (inFlight : next.inFlight handle = world.inFlight handle) (loop : ℓ) :
    next.Ripe loop handle ↔ world.Ripe loop handle := by
  rw [Ripe, Ripe, steady.opened, steady.home, steady.closing, inFlight]

omit [LinearOrder ℓ] in
/-- What is said of the messages, of the callbacks and of the signal handler is left to say. -/
theorem Running.steady (running : world.Running) (steady : world.Steady next)
    (own : ∀ loop message,
      message ∈ (next.loop loop).pipe ∨ message ∈ (next.loop loop).buf →
        (world.handle message.1).opened = true ∧ (world.handle message.1).loop = loop ∧
          message.2 ≠ 0)
    (callback : ∀ loop handle, (next.loop loop).place = .callback handle →
      (world.handle handle).opened = true ∧ (world.handle handle).loop = loop)
    (balanced : ∀ handle, (world.handle handle).opened = true → next.Balanced handle)
    (pass : ∀ pass, next.pass = some pass → pass.Sound world.handle world.tree)
    (idle : ∀ loop, (next.loop loop).place = .poll → (next.loop loop).buf = []) : next.Running := by
  refine ⟨?_, fun loop message inside => ?_, fun loop handle place => ?_,
    fun handle opened => balanced handle ((steady.opened handle).symm.trans opened),
    fun handle opened closing => ?_, fun pass' here => ?_, idle⟩
  · rw [steady.tree, steady.action]
    refine running.tree.congr (fun other => ?_) fun other _ =>
      ⟨steady.signum other, steady.oneShot other⟩
    rw [steady.opened, steady.signum]
  · rw [steady.opened, steady.home]
    exact own loop message inside
  · rw [steady.opened, steady.home]
    exact callback loop handle place
  · rw [steady.opened] at opened
    rw [steady.closing] at closing
    rw [steady.signum]
    exact running.closing handle opened closing
  · rw [steady.tree]
    exact (pass pass' here).congr fun other _ member => ⟨member, steady.signum other⟩

omit [LinearOrder ℓ] in
/-- The messages that wait for a handle are those in the pipe and in the buffer of its loop. -/
theorem waiting_congr (home : (next.handle handle).loop = (world.handle handle).loop)
    (pipe : ∀ loop, (next.loop loop).pipe = (world.loop loop).pipe)
    (buf : ∀ loop, (next.loop loop).buf = (world.loop loop).buf) :
    next.waiting handle = world.waiting handle := by
  rw [waiting, waiting, home, pipe, buf]

omit [LinearOrder ℓ] in
/-- One more is in flight during the callback of the handle. -/
theorem inFlight_congr (home : (next.handle handle).loop = (world.handle handle).loop)
    (waiting : next.waiting handle = world.waiting handle)
    (place : (next.loop (world.handle handle).loop).place = .callback handle ↔
      (world.loop (world.handle handle).loop).place = .callback handle) :
    next.inFlight handle = world.inFlight handle := by
  rw [inFlight, inFlight, waiting, home, if_congr place rfl rfl]

omit [LinearOrder ℓ] in
/-- A message that is sent to the handle is one more in flight. -/
theorem inFlight_sent (home : (next.handle handle).loop = (world.handle handle).loop)
    (waiting : next.waiting handle = world.waiting handle + 1)
    (place : (next.loop (world.handle handle).loop).place = .callback handle ↔
      (world.loop (world.handle handle).loop).place = .callback handle) :
    next.inFlight handle = world.inFlight handle + 1 := by
  rw [inFlight, inFlight, waiting, home, if_congr place rfl rfl]
  exact Nat.add_right_comm _ _ _

omit [LinearOrder ℓ] in
/-- A step that moves no message and no signal handler, and counts nothing, passes a handle by. -/
theorem Unmoved.quiet (opened : (next.handle handle).opened = (world.handle handle).opened)
    (home : (next.handle handle).loop = (world.handle handle).loop)
    (caught : (next.handle handle).caughtSignals = (world.handle handle).caughtSignals)
    (dispatched : (next.handle handle).dispatchedSignals =
      (world.handle handle).dispatchedSignals)
    (loops : ∀ loop, (next.loop loop).pipe = (world.loop loop).pipe ∧
      (next.loop loop).buf = (world.loop loop).buf ∧
        (next.loop loop).place = (world.loop loop).place)
    (pass : next.pass = world.pass) (raised : next.raised handle = world.raised handle)
    (dropped : next.dropped handle = world.dropped handle)
    (calls : next.calls handle = world.calls handle)
    (stale : next.stale handle = world.stale handle) : world.Unmoved next handle := by
  have waiting : next.waiting handle = world.waiting handle :=
    waiting_congr home (fun loop => (loops loop).1) fun loop => (loops loop).2.1
  refine ⟨opened, home, caught, dispatched, waiting, inFlight_congr home waiting ?_, ?_, ?_,
    raised, dropped, calls, stale⟩
  · rw [(loops _).2.2]
  · rw [SignalWorld.uncounted, SignalWorld.uncounted, pass]
  · rw [SignalWorld.visiting, SignalWorld.visiting, pass]

omit [LinearOrder ℓ] in
/-- A handle that begins or stops to watch a signal passes no handle by, itself included. -/
theorem Unmoved.rewatch {fields : UvSignal ℓ} {tree : List ν} {action : Nat → SigAction}
    (opened : fields.opened = (world.handle handle).opened)
    (home : fields.loop = (world.handle handle).loop)
    (caught : fields.caughtSignals = (world.handle handle).caughtSignals)
    (dispatched : fields.dispatchedSignals = (world.handle handle).dispatchedSignals) (other : ν) :
    world.Unmoved { world with
      handle := Function.update world.handle handle fields
      tree := tree
      action := action } other :=
  .quiet (update_same UvSignal.opened opened other) (update_same UvSignal.loop home other)
    (update_same UvSignal.caughtSignals caught other)
    (update_same UvSignal.dispatchedSignals dispatched other) (fun _ => ⟨rfl, rfl, rfl⟩) rfl rfl
    rfl rfl rfl

omit [LinearOrder ν] in
/-- What is written into a loop is for the handles of that loop. -/
theorem setLoop_other {fields : SignalLoop ν} {name : ℓ} (different : name ≠ loop) :
    (world.setLoop loop fields).loop name = world.loop name := by
  simp only [setLoop, Function.update_of_ne different]

omit [LinearOrder ν] in
/-- The loop itself has what is written. -/
theorem setLoop_self {fields : SignalLoop ν} : (world.setLoop loop fields).loop loop = fields := by
  simp only [setLoop, Function.update_self]

/-- The messages that wait for a handle of the loop. -/
theorem waiting_setLoop {fields : SignalLoop ν} (home : (world.handle handle).loop = loop) :
    (world.setLoop loop fields).waiting handle =
      messages handle fields.pipe + messages handle fields.buf := by
  have same : ((world.setLoop loop fields).handle handle).loop = loop := home
  rw [waiting, same, setLoop_self]

/-- A loop that is written passes a handle by that has as many messages in it as before, and a
callback if it had one. -/
theorem Unmoved.setLoop {fields : SignalLoop ν}
    (messages : (world.handle handle).loop = loop →
      messages handle fields.pipe + messages handle fields.buf =
        messages handle (world.loop loop).pipe + messages handle (world.loop loop).buf)
    (place : (world.handle handle).loop = loop →
      (fields.place = .callback handle ↔ (world.loop loop).place = .callback handle)) :
    world.Unmoved (world.setLoop loop fields) handle := by
  have waiting : (world.setLoop loop fields).waiting handle = world.waiting handle := by
    by_cases home : (world.handle handle).loop = loop
    · rw [waiting_setLoop home, messages home, SignalWorld.waiting, home]
    · have elsewhere : (world.setLoop loop fields).loop (world.handle handle).loop =
          world.loop (world.handle handle).loop := setLoop_other home
      rw [SignalWorld.waiting, SignalWorld.waiting]
      exact congrArg (fun fields => SignalWorld.messages handle fields.pipe +
        SignalWorld.messages handle fields.buf) elsewhere
  refine ⟨rfl, rfl, rfl, rfl, waiting, inFlight_congr rfl waiting ?_, rfl, rfl, rfl, rfl, rfl, rfl⟩
  by_cases home : (world.handle handle).loop = loop
  · rw [home, setLoop_self]
    exact place home
  · rw [setLoop_other home]

omit [LinearOrder ℓ] in
/-- A callback adds to what waits for the handle. -/
theorem inFlight_called (home : (world.handle handle).loop = loop)
    (place : (world.loop loop).place = .callback handle) :
    world.inFlight handle = world.waiting handle + 1 := by
  rw [inFlight, home, if_pos place]

omit [LinearOrder ℓ] in
/-- Out of its callback, no more is in flight for a handle than waits for it. -/
theorem inFlight_waiting (home : (world.handle handle).loop = loop)
    (place : (world.loop loop).place ≠ .callback handle) :
    world.inFlight handle = world.waiting handle := by
  rw [inFlight, home, if_neg place]
  rfl

omit [LinearOrder ℓ] in
/-- Nothing is uncounted while no signal handler has the lock. -/
theorem uncounted_unlocked (unlocked : world.pass = none) : world.uncounted handle = 0 := by
  rw [uncounted, unlocked]
  exact if_neg (by simp)

omit [LinearOrder ℓ] in
/-- A message is uncounted from its write until the signal handler counts it. -/
theorem uncounted_wrote {rest : List ν} (here : world.pass = some ⟨signum, handle :: rest, true⟩) :
    world.uncounted handle = 1 := by
  rw [uncounted, here]
  exact if_pos rfl

omit [LinearOrder ℓ] in
/-- Nothing is uncounted between two visits. -/
theorem uncounted_between {rest : List ν} (here : world.pass = some ⟨signum, rest, false⟩) :
    world.uncounted handle = 0 := by
  rw [uncounted, here]
  exact if_neg (by simp [SignalPass.written])

omit [LinearOrder ℓ] in
/-- Nothing is uncounted for a handle that is not visited. -/
theorem uncounted_other {rest : List ν} {wrote : Bool}
    (here : world.pass = some ⟨signum, handle :: rest, wrote⟩) (different : other ≠ handle) :
    world.uncounted other = 0 := by
  rw [uncounted, here]
  refine if_neg fun written => ?_
  cases wrote with
  | false => cases written
  | true => exact different (Option.some.inj written).symm

omit [LinearOrder ℓ] in
/-- No visit is to come while no signal handler has the lock. -/
theorem visiting_unlocked (unlocked : world.pass = none) : world.visiting handle = 0 := by
  rw [visiting, unlocked]
  exact if_neg (by simp)

omit [LinearOrder ℓ] in
/-- The visits to come are those that the signal handler has before it. -/
theorem visiting_locked {visits : SignalPass ν} (here : world.pass = some visits) :
    world.visiting handle = if handle ∈ visits.rest then 1 else 0 := by
  rw [visiting, here]
  exact if_congr (by simp) rfl rfl

end Frames

section Books

omit [LinearOrder ℓ]

/-- The signal handler visits handles of the tree only. -/
theorem Running.unvisited (running : world.Running) (absent : handle ∉ world.tree) :
    world.uncounted handle = 0 ∧ world.visiting handle = 0 := by
  cases here : world.pass with
  | none => exact ⟨uncounted_unlocked here, visiting_unlocked here⟩
  | some visits =>
    have outside : handle ∉ visits.rest := by
      intro member
      exact absent ((running.pass visits here).watching handle member).1
    rw [visiting_locked here, if_neg outside]
    refine ⟨?_, rfl⟩
    obtain ⟨signum, rest, wrote⟩ := visits
    cases rest with
    | nil =>
      rw [uncounted, here]
      refine if_neg fun written => ?_
      cases wrote with
      | false => cases written
      | true => cases written
    | cons first rest =>
      refine uncounted_other here ?_
      rintro rfl
      exact outside List.mem_cons_self

/-- A handle that is being closed watches no signal. -/
theorem Running.unwatched (running : world.Running) (opened : (world.handle handle).opened = true)
    (closing : (world.handle handle).closing = true) : handle ∉ world.tree := by
  rw [running.tree.members]
  exact fun watching => watching.2 (running.closing handle opened closing)

/-- In C the counters have 32 bits. What is under way is less than that, so they are equal
there exactly when they are equal here. -/
theorem Kept.counters_wrap (kept : world.Kept) (opened : (world.handle handle).opened = true)
    (few : world.inFlight handle < 2 ^ 32) :
    BitVec.ofNat 32 (world.handle handle).caughtSignals =
        BitVec.ofNat 32 (world.handle handle).dispatchedSignals ↔
      (world.handle handle).caughtSignals = (world.handle handle).dispatchedSignals := by
  have balance := (kept.balanced handle opened).counted
  have single : world.uncounted handle ≤ 1 := by
    rw [uncounted]
    split <;> omega
  rw [← BitVec.toNat_inj, BitVec.toNat_ofNat, BitVec.toNat_ofNat]
  omega

/-- A step that hands no handle over, and makes none ripe, keeps the lists of the loops. -/
theorem Kept.quiet (kept : world.Kept) (running : next.Running)
    (ripe : ∀ loop other, next.Ripe loop other ↔ world.Ripe loop other)
    (listed : ∀ loop, (next.loop loop).closingHandles = (world.loop loop).closingHandles) :
    next.Kept := by
  refine ⟨running, fun loop other => ?_, fun loop => ?_⟩
  · rw [listed, ripe]
    exact kept.pending loop other
  · rw [listed]
    exact kept.once loop

/-- A handle that is late and must not be handed over yet is no longer late. -/
theorem Running.kept (running : world.Running) (late : world.Late handle)
    (unripe : ∀ loop, ¬ world.Ripe loop handle) : world.Kept := by
  refine ⟨running, fun loop other => ?_, late.once⟩
  by_cases own : other = handle
  · rw [own]
    exact iff_of_false (late.absent loop) (unripe loop)
  · exact late.pending loop other own

/-- A handle may be late over a step that hands no handle over. -/
theorem Late.quiet (late : world.Late handle)
    (ripe : ∀ loop other, other ≠ handle → (next.Ripe loop other ↔ world.Ripe loop other))
    (listed : ∀ loop, (next.loop loop).closingHandles = (world.loop loop).closingHandles) :
    next.Late handle := by
  refine ⟨fun loop => ?_, fun loop other different => ?_, fun loop => ?_⟩
  · rw [listed]
    exact late.absent loop
  · rw [listed, ripe loop other different]
    exact late.pending loop other different
  · rw [listed]
    exact late.once loop

/-- A handle that begins or stops to watch a signal. Only the signal that it watches and the
tree change; the messages that are on their way are counted as before. -/
theorem Running.rewatch (running : world.Running) {fields : UvSignal ℓ} {tree : List ν}
    {action : Nat → SigAction} (treeNext : Tree (Function.update world.handle handle fields) tree
      action)
    (opened : fields.opened = (world.handle handle).opened)
    (home : fields.loop = (world.handle handle).loop)
    (caught : fields.caughtSignals = (world.handle handle).caughtSignals)
    (dispatched : fields.dispatchedSignals = (world.handle handle).dispatchedSignals)
    (stopped : fields.closing = true → fields.signum = 0)
    (sound : ∀ pass, world.pass = some pass →
      pass.Sound (Function.update world.handle handle fields) tree) :
    Running { world with
      handle := Function.update world.handle handle fields, tree := tree, action := action } := by
  have opened' (other : ν) : (Function.update world.handle handle fields other).opened =
      (world.handle other).opened := update_same UvSignal.opened opened other
  have home' (other : ν) : (Function.update world.handle handle fields other).loop =
      (world.handle other).loop := update_same UvSignal.loop home other
  refine ⟨treeNext, fun loop message inside => ?own, fun loop other place => ?callback,
    fun other opened => ?balanced, fun other opened closing => ?closing, sound, running.idle⟩
  case own =>
    rw [opened', home']
    exact running.own loop message inside
  case callback =>
    rw [opened', home']
    exact running.callback loop other place
  case balanced =>
    have before : (world.handle other).opened = true := (opened' other).symm.trans opened
    exact (running.balanced other before).unmoved
      (.rewatch ‹fields.opened = _› home caught dispatched other)
  case closing =>
    dsimp only at opened closing ⊢
    by_cases own : other = handle
    · rw [own, Function.update_self] at closing ⊢
      exact stopped closing
    · rw [Function.update_of_ne own] at opened closing ⊢
      exact running.closing other opened closing

/-- So it is for the lists of the handles that are handed over. -/
theorem Kept.rewatch (kept : world.Kept) {fields : UvSignal ℓ} {tree : List ν}
    {action : Nat → SigAction} (treeNext : Tree (Function.update world.handle handle fields) tree
      action)
    (opened : fields.opened = (world.handle handle).opened)
    (home : fields.loop = (world.handle handle).loop)
    (caught : fields.caughtSignals = (world.handle handle).caughtSignals)
    (dispatched : fields.dispatchedSignals = (world.handle handle).dispatchedSignals)
    (closing : fields.closing = (world.handle handle).closing)
    (stopped : fields.closing = true → fields.signum = 0)
    (sound : ∀ pass, world.pass = some pass →
      pass.Sound (Function.update world.handle handle fields) tree) :
    Kept { world with
      handle := Function.update world.handle handle fields, tree := tree, action := action } :=
  kept.quiet (kept.toRunning.rewatch treeNext opened home caught dispatched stopped sound)
    (fun name other => (Unmoved.rewatch opened home caught dispatched other).ripe
      (update_same UvSignal.closing closing other) name) fun _ => rfl

/-- A handle may be late over it, whether it is closing or not. -/
theorem Late.rewatch (late : world.Late handle) {fields : UvSignal ℓ} {tree : List ν}
    {action : Nat → SigAction} (opened : fields.opened = (world.handle handle).opened)
    (home : fields.loop = (world.handle handle).loop)
    (caught : fields.caughtSignals = (world.handle handle).caughtSignals)
    (dispatched : fields.dispatchedSignals = (world.handle handle).dispatchedSignals) :
    Late { world with
      handle := Function.update world.handle handle fields, tree := tree,
      action := action } handle := by
  refine late.quiet (fun name other different =>
    (Unmoved.rewatch opened home caught dispatched other).ripe ?_ name) fun _ => rfl
  exact congrArg UvSignal.closing (Function.update_of_ne different _ _)

/-- A handle that is not ripe may be late. -/
theorem Kept.late (kept : world.Kept) (unripe : ∀ loop, ¬ world.Ripe loop handle) :
    world.Late handle :=
  ⟨fun name member => unripe name ((kept.pending name handle).mp member),
    fun name other _ => kept.pending name other, kept.once⟩

end Books

section Handover

omit [LinearOrder ν] in
/-- The assertions hold for a handle that is closing and still open. -/
theorem makeClosePending_ok (world : SignalWorld ℓ ν)
    (closing : (world.handle handle).closing = true)
    (opened : (world.handle handle).opened = true) :
    world.makeClosePending handle = .ok (world.setLoop (world.handle handle).loop
      { world.loop (world.handle handle).loop with
        closingHandles := handle :: (world.loop (world.handle handle).loop).closingHandles }) := by
  rw [makeClosePending]
  dsimp only
  rw [if_neg (by simp [closing, opened])]

/-- Only the closing of handles depends on the list of those that are to be closed. -/
theorem Unmoved.relist (loop : ℓ) (handles : List ν) (other : ν) :
    world.Unmoved (world.setLoop loop { world.loop loop with closingHandles := handles }) other :=
  .setLoop (fun _ => rfl) fun _ => Iff.rfl

/-- So all else goes on. -/
theorem Running.relist (running : world.Running) (loop : ℓ) (handles : List ν) :
    (world.setLoop loop { world.loop loop with closingHandles := handles }).Running := by
  have pipe (name : ℓ) : ((world.setLoop loop { world.loop loop with
      closingHandles := handles }).loop name).pipe = (world.loop name).pipe :=
    update_same SignalLoop.pipe (by rfl) name
  have buf (name : ℓ) : ((world.setLoop loop { world.loop loop with
      closingHandles := handles }).loop name).buf = (world.loop name).buf :=
    update_same SignalLoop.buf (by rfl) name
  have place (name : ℓ) : ((world.setLoop loop { world.loop loop with
      closingHandles := handles }).loop name).place = (world.loop name).place :=
    update_same SignalLoop.place (by rfl) name
  refine running.steady (.refl rfl rfl rfl) (fun name message inside => ?_)
    (fun name other here => ?_)
    (fun other opened => (running.balanced other opened).unmoved (.relist loop handles other))
    running.pass fun name polls => ?_
  · rw [pipe, buf] at inside
    exact running.own name message inside
  · rw [place] at here
    exact running.callback name other here
  · rw [place] at polls
    rw [buf]
    exact running.idle name polls

/-- A handle that is being closed is handed over when nothing is in flight for it. The counters
are equal exactly when no message of the handle is in a pipe or in a buffer. -/
theorem Running.settle (running : world.Running) (late : world.Late handle)
    (opened : (world.handle handle).opened = true) :
    ∃ next, (if (world.handle handle).closing = true ∧
      (world.handle handle).caughtSignals = (world.handle handle).dispatchedSignals then
        world.makeClosePending handle else .ok world) = .ok next ∧ next.Kept := by
  by_cases closing : (world.handle handle).closing = true
  · have balance := (running.balanced handle opened).counted
    rw [(running.unvisited (running.unwatched opened closing)).1] at balance
    by_cases done :
        (world.handle handle).caughtSignals = (world.handle handle).dispatchedSignals
    · have none : world.inFlight handle = 0 := by omega
      rw [if_pos ⟨closing, done⟩]
      refine ⟨_, makeClosePending_ok world closing opened, running.relist _ _,
        fun name other => ?pending, fun name => ?once⟩
      case pending =>
        rw [(Unmoved.relist _ _ other).ripe rfl]
        by_cases home : name = (world.handle handle).loop
        · rw [home, setLoop_self, List.mem_cons]
          by_cases own : other = handle
          · rw [own]
            exact iff_of_true (Or.inl rfl) ⟨opened, rfl, closing, none⟩
          · rw [or_iff_right own]
            exact late.pending _ other own
        · rw [setLoop_other home]
          by_cases own : other = handle
          · rw [own]
            exact iff_of_false (late.absent name) fun ripe => home ripe.2.1.symm
          · exact late.pending name other own
      case once =>
        by_cases home : name = (world.handle handle).loop
        · rw [home, setLoop_self]
          exact List.nodup_cons.mpr ⟨late.absent _, late.once _⟩
        · rw [setLoop_other home]
          exact late.once name
    · rw [if_neg fun both => done both.2]
      refine ⟨world, rfl, running.kept late fun name ripe => done ?_⟩
      have none := ripe.2.2.2
      omega
  · rw [if_neg fun both => closing both.1]
    exact ⟨world, rfl, running.kept late fun name ripe => closing ripe.2.2.1⟩

end Handover

section Handles

omit [LinearOrder ℓ] in
/-- A handle that is not open has no message and no callback. -/
theorem Running.unborn (running : world.Running) (notOpened : (world.handle handle).opened = false)
    (loop : ℓ) : messages handle (world.loop loop).pipe = 0 ∧
      messages handle (world.loop loop).buf = 0 ∧
        (world.loop loop).place ≠ .callback handle := by
  have unnamed (message : ν × Nat)
      (inside : message ∈ (world.loop loop).pipe ∨ message ∈ (world.loop loop).buf) :
      message.1 ≠ handle := by
    rintro rfl
    exact Bool.false_ne_true (notOpened.symm.trans (running.own loop message inside).1)
  refine ⟨messages_eq_zero fun message member => unnamed message (Or.inl member),
    messages_eq_zero fun message member => unnamed message (Or.inr member), fun place => ?_⟩
  exact Bool.false_ne_true (notOpened.symm.trans (running.callback loop handle place).1)

omit [LinearOrder ℓ] in
/-- A handle is initialised where no handle is open. Its counters begin at zero, and no message
of it is anywhere. -/
theorem uvSignalInit_kept (kept : world.Kept)
    (permits : world.Permits (.init handle loop)) : (world.uvSignalInit handle loop).Kept := by
  obtain ⟨notOpened, _⟩ := permits
  have absent : handle ∉ world.tree := by
    rw [kept.tree.members, notOpened]
    exact fun watching => Bool.false_ne_true watching.1
  obtain ⟨written, unvisited⟩ := kept.unvisited absent
  obtain ⟨pipe, buf, place⟩ := kept.unborn notOpened loop
  have self : (world.uvSignalInit handle loop).handle handle =
      ⟨loop, 0, false, 0, 0, false, true⟩ := Function.update_self _ _ _
  have apart {other : ν} (different : other ≠ handle) :
      (world.uvSignalInit handle loop).handle other = world.handle other :=
    Function.update_of_ne different _ _
  have named {other : ν} (opened : (world.handle other).opened = true) : other ≠ handle := by
    rintro rfl
    exact Bool.false_ne_true (notOpened.symm.trans opened)
  have unmoved {other : ν} (different : other ≠ handle) :
      world.Unmoved (world.uvSignalInit handle loop) other := by
    refine .quiet ?_ ?_ ?_ ?_ (fun _ => ⟨rfl, rfl, rfl⟩) rfl (Function.update_of_ne different _ _)
      (Function.update_of_ne different _ _) (Function.update_of_ne different _ _)
      (Function.update_of_ne different _ _)
    all_goals rw [apart different]
  have waiting : (world.uvSignalInit handle loop).waiting handle = 0 := by
    rw [SignalWorld.waiting, self]
    exact congrArg₂ (· + ·) pipe buf
  have home : ((world.uvSignalInit handle loop).handle handle).loop = loop := by rw [self]
  have inFlight : (world.uvSignalInit handle loop).inFlight handle = 0 :=
    (inFlight_waiting home place).trans waiting
  have uncounted : (world.uvSignalInit handle loop).uncounted handle = 0 := written
  have visiting : (world.uvSignalInit handle loop).visiting handle = 0 := unvisited
  refine ⟨⟨?tree, fun name message inside => ?own, fun name other here => ?callback,
    fun other opened => ?balanced, fun other opened closing => ?closing, fun pass here => ?pass,
    kept.idle⟩, fun name other => ?pending, kept.once⟩
  case tree =>
    refine kept.tree.congr (fun other => ?_) fun other member => ?_
    · by_cases own : other = handle
      · rw [own, self, notOpened]
        simp
      · rw [apart own]
    · rw [apart (named ((kept.tree.members other).mp member).1)]
      exact ⟨rfl, rfl⟩
  case own =>
    have before := kept.own name message inside
    rw [apart (named before.1)]
    exact before
  case callback =>
    have before := kept.callback name other here
    rw [apart (named before.1)]
    exact before
  case balanced =>
    by_cases own : other = handle
    · rw [own]
      constructor
      · rw [self, uncounted, inFlight]
      · rw [uncounted, waiting, visiting]
        simp only [uvSignalInit, Function.update_self]
    · rw [apart own] at opened
      exact (kept.balanced other opened).unmoved (unmoved own)
  case closing =>
    by_cases own : other = handle
    · rw [own, self] at closing
      cases closing
    · rw [apart own] at opened closing ⊢
      exact kept.closing other opened closing
  case pass =>
    refine (kept.pass pass here).congr fun other _ member => ⟨member, ?_⟩
    rw [apart (named ((kept.tree.members other).mp member).1)]
  case pending =>
    by_cases own : other = handle
    · rw [own]
      refine iff_of_false (fun member => ?_) fun ripe => ?_
      · exact named ((kept.pending name handle).mp member).1 rfl
      · have closing := ripe.2.2.1
        rw [self] at closing
        cases closing
    · rw [(unmoved own).ripe (by rw [apart own])]
      exact kept.pending name other

/-- A handle begins to watch a signal, or `sigaction` has failed. -/
theorem signalStart_kept (kept : world.Kept) {oneshot error : Bool}
    (permits : world.Permits (.start handle signum oneshot error)) :
    (world.signalStart handle signum oneshot error).Kept := by
  obtain ⟨⟨opened, notClosing, _⟩, idle⟩ := permits
  have unwatching : signum = 0 ∨ signum = (world.handle handle).signum ∨
      (world.handle handle).signum = 0 := idle.imp_right (Or.imp_right And.left)
  rcases signalStart_spec kept.tree opened unwatching oneshot error with same |
    ⟨watching, unwatched, oneShot, tree, action, started, treeNext⟩
  · rw [same]
    exact kept
  · have unlocked : world.pass = none := by
      rcases idle with zero | same | ⟨_, free⟩
      · exact absurd zero watching
      · exact absurd (same.trans unwatched) watching
      · exact Option.isNone_iff_eq_none.mp free
    rw [started]
    refine kept.rewatch treeNext rfl rfl rfl rfl rfl (fun closing => ?_) fun pass here => ?_
    · exact absurd (notClosing.symm.trans closing) Bool.false_ne_true
    · rw [unlocked] at here
      cases here

omit [LinearOrder ℓ] in
/-- Whoever can stop a handle is not in the middle of a visit to it. -/
theorem Running.stopped_sound (running : world.Running) (stoppable : world.Stoppable handle)
    {fields : UvSignal ℓ} (pass : SignalPass ν) (here : world.pass = some pass) :
    pass.Sound (Function.update world.handle handle fields) (world.tree.erase handle) := by
  have unwatching : (world.handle handle).signum = 0 := by
    refine stoppable.resolve_right fun unlocked => ?_
    have none : world.pass = none := Option.isNone_iff_eq_none.mp unlocked
    rw [none] at here
    cases here
  refine (running.pass pass here).congr fun other _ member => ?_
  have different : other ≠ handle := by
    rintro rfl
    exact ((running.tree.members other).mp member).2 unwatching
  refine ⟨(List.mem_erase_of_ne different).mpr member, ?_⟩
  rw [Function.update_of_ne different]

omit [LinearOrder ℓ] in
/-- `uv__signal_stop` for a handle of which no more than its signal number is changed. -/
theorem signalStop_kept (kept : world.Kept) (opened : (world.handle handle).opened = true)
    (stoppable : world.Stoppable handle) :
    ∃ next, world.signalStop handle = .ok next ∧ next.Kept := by
  obtain ⟨action, stopped, treeNext⟩ := signalStop_spec kept.tree opened
  exact ⟨_, stopped, kept.rewatch treeNext rfl rfl rfl rfl rfl (fun _ => rfl)
    (kept.stopped_sound stoppable)⟩

/-- A handle that is closed watches no signal any more, and is handed over when nothing is in
flight for it. -/
theorem signalClose_kept (kept : world.Kept) (permits : world.Permits (.close handle)) :
    ∃ next, world.signalClose handle = .ok next ∧ next.Kept := by
  obtain ⟨⟨opened, notClosing, _⟩, stoppable⟩ := permits
  have treeClosing : Tree (Function.update world.handle handle
      { world.handle handle with closing := true }) world.tree world.action := by
    refine kept.tree.congr (fun other => ?_) fun other _ => ⟨?_, ?_⟩
    · rw [update_same UvSignal.opened (by rfl) other, update_same UvSignal.signum (by rfl) other]
    · exact update_same UvSignal.signum (by rfl) other
    · exact update_same UvSignal.oneShot (by rfl) other
  have openedClosing : ((world.setHandle handle
      { world.handle handle with closing := true }).handle handle).opened = true :=
    (update_same UvSignal.opened (by rfl) handle).trans opened
  obtain ⟨action, stopped, treeNext⟩ := signalStop_spec treeClosing openedClosing
  rw [signalClose, stopped, ok_bind]
  dsimp only [setHandle] at treeNext ⊢
  simp only [Function.update_self, Function.update_idem] at treeNext ⊢
  have running := kept.toRunning.rewatch treeNext rfl rfl rfl rfl (fun _ => rfl)
    (kept.stopped_sound stoppable)
  have unripe (name : ℓ) : ¬ world.Ripe name handle := fun ripe =>
    Bool.false_ne_true (notClosing.symm.trans ripe.2.2.1)
  have late : Late { world with
      handle := Function.update world.handle handle
        { world.handle handle with closing := true, signum := 0 }
      tree := world.tree.erase handle
      action := action } handle := (kept.late unripe).rewatch rfl rfl rfl rfl
  have opened' : (Function.update world.handle handle
      { world.handle handle with closing := true, signum := 0 } handle).opened = true := by
    rw [Function.update_self]
    exact opened
  have settled := running.settle late opened'
  simpa only [Function.update_self, true_and] using settled

omit [LinearOrder ℓ] in
/-- No message names a handle for which nothing is in flight, and the handle is not in its
callback. -/
theorem Running.unnamed (running : world.Running) (none : world.inFlight handle = 0) (name : ℓ) :
    (∀ message, message ∈ (world.loop name).pipe ∨ message ∈ (world.loop name).buf →
      message.1 ≠ handle) ∧ (world.loop name).place ≠ .callback handle := by
  have quiet : (world.loop (world.handle handle).loop).place ≠ .callback handle := by
    intro place
    rw [inFlight_called rfl place] at none
    cases none
  rw [inFlight_waiting rfl quiet, waiting] at none
  constructor
  · rintro message inside rfl
    rw [← (running.own name message inside).2.1] at inside
    rcases inside with sent | read
    · exact messages_none (Nat.eq_zero_of_add_eq_zero_right none) message sent rfl
    · exact messages_none (Nat.eq_zero_of_add_eq_zero_left none) message read rfl
  · intro place
    rw [← (running.callback name handle place).2] at place
    exact quiet place

omit [LinearOrder ℓ] in
/-- A handle that is closed passes the others by. -/
theorem Unmoved.finish (different : other ≠ handle) : world.Unmoved (world.setHandle handle
    { world.handle handle with opened := false }) other := by
  have same : (world.setHandle handle { world.handle handle with opened := false }).handle other =
      world.handle other := Function.update_of_ne different _ _
  refine .quiet ?_ ?_ ?_ ?_ (fun _ => ⟨rfl, rfl, rfl⟩) rfl rfl rfl rfl rfl
  all_goals rw [same]

omit [LinearOrder ℓ] in
/-- All goes on without a handle that is closed. It watches nothing, so the tree and the signal
handler do not see it, and all that is said about the others stays. -/
theorem Running.finish (running : world.Running) (opened : (world.handle handle).opened = true)
    (closing : (world.handle handle).closing = true) (none : world.inFlight handle = 0) :
    (world.setHandle handle { world.handle handle with opened := false }).Running := by
  have unwatching : (world.handle handle).signum = 0 := running.closing handle opened closing
  have apart {other : ν} (different : other ≠ handle) : (world.setHandle handle
      { world.handle handle with opened := false }).handle other = world.handle other :=
    Function.update_of_ne different _ _
  have still {other : ν} (opened : ((world.setHandle handle
      { world.handle handle with opened := false }).handle other).opened = true) :
      other ≠ handle := by
    rintro rfl
    simp only [setHandle, Function.update_self] at opened
    cases opened
  refine ⟨?tree, fun name message inside => ?own, fun name other place => ?callback,
    fun other opened => ?balanced, fun other opened closing => ?closing, fun pass here => ?pass,
    running.idle⟩
  case tree =>
    refine running.tree.congr (fun other => ?_) fun other member => ?_
    · by_cases own : other = handle
      · rw [own]
        refine iff_of_false (fun watching => still watching.1 rfl) fun watching => ?_
        exact watching.2 unwatching
      · rw [apart own]
    · rw [apart]
      · exact ⟨rfl, rfl⟩
      · rintro rfl
        exact ((running.tree.members _).mp member).2 unwatching
  case own =>
    rw [apart ((running.unnamed none name).1 message inside)]
    exact running.own name message inside
  case callback =>
    rw [apart]
    · exact running.callback name other place
    · rintro rfl
      exact (running.unnamed none name).2 place
  case balanced =>
    have different := still opened
    rw [apart different] at opened
    exact (running.balanced other opened).unmoved (.finish different)
  case closing =>
    have different := still opened
    rw [apart different] at opened closing ⊢
    exact running.closing other opened closing
  case pass =>
    refine (running.pass pass here).congr fun other _ member => ⟨member, ?_⟩
    rw [apart]
    rintro rfl
    exact ((running.tree.members _).mp member).2 unwatching

/-- A handle that is handed over has no message left, and none comes. The close was only made
pending when nothing was in flight, and nothing is sent to a handle that watches nothing. -/
theorem finishClose_kept (kept : world.Kept)
    (permits : world.Permits (.finishClose handle)) :
    ∃ next, world.finishClose handle = .ok next ∧ next.Kept := by
  obtain ⟨opened, _, closing, none⟩ := (kept.pending _ _).mp permits.1
  rw [finishClose]
  dsimp only
  rw [if_neg (by simp [opened, closing])]
  have relisted : ∀ other, world.Unmoved (world.setLoop (world.handle handle).loop
      { world.loop (world.handle handle).loop with
        closingHandles := (world.loop (world.handle handle).loop).closingHandles.erase
          handle }) other := Unmoved.relist _ _
  refine ⟨_, rfl, (kept.relist _ _).finish opened closing ((relisted handle).inFlight.trans none),
    fun name other => ?pending, fun name => ?once⟩
  case pending =>
    by_cases own : other = handle
    · rw [own]
      refine iff_of_false (fun member => ?_) fun ripe => ?_
      · by_cases home : name = (world.handle handle).loop
        · subst home
          change handle ∈ ((world.setLoop _ _).loop _).closingHandles at member
          rw [setLoop_self] at member
          exact (kept.once _).not_mem_erase member
        · change handle ∈ ((world.setLoop _ _).loop _).closingHandles at member
          rw [setLoop_other home] at member
          exact home ((kept.pending name handle).mp member).2.1.symm
      · have still := ripe.1
        simp only [setHandle, Function.update_self] at still
        cases still
    · refine Iff.trans ?_ (((Unmoved.finish own).ripe ?_ name).trans
        ((relisted other).ripe rfl name)).symm
      case refine_2 => exact congrArg UvSignal.closing (Function.update_of_ne own _ _)
      change other ∈ ((world.setLoop _ _).loop _).closingHandles ↔ _
      by_cases home : name = (world.handle handle).loop
      · rw [home, setLoop_self, List.mem_erase_of_ne own]
        exact kept.pending _ other
      · rw [setLoop_other home]
        exact kept.pending name other
  case once =>
    change ((world.setLoop _ _).loop name).closingHandles.Nodup
    by_cases home : name = (world.handle handle).loop
    · rw [home, setLoop_self]
      exact (kept.once _).erase handle
    · rw [setLoop_other home]
      exact kept.once name

end Handles

section Handler

omit [LinearOrder ℓ] in
/-- A signal that was to be handled once has its default action when it has arrived. -/
theorem arrive_kept (kept : world.Kept) : (world.arrive signum).Kept := by
  rw [arrive]
  dsimp only
  by_cases once : world.action signum = .once
  · rw [if_pos once]
    refine ⟨⟨?_, kept.own, kept.callback, fun other opened => ?_, kept.closing, kept.pass,
      kept.idle⟩, kept.pending, kept.once⟩
    · refine ⟨kept.tree.members, kept.tree.nodup, kept.tree.ranked, fun other member regular => ?_,
        fun other free => ?_⟩
      · have installed := kept.tree.regular other member regular
        have different : (world.handle other).signum ≠ signum := by
          rintro rfl
          rw [once] at installed
          cases installed
        exact (Function.update_of_ne different _ _).trans installed
      · by_cases own : other = signum
        · rw [own]
          exact Function.update_self _ _ _
        · exact (Function.update_of_ne own _ _).trans (kept.tree.unwatched other free)
    · exact ⟨(kept.balanced other opened).counted, (kept.balanced other opened).told⟩
  · rw [if_neg once]
    exact ⟨⟨kept.tree, kept.own, kept.callback, fun other opened =>
      ⟨(kept.balanced other opened).counted, (kept.balanced other opened).told⟩, kept.closing,
      kept.pass, kept.idle⟩, kept.pending, kept.once⟩

omit [LinearOrder ℓ] in
/-- The signal handler has all handles before it that watch the signal. -/
theorem enterHandler_kept (kept : world.Kept) (permits : world.Permits (.enter signum)) :
    (world.enterHandler signum).Kept := by
  have free : world.pass = none := Option.isNone_iff_eq_none.mp permits.2
  have locked : (world.enterHandler signum).pass = some ⟨signum, world.watchers signum, false⟩ :=
    rfl
  refine ⟨⟨kept.tree, kept.own, kept.callback, fun other opened => ?_, kept.closing,
    fun pass here => ?_, kept.idle⟩, kept.pending, kept.once⟩
  · obtain ⟨counted, told⟩ := kept.balanced other opened
    rw [uncounted_unlocked free] at counted told
    rw [visiting_unlocked free] at told
    refine ⟨?_, ?_⟩
    · rw [uncounted_between locked]
      exact counted
    · rw [uncounted_between locked, visiting_locked locked]
      change world.raised other + (if other ∈ world.watchers signum then 1 else 0) + 0 =
        world.calls other + world.stale other + world.waiting other + world.dropped other +
          if other ∈ world.watchers signum then 1 else 0
      omega
  · cases here
    exact ⟨watchers_nodup kept.tree, fun other member => (mem_watchers kept.tree other).mp member,
      by simp⟩

omit [LinearOrder ℓ] in
/-- The handle that is visited is open and watches the signal. -/
theorem Running.visited (running : world.Running) {rest : List ν} {wrote : Bool}
    (here : world.pass = some ⟨signum, handle :: rest, wrote⟩) :
    handle ∈ world.tree ∧ (world.handle handle).opened = true ∧
      (world.handle handle).signum = signum ∧ (world.handle handle).signum ≠ 0 ∧
        handle ∉ rest := by
  have sound := running.pass _ here
  obtain ⟨member, watches⟩ := sound.watching handle List.mem_cons_self
  obtain ⟨opened, watching⟩ := (running.tree.members handle).mp member
  exact ⟨member, opened, watches, watching, (List.nodup_cons.mp sound.nodup).1⟩

omit [LinearOrder ℓ] in
/-- Behind the first of its handles, the signal handler has the others before it. -/
theorem visiting_tail {rest : List ν} {wrote wrote' : Bool}
    (here : world.pass = some ⟨signum, handle :: rest, wrote⟩)
    (behind : next.pass = some ⟨signum, rest, wrote'⟩) (different : other ≠ handle) :
    next.visiting other = world.visiting other := by
  rw [visiting_locked here, visiting_locked behind]
  refine if_congr ?_ rfl rfl
  rw [List.mem_cons, or_iff_right different]

/-- The signal handler counts the message that it has written. The message was in the pipe one
step before it is counted, and in between the handle is the one that is being visited. -/
theorem visitWritten_kept (kept : world.Kept) {rest : List ν}
    (here : world.pass = some ⟨signum, handle :: rest, true⟩) (full : Bool) :
    ∃ next, world.signalHandler full = .ok next ∧ next.Kept := by
  obtain ⟨_, opened, _, _, once⟩ := kept.visited here
  rw [signalHandler, here]
  dsimp only
  rw [if_neg (by simp [opened]), if_pos rfl]
  refine ⟨_, rfl, ?_⟩
  generalize after : ({ world.setHandle handle { world.handle handle with
    caughtSignals := (world.handle handle).caughtSignals + 1 } with
      pass := some ⟨signum, rest, false⟩ } : SignalWorld ℓ ν) = next
  have handles : next.handle = Function.update world.handle handle { world.handle handle with
      caughtSignals := (world.handle handle).caughtSignals + 1 } := by
    rw [← after]
    rfl
  have loops : next.loop = world.loop := by rw [← after]; rfl
  have behind : next.pass = some ⟨signum, rest, false⟩ := by rw [← after]
  have steady : world.Steady next :=
    .count handles rfl (by rw [← after]; rfl) (by rw [← after]; rfl)
  have waiting (other : ν) : next.waiting other = world.waiting other :=
    waiting_congr (steady.home other) (fun _ => by rw [loops]) fun _ => by rw [loops]
  have inFlight (other : ν) : next.inFlight other = world.inFlight other :=
    inFlight_congr (steady.home other) (waiting other) (by rw [loops])
  have unmoved {other : ν} (different : other ≠ handle) : world.Unmoved next other := by
    have same : next.handle other = world.handle other := by
      rw [handles]
      exact Function.update_of_ne different _ _
    have uncounted : next.uncounted other = world.uncounted other := by
      rw [uncounted_between behind, uncounted_other here different]
    refine ⟨by rw [same], by rw [same], by rw [same], by rw [same], waiting other, inFlight other,
      uncounted, visiting_tail here behind different, ?_, ?_, ?_, ?_⟩
    all_goals
      rw [← after]
      rfl
  refine ⟨kept.toRunning.steady steady (fun name message inside => ?own)
    (fun name other place => ?callback) (fun other opened => ?balanced) (fun pass locked => ?pass)
    (fun name place => ?idle), fun name other => ?pending, fun name => ?once⟩
  case own =>
    rw [loops] at inside
    exact kept.own name message inside
  case callback =>
    rw [loops] at place
    exact kept.callback name other place
  case balanced =>
    by_cases own : other = handle
    · obtain ⟨counted, told⟩ := kept.balanced handle ‹(world.handle handle).opened = true›
      have visited : next.visiting handle = if handle ∈ rest then 1 else 0 := visiting_locked behind
      rw [if_neg once] at visited
      rw [uncounted_wrote here] at counted told
      rw [visiting_locked here, if_pos List.mem_cons_self] at told
      rw [own]
      constructor
      · rw [uncounted_between behind, inFlight, handles, Function.update_self]
        exact counted
      · rw [uncounted_between behind, waiting, visited, ← after]
        exact Nat.succ.inj told
    · exact (kept.balanced other opened).unmoved (unmoved own)
  case pass =>
    rw [behind] at locked
    cases locked
    exact (kept.pass _ here).tail
  case idle =>
    rw [loops] at place ⊢
    exact kept.idle name place
  case pending =>
    rw [loops, steady.ripe (inFlight other)]
    exact kept.pending name other
  case once =>
    rw [loops]
    exact kept.once name

omit [LinearOrder ℓ] in
/-- The signal handler finds the pipe full. The signal is noted as dropped for this handle, and
the next handle is visited. -/
theorem visitFull_kept (kept : world.Kept) {rest : List ν}
    (here : world.pass = some ⟨signum, handle :: rest, false⟩) :
    Kept { world with
      pass := some ⟨signum, rest, false⟩
      dropped := Function.update world.dropped handle (world.dropped handle + 1) } := by
  obtain ⟨_, _, _, _, once⟩ := kept.visited here
  generalize after : ({ world with
    pass := some ⟨signum, rest, false⟩
    dropped := Function.update world.dropped handle (world.dropped handle + 1) } :
      SignalWorld ℓ ν) = next
  have behind : next.pass = some ⟨signum, rest, false⟩ := by rw [← after]
  have uncounted (other : ν) : next.uncounted other = world.uncounted other := by
    rw [uncounted_between here, uncounted_between behind]
  have unmoved {other : ν} (different : other ≠ handle) : world.Unmoved next other := by
    have uncounted := uncounted other
    have visiting := visiting_tail here behind different
    rw [← after] at uncounted visiting ⊢
    exact ⟨rfl, rfl, rfl, rfl, rfl, rfl, uncounted, visiting, rfl,
      Function.update_of_ne different _ _, rfl, rfl⟩
  have balanced (opened : (world.handle handle).opened = true) : next.Balanced handle := by
    obtain ⟨counted, told⟩ := kept.balanced handle opened
    have uncounted := uncounted handle
    have visiting : next.visiting handle = if handle ∈ rest then 1 else 0 := visiting_locked behind
    rw [visiting_locked here, if_pos List.mem_cons_self] at told
    rw [if_neg once] at visiting
    rw [← uncounted] at counted told
    constructor
    · rw [← after] at counted ⊢
      exact counted
    · rw [visiting]
      rw [← after] at told ⊢
      change _ = world.calls handle + world.stale handle + world.waiting handle +
        Function.update world.dropped handle (world.dropped handle + 1) handle + 0
      rw [Function.update_self]
      exact told
  subst after
  refine ⟨⟨kept.tree, kept.own, kept.callback, fun other opened => ?balanced, kept.closing,
    fun pass here => ?pass, kept.idle⟩, kept.pending, kept.once⟩
  case balanced =>
    by_cases own : other = handle
    · rw [own] at opened ⊢
      exact balanced opened
    · exact (kept.balanced other opened).unmoved (unmoved own)
  case pass =>
    cases here
    exact (kept.pass _ ‹world.pass = _›).tail

/-- The signal handler writes a message to the pipe of the loop of a handle. For one step the
pipe holds a message that is not counted yet, which the state of the signal handler says. -/
theorem visitWrite_kept (kept : world.Kept) {rest : List ν}
    (here : world.pass = some ⟨signum, handle :: rest, false⟩) :
    Kept { world.setLoop (world.handle handle).loop { world.loop (world.handle handle).loop with
        pipe := (world.loop (world.handle handle).loop).pipe ++ [(handle, signum)] } with
      pass := some ⟨signum, handle :: rest, true⟩ } := by
  obtain ⟨inside, opened, watches, watching, once⟩ := kept.visited here
  generalize wrote : ({ world.loop (world.handle handle).loop with
    pipe := (world.loop (world.handle handle).loop).pipe ++ [(handle, signum)] } :
      SignalLoop ν) = fields
  generalize after : ({ world.setLoop (world.handle handle).loop fields with
    pass := some ⟨signum, handle :: rest, true⟩ } : SignalWorld ℓ ν) = next
  have written : next.pass = some ⟨signum, handle :: rest, true⟩ := by rw [← after]
  have visiting (other : ν) : next.visiting other = world.visiting other := by
    rw [visiting_locked here, visiting_locked written]
  have place (name : ℓ) : ((world.setLoop (world.handle handle).loop fields).loop name).place =
      (world.loop name).place := update_same SignalLoop.place (by rw [← wrote]) name
  have buf (name : ℓ) : ((world.setLoop (world.handle handle).loop fields).loop name).buf =
      (world.loop name).buf := update_same SignalLoop.buf (by rw [← wrote]) name
  have closing (name : ℓ) : ((world.setLoop (world.handle handle).loop fields).loop
      name).closingHandles = (world.loop name).closingHandles :=
    update_same SignalLoop.closingHandles (by rw [← wrote]) name
  have home : next.handle = world.handle := by rw [← after]; rfl
  have sent : next.waiting handle = world.waiting handle + 1 := by
    have now : (world.setLoop (world.handle handle).loop fields).waiting handle =
        messages handle fields.pipe + messages handle fields.buf := waiting_setLoop rfl
    rw [← wrote, messages_append, messages_self] at now
    rw [← after, ← wrote]
    exact now.trans (Nat.add_right_comm _ _ _)
  have inFlight : next.inFlight handle = world.inFlight handle + 1 := by
    refine inFlight_sent (by rw [home]) sent ?_
    rw [← after]
    exact Eq.congr (place _) rfl
  have unmoved {other : ν} (different : other ≠ handle) : world.Unmoved next other := by
    have elsewhere : world.Unmoved (world.setLoop (world.handle handle).loop fields) other := by
      refine .setLoop (fun same => ?_) fun same => ?_
      · rw [← wrote, messages_append, messages_other different]
        rfl
      · rw [← wrote]
    have uncounted : next.uncounted other = world.uncounted other := by
      rw [uncounted_other written different, uncounted_between here]
    have visiting := visiting other
    rw [← after] at uncounted visiting ⊢
    exact ⟨rfl, rfl, rfl, rfl, elsewhere.waiting, elsewhere.inFlight, uncounted, visiting, rfl,
      rfl, rfl, rfl⟩
  have balanced : next.Balanced handle := by
    obtain ⟨counted, told⟩ := kept.balanced handle opened
    have uncounted := uncounted_wrote written
    have visiting := visiting handle
    rw [uncounted_between here] at counted told
    constructor
    · rw [uncounted, inFlight, home]
      exact congrArg Nat.succ counted
    · rw [uncounted, sent, visiting, ← after]
      change world.raised handle + 1 = world.calls handle + world.stale handle +
        (world.waiting handle + 1) + world.dropped handle + world.visiting handle
      omega
  have alive : (world.handle handle).closing ≠ true := fun closing =>
    watching (kept.closing handle opened closing)
  subst after
  refine ⟨⟨kept.tree, fun name message inside => ?own, fun name other here => ?callback,
    fun other opened => ?balanced, kept.closing, fun pass here => ?pass, fun name polls => ?idle⟩,
    fun name other => ?pending, fun name => ?once⟩
  case own =>
    change message ∈ ((world.setLoop _ fields).loop name).pipe ∨
      message ∈ ((world.setLoop _ fields).loop name).buf at inside
    rw [buf] at inside
    by_cases here : name = (world.handle handle).loop
    · rw [here, setLoop_self, ← wrote, List.mem_append, List.mem_singleton] at inside
      rcases inside with (sent | rfl) | read
      · rw [here]
        exact kept.own _ message (Or.inl sent)
      · exact ⟨opened, here.symm, watches ▸ watching⟩
      · rw [here]
        exact kept.own _ message (Or.inr read)
    · rw [setLoop_other here] at inside
      exact kept.own name message inside
  case callback => exact kept.callback name other ((place name).symm.trans here)
  case balanced =>
    by_cases own : other = handle
    · rw [own]
      exact balanced
    · exact (kept.balanced other opened).unmoved (unmoved own)
  case pass =>
    cases here
    have sound := kept.pass _ ‹world.pass = _›
    exact ⟨sound.nodup, sound.watching, by simp⟩
  case idle => exact (buf name).trans (kept.idle name ((place name).symm.trans polls))
  case pending =>
    change other ∈ ((world.setLoop _ fields).loop name).closingHandles ↔ _
    rw [closing]
    by_cases own : other = handle
    · rw [own]
      exact iff_of_false (fun member => alive ((kept.pending name handle).mp member).2.2.1)
        fun ripe => alive ripe.2.2.1
    · rw [(unmoved own).ripe rfl]
      exact kept.pending name other
  case once =>
    change ((world.setLoop _ fields).loop name).closingHandles.Nodup
    rw [closing]
    exact kept.once name

/-- The signal handler writes a message, or finds the pipe full. -/
theorem visit_kept (kept : world.Kept) {rest : List ν}
    (here : world.pass = some ⟨signum, handle :: rest, false⟩) (full : Bool) :
    ∃ next, world.signalHandler full = .ok next ∧ next.Kept := by
  obtain ⟨_, opened, _, _, _⟩ := kept.visited here
  rw [signalHandler, here]
  dsimp only
  rw [if_neg (by simp [opened]), if_neg (by simp)]
  cases full with
  | true => exact ⟨_, rfl, visitFull_kept kept here⟩
  | false => exact ⟨_, rfl, visitWrite_kept kept here⟩

omit [LinearOrder ℓ] in
/-- Nothing is left to do for the signal handler, and it gives the lock back. -/
theorem leave_kept (kept : world.Kept) {wrote : Bool}
    (here : world.pass = some ⟨signum, [], wrote⟩) : Kept { world with pass := none } := by
  have regular : wrote = false := by
    cases wrote with
    | false => rfl
    | true => exact absurd rfl ((kept.pass _ here).wrote rfl)
  rw [regular] at here
  refine ⟨⟨kept.tree, kept.own, kept.callback, fun other opened => ?balanced, kept.closing,
    fun pass locked => ?pass, kept.idle⟩, kept.pending, kept.once⟩
  case pass => cases locked
  obtain ⟨counted, told⟩ := kept.balanced other opened
  have written : world.uncounted other = 0 := uncounted_between here
  have visited : world.visiting other = 0 := by
    rw [visiting_locked here]
    exact if_neg (by simp)
  rw [written] at counted told
  rw [visited] at told
  exact ⟨counted, told⟩

/-- Each step of the signal handler keeps the books. -/
theorem signalHandler_kept (kept : world.Kept) (full : Bool) :
    ∃ next, world.signalHandler full = .ok next ∧ next.Kept := by
  cases here : world.pass with
  | none =>
    rw [signalHandler, here]
    exact ⟨_, rfl, kept⟩
  | some visits =>
    obtain ⟨signum, rest, wrote⟩ := visits
    cases rest with
    | nil =>
      rw [signalHandler, here]
      exact ⟨_, rfl, leave_kept kept here⟩
    | cons handle rest =>
      cases wrote with
      | true => exact visitWritten_kept kept here full
      | false => exact visit_kept kept here full

end Handler

section Event

/-- A loop that reads its pipe keeps the messages, and their order. At most 32 messages are
taken, from the front of the pipe, and the rest stays for the next time. -/
theorem readPipe_kept (kept : world.Kept) (read : (world.loop loop).buf = [])
    (place : ∀ handle, (world.loop loop).place ≠ .callback handle) :
    (world.readPipe loop).Kept := by
  have split : (world.loop loop).pipe.take 32 ++ (world.loop loop).pipe.drop 32 =
      (world.loop loop).pipe := List.take_append_drop 32 _
  rw [readPipe]
  generalize fills : ({ world.loop loop with
    pipe := (world.loop loop).pipe.drop 32
    buf := (world.loop loop).pipe.take 32
    full := decide (32 ≤ (world.loop loop).pipe.length)
    place := if (world.loop loop).pipe = [] then .poll else .scan } : SignalLoop ν) = fields
  have elsewhere : ∀ handle, fields.place ≠ .callback handle := by
    intro handle
    rw [← fills]
    dsimp only
    split_ifs <;> simp
  have unmoved (other : ν) : world.Unmoved (world.setLoop loop fields) other := by
    refine .setLoop (fun _ => ?_) fun _ => iff_of_false (elsewhere other) (place other)
    have all : messages other
        ((world.loop loop).pipe.take 32 ++ (world.loop loop).pipe.drop 32) = _ :=
      messages_append _ _
    rw [split] at all
    rw [← fills, read, all]
    exact Nat.add_comm _ _
  have closing (name : ℓ) : ((world.setLoop loop fields).loop name).closingHandles =
      (world.loop name).closingHandles :=
    update_same SignalLoop.closingHandles (by rw [← fills]) name
  refine kept.quiet (kept.toRunning.steady (.refl rfl rfl rfl) (fun name message inside => ?own)
    (fun name other here => ?callback)
    (fun other opened => (kept.balanced other opened).unmoved (unmoved other)) kept.pass
    fun name polls => ?idle) (fun name other => (unmoved other).ripe rfl name) closing
  case own =>
    by_cases here : name = loop
    · rw [here, setLoop_self, ← fills] at inside
      rw [here]
      refine kept.own loop message (Or.inl ?_)
      rw [← split, List.mem_append]
      exact inside.symm
    · rw [setLoop_other here] at inside
      exact kept.own name message inside
  case callback =>
    by_cases own : name = loop
    · rw [own, setLoop_self] at here
      exact absurd here (elsewhere other)
    · rw [setLoop_other own] at here
      exact kept.callback name other here
  case idle =>
    by_cases here : name = loop
    · rw [here, setLoop_self, ← fills] at polls ⊢
      have empty : (world.loop loop).pipe = [] := by
        by_contra some
        rw [if_neg some] at polls
        cases polls
      dsimp only
      rw [empty]
      rfl
    · rw [setLoop_other here] at polls ⊢
      exact kept.idle name polls

omit [LinearOrder ν] in
/-- A loop goes on to its messages. -/
theorem setLoop_scan (world : SignalWorld ℓ ν) (loop : ℓ) :
    (∀ name, ((world.setLoop loop { world.loop loop with place := .scan }).loop name).pipe =
      (world.loop name).pipe) ∧
    (∀ name, ((world.setLoop loop { world.loop loop with place := .scan }).loop name).buf =
      (world.loop name).buf) ∧
    (∀ name, ((world.setLoop loop { world.loop loop with place := .scan }).loop
      name).closingHandles = (world.loop name).closingHandles) :=
  ⟨update_same SignalLoop.pipe (by rfl), update_same SignalLoop.buf (by rfl),
    update_same SignalLoop.closingHandles (by rfl)⟩

/-- A message is dispatched behind the callback of its handle: it is counted and no longer in
flight, so the handle may be late. -/
theorem dispatching (kept : world.Kept) (place : (world.loop loop).place = .callback handle) :
    ((world.setLoop loop { world.loop loop with place := .scan }).setHandle handle
      { world.handle handle with
        dispatchedSignals := (world.handle handle).dispatchedSignals + 1 }).Running ∧
    ((world.setLoop loop { world.loop loop with place := .scan }).setHandle handle
      { world.handle handle with
        dispatchedSignals := (world.handle handle).dispatchedSignals + 1 }).Late handle := by
  obtain ⟨opened, home⟩ := kept.callback loop handle place
  generalize after : (world.setLoop loop { world.loop loop with place := .scan }).setHandle handle
    { world.handle handle with
      dispatchedSignals := (world.handle handle).dispatchedSignals + 1 } = next
  have handles : next.handle = Function.update world.handle handle { world.handle handle with
      dispatchedSignals := (world.handle handle).dispatchedSignals + 1 } := by
    rw [← after]
    rfl
  have loops : next.loop =
      (world.setLoop loop { world.loop loop with place := .scan }).loop := by rw [← after]; rfl
  obtain ⟨pipe, buf, listed⟩ := setLoop_scan world loop
  rw [← loops] at pipe buf listed
  have scans : (next.loop loop).place = .scan := by
    rw [loops]
    exact congrArg SignalLoop.place setLoop_self
  have elsewhere {name : ℓ} (different : name ≠ loop) : next.loop name = world.loop name := by
    rw [loops]
    exact setLoop_other different
  have steady : world.Steady next :=
    .count handles rfl (by rw [← after]; rfl) (by rw [← after]; rfl)
  have waiting (other : ν) : next.waiting other = world.waiting other :=
    waiting_congr (steady.home other) pipe buf
  have called : world.inFlight handle = next.inFlight handle + 1 := by
    have quiet : (next.loop loop).place ≠ .callback handle := by
      rw [scans]
      simp
    rw [inFlight_called home place, inFlight_waiting ((steady.home handle).trans home) quiet,
      waiting]
  have inFlight {other : ν} (different : other ≠ handle) :
      next.inFlight other = world.inFlight other := by
    refine inFlight_congr (steady.home other) (waiting other) ?_
    by_cases here : (world.handle other).loop = loop
    · rw [here, scans, place]
      refine iff_of_false (by simp) fun same => ?_
      exact different (SignalPlace.callback.inj same).symm
    · rw [elsewhere here]
  have unmoved {other : ν} (different : other ≠ handle) : world.Unmoved next other := by
    have same : next.handle other = world.handle other := by
      rw [handles]
      exact Function.update_of_ne different _ _
    refine ⟨by rw [same], by rw [same], by rw [same], by rw [same], waiting other,
      inFlight different, ?_, ?_, ?_, ?_, ?_, ?_⟩
    all_goals
      rw [← after]
      rfl
  refine ⟨kept.toRunning.steady steady (fun name message inside => ?own)
    (fun name other here => ?callback) (fun other opened => ?balanced) (fun pass locked => ?pass)
    (fun name polls => ?idle), fun name member => ?absent, fun name other different => ?pending,
    fun name => ?once⟩
  case own =>
    rw [pipe, buf] at inside
    exact kept.own name message inside
  case callback =>
    by_cases own : name = loop
    · rw [own, scans] at here
      cases here
    · rw [elsewhere own] at here
      exact kept.callback name other here
  case balanced =>
    by_cases own : other = handle
    · obtain ⟨counted, told⟩ := kept.balanced handle ‹(world.handle handle).opened = true›
      rw [called] at counted
      rw [own]
      constructor
      · rw [handles, Function.update_self, ← after]
        rw [← after] at counted
        exact counted.trans (Nat.add_right_comm _ 1 _).symm
      · rw [waiting, ← after]
        exact told
    · exact (kept.balanced other opened).unmoved (unmoved own)
  case pass =>
    rw [← after] at locked
    exact kept.pass pass locked
  case idle =>
    by_cases own : name = loop
    · rw [own, scans] at polls
      cases polls
    · rw [elsewhere own] at polls ⊢
      exact kept.idle name polls
  case absent =>
    rw [listed] at member
    have none := ((kept.pending name handle).mp member).2.2.2
    rw [called] at none
    cases none
  case pending =>
    rw [listed, steady.ripe (inFlight different)]
    exact kept.pending name other
  case once =>
    rw [listed]
    exact kept.once name

/-- A message is dispatched. The counter catches up by one, and a one-shot handle stops to watch
its signal. -/
theorem dispatched_kept (kept : world.Kept) (place : (world.loop loop).place = .callback handle)
    (stoppable : (world.handle handle).oneShot = true → world.Stoppable handle) :
    ∃ next, world.dispatched loop handle = .ok next ∧ next.Kept := by
  obtain ⟨opened, _⟩ := kept.callback loop handle place
  obtain ⟨running, late⟩ := dispatching kept place
  rw [dispatched]
  dsimp only
  have handles : (world.setLoop loop { world.loop loop with place := .scan }).handle =
      world.handle := rfl
  rw [handles]
  generalize after : (world.setLoop loop { world.loop loop with place := .scan }).setHandle handle
    { world.handle handle with
      dispatchedSignals := (world.handle handle).dispatchedSignals + 1 } = next at running late ⊢
  have steady : world.Steady next := .count (by rw [← after]; rfl) rfl (by rw [← after]; rfl)
    (by rw [← after]; rfl)
  have opened' : (next.handle handle).opened = true := (steady.opened handle).trans opened
  by_cases oneShot : (world.handle handle).oneShot = true
  · -- A one-shot handle stops to watch, before the counters are compared.
    rw [if_pos oneShot]
    have stoppable' : next.Stoppable handle := by
      refine (stoppable oneShot).imp (fun idle => (steady.signum handle).trans idle) fun free => ?_
      rw [← after]
      exact free
    obtain ⟨action, stopped, treeNext⟩ := signalStop_spec running.tree opened'
    rw [stopped, ok_bind]
    refine (running.rewatch treeNext rfl rfl rfl rfl (fun _ => rfl)
      (running.stopped_sound stoppable')).settle (late.rewatch rfl rfl rfl rfl) ?_
    dsimp only
    rw [Function.update_self]
    exact opened'
  · rw [if_neg oneShot, ok_bind]
    exact running.settle late opened'

/-- Where a loop comes from when it dispatches a message makes no difference. -/
theorem dispatched_place : (world.setLoop loop { world.loop loop with
    place := .callback handle }).dispatched loop handle = world.dispatched loop handle := by
  have same : (world.setLoop loop { world.loop loop with place := .callback handle }).setLoop loop
      { (world.setLoop loop { world.loop loop with place := .callback handle }).loop loop with
        place := .scan } = world.setLoop loop { world.loop loop with place := .scan } := by
    simp only [setLoop, Function.update_idem, Function.update_self]
  rw [dispatched, same]
  rfl

/-- A loop takes the next message and is as if in the callback of its handle: what waited for
the handle is in flight, and the books note a callback or a message that came too late. -/
theorem taken_kept (kept : world.Kept) {rest : List (ν × Nat)}
    (here : (world.loop loop).buf = (handle, signum) :: rest)
    (place : (world.loop loop).place = .scan) (calls stale : ν → Nat)
    (noted : calls handle + stale handle = world.calls handle + world.stale handle + 1)
    (apart : ∀ other, other ≠ handle →
      calls other = world.calls other ∧ stale other = world.stale other) :
    Kept { world.setLoop loop { world.loop loop with buf := rest, place := .callback handle } with
      calls := calls, stale := stale } := by
  obtain ⟨opened, home, _⟩ := kept.own loop (handle, signum) (Or.inr (by simp [here]))
  generalize takes : ({ world.loop loop with buf := rest, place := .callback handle } :
    SignalLoop ν) = fields
  generalize after : ({ world.setLoop loop fields with calls := calls, stale := stale } :
    SignalWorld ℓ ν) = next
  have loops : next.loop = (world.setLoop loop fields).loop := by rw [← after]
  have handles : next.handle = world.handle := by rw [← after]; rfl
  have steady : world.Steady next := by
    rw [← after]
    exact .refl rfl rfl rfl
  have pipe (name : ℓ) : (next.loop name).pipe = (world.loop name).pipe := by
    rw [loops]
    exact update_same SignalLoop.pipe (by rw [← takes]) name
  have listed (name : ℓ) : (next.loop name).closingHandles = (world.loop name).closingHandles := by
    rw [loops]
    exact update_same SignalLoop.closingHandles (by rw [← takes]) name
  have called : (next.loop loop).place = .callback handle := by
    rw [loops, setLoop_self, ← takes]
  have left : (next.loop loop).buf = rest := by
    rw [loops, setLoop_self, ← takes]
  have elsewhere {name : ℓ} (different : name ≠ loop) : next.loop name = world.loop name := by
    rw [loops]
    exact setLoop_other different
  have waiting : world.waiting handle = next.waiting handle + 1 := by
    rw [SignalWorld.waiting, SignalWorld.waiting, handles, home, pipe, left, here, messages_self]
    exact (Nat.add_assoc _ _ 1).symm
  have inFlight : next.inFlight handle = world.inFlight handle := by
    have quiet : (world.loop loop).place ≠ .callback handle := by
      rw [place]
      simp
    rw [inFlight_called ((steady.home handle).trans home) called, inFlight_waiting home quiet,
      waiting]
  have unmoved {other : ν} (different : other ≠ handle) : world.Unmoved next other := by
    have apart := apart other different
    have passed : world.Unmoved (world.setLoop loop fields) other := by
      refine .setLoop (fun _ => ?_) fun _ => ?_
      · rw [here, messages_other different, ← takes]
      · rw [place, ← takes]
        refine iff_of_false (fun same => ?_) (by simp)
        exact different (SignalPlace.callback.inj same).symm
    rw [← after]
    exact ⟨rfl, rfl, rfl, rfl, passed.waiting, passed.inFlight, rfl, rfl, rfl, rfl, apart.1,
      apart.2⟩
  have ripe (name : ℓ) (other : ν) : next.Ripe name other ↔ world.Ripe name other := by
    by_cases own : other = handle
    · rw [own]
      exact steady.ripe inFlight name
    · exact steady.ripe (unmoved own).inFlight name
  refine kept.quiet (kept.toRunning.steady steady (fun name message inside => ?own)
    (fun name other inside => ?callback) (fun other opened => ?balanced) (fun pass locked => ?pass)
    fun name polls => ?idle) ripe listed
  case own =>
    rw [pipe] at inside
    by_cases own : name = loop
    · rw [own, left] at inside
      rw [own]
      refine kept.own loop message (inside.imp_right fun read => ?_)
      rw [here]
      exact List.mem_cons_of_mem _ read
    · rw [elsewhere own] at inside
      exact kept.own name message inside
  case callback =>
    by_cases own : name = loop
    · rw [own, called] at inside
      cases inside
      rw [own]
      exact ⟨opened, home⟩
    · rw [elsewhere own] at inside
      exact kept.callback name other inside
  case balanced =>
    by_cases own : other = handle
    · obtain ⟨counted, told⟩ := kept.balanced handle ‹(world.handle handle).opened = true›
      have notes : next.calls handle + next.stale handle =
          world.calls handle + world.stale handle + 1 := by
        rw [← after]
        exact noted
      have others : next.raised handle = world.raised handle ∧
          next.uncounted handle = world.uncounted handle ∧
            next.dropped handle = world.dropped handle ∧
              next.visiting handle = world.visiting handle := by
        rw [← after]
        exact ⟨rfl, rfl, rfl, rfl⟩
      rw [own]
      constructor
      · rw [inFlight, handles, others.2.1]
        exact counted
      · omega
    · exact (kept.balanced other opened).unmoved (unmoved own)
  case pass =>
    rw [← after] at locked
    exact kept.pass pass locked
  case idle =>
    by_cases own : name = loop
    · rw [own, called] at polls
      cases polls
    · rw [elsewhere own] at polls ⊢
      exact kept.idle name polls

/-- A loop has seen all its messages and goes back to its poll. Nothing but the place of the
loop changes. -/
theorem rest_kept (kept : world.Kept) (here : (world.loop loop).buf = [])
    (place : (world.loop loop).place = .scan) :
    (world.setLoop loop { world.loop loop with place := .poll }).Kept := by
  have pipe (name : ℓ) : ((world.setLoop loop { world.loop loop with place := .poll }).loop
      name).pipe = (world.loop name).pipe := update_same SignalLoop.pipe (by rfl) name
  have buf (name : ℓ) : ((world.setLoop loop { world.loop loop with place := .poll }).loop
      name).buf = (world.loop name).buf := update_same SignalLoop.buf (by rfl) name
  have listed (name : ℓ) : ((world.setLoop loop { world.loop loop with place := .poll }).loop
      name).closingHandles = (world.loop name).closingHandles :=
    update_same SignalLoop.closingHandles (by rfl) name
  have unmoved (other : ν) : world.Unmoved
      (world.setLoop loop { world.loop loop with place := .poll }) other := by
    refine .setLoop (fun _ => rfl) fun _ => ?_
    rw [place]
    exact iff_of_false (by simp) (by simp)
  refine kept.quiet (kept.toRunning.steady (.refl rfl rfl rfl) (fun name message inside => ?own)
    (fun name other inside => ?callback)
    (fun other opened => (kept.balanced other opened).unmoved (unmoved other)) kept.pass
    fun name polls => ?idle) (fun name other => (unmoved other).ripe rfl name) listed
  case own =>
    rw [pipe, buf] at inside
    exact kept.own name message inside
  case callback =>
    by_cases own : name = loop
    · rw [own, setLoop_self] at inside
      cases inside
    · rw [setLoop_other own] at inside
      exact kept.callback name other inside
  case idle =>
    rw [buf]
    by_cases own : name = loop
    · rw [own]
      exact here
    · rw [setLoop_other own] at polls
      exact kept.idle name polls

/-- A loop comes to its next message. Without a message it goes to rest. A message whose signal
is the one that the handle watches leads to a callback, and another one is only counted. -/
theorem signalEvent_kept (kept : world.Kept) (permits : world.Permits (.scan loop)) :
    ∃ next, world.signalEvent loop = .ok next ∧ next.Kept := by
  obtain ⟨place, stoppable⟩ := permits
  rw [signalEvent]
  dsimp only
  cases here : (world.loop loop).buf with
  | nil =>
    dsimp only
    by_cases full : (world.loop loop).full = true
    · rw [if_pos full]
      exact ⟨_, rfl, readPipe_kept kept here (by simp [place])⟩
    · rw [if_neg full]
      refine ⟨_, rfl, ?_⟩
      simpa only [here] using rest_kept kept here place
  | cons message rest =>
    obtain ⟨handle, signum⟩ := message
    obtain ⟨opened, home, signal⟩ := kept.own loop (handle, signum) (Or.inr (by simp [here]))
    have lock := stoppable (handle, signum) (by simp [here])
    dsimp only
    rw [if_neg (by simpa [setLoop] using opened)]
    split
    case isTrue watches =>
      have notClosing : (world.handle handle).closing ≠ true := fun isClosing =>
        signal (watches.trans (kept.closing handle opened isClosing))
      rw [if_neg (by simpa [setLoop] using notClosing)]
      refine ⟨_, rfl, ?_⟩
      have noted : Function.update world.calls handle (world.calls handle + 1) handle +
          world.stale handle = world.calls handle + world.stale handle + 1 := by
        rw [Function.update_self]
        exact Nat.add_right_comm _ 1 _
      have called := taken_kept kept here place _ world.stale noted fun other different =>
        ⟨Function.update_of_ne different _ _, rfl⟩
      simpa only [setLoop, Function.update_self, Function.update_idem] using called
    case isFalse late =>
      -- Without a callback the message is dispatched as if from one.
      rw [← dispatched_place]
      have noted : world.calls handle + Function.update world.stale handle
          (world.stale handle + 1) handle = world.calls handle + world.stale handle + 1 := by
        rw [Function.update_self]
        rfl
      have stale := taken_kept kept here place world.calls _ noted fun other different =>
        ⟨rfl, Function.update_of_ne different _ _⟩
      refine dispatched_kept ?_ (by simp [setLoop]) (lock late)
      simpa only [setLoop, Function.update_self, Function.update_idem] using stale

end Event

/-- No step fails, and each keeps the books. -/
theorem step_kept {action : SignalStep ℓ ν} (kept : world.Kept) (permits : world.Permits action) :
    ∃ next, world.step action = .ok next ∧ next.Kept := by
  cases action with
  | init handle loop => exact ⟨_, rfl, uvSignalInit_kept kept permits⟩
  | start handle signum oneshot error => exact ⟨_, rfl, signalStart_kept kept permits⟩
  | stop handle => exact signalStop_kept kept permits.1.1 permits.2
  | close handle => exact signalClose_kept kept permits
  | finishClose handle => exact finishClose_kept kept permits
  | arrive signum => exact ⟨_, rfl, arrive_kept kept⟩
  | enter signum => exact ⟨_, rfl, enterHandler_kept kept permits⟩
  | pass full => exact signalHandler_kept kept full
  | poll loop =>
    exact ⟨_, rfl, readPipe_kept kept (kept.idle loop permits.1) (by simp [permits.1])⟩
  | scan loop => exact signalEvent_kept kept permits
  | resume loop =>
    obtain ⟨handle, place, stoppable⟩ := permits
    rw [step, signalReturn, place]
    exact dispatched_kept kept place stoppable

omit [LinearOrder ℓ] in
/-- Before the first handle is initialised there is nothing in the books. -/
theorem initial_kept (memory : ν → UvSignal ℓ) : (initial memory).Kept := by
  have closed (handle : ν) : ((initial memory).handle handle).opened ≠ true := by simp [initial]
  refine ⟨⟨⟨fun handle => ?_, List.nodup_nil, List.Pairwise.nil, by simp [initial],
    fun _ _ => rfl⟩, by simp [initial], by simp [initial], fun handle opened => ?_,
    fun handle opened => ?_, by simp [initial], fun _ _ => rfl⟩, fun loop handle => ?_,
    fun _ => List.nodup_nil⟩
  · exact iff_of_false (by simp [initial]) fun watching => closed handle watching.1
  · exact absurd opened (closed handle)
  · exact absurd opened (closed handle)
  · exact iff_of_false (by simp [initial]) fun ripe => closed handle ripe.1

/-- So does every run. -/
theorem throughout_kept (memory : ν → UvSignal ℓ) {actions : List (SignalStep ℓ ν)}
    (legal : (signalSystem ℓ ν).Legal (initial memory) actions) :
    (signalSystem ℓ ν).Throughout Kept (initial memory) actions := by
  refine (signalSystem ℓ ν).throughout_of_safe _ ?_ (initial_kept memory) legal
  intro world action kept permits
  exact step_kept kept permits

section Sample

/-- A signal that two handles of two loops watch. The first is closed in its callback, the
second is one-shot. -/
def twoWatchers : List (SignalStep Bool Bool) :=
  [.init false false, .init true true, .start false 2 false false, .start true 2 true false,
    .arrive 2, .enter 2, .pass false, .pass false, .pass false, .poll false, .scan false,
    .pass false, .pass false, .close false, .resume false, .scan false, .finishClose false,
    .poll true, .scan true, .resume true, .scan true]

/-- The memory of the handles before they are initialised. -/
def blankSignals (_ : Bool) : UvSignal Bool := ⟨false, 0, false, 0, 0, false, false⟩

/-- The two loops, the signal handler and the program may go through these steps. -/
theorem twoWatchers_legal :
    (signalSystem Bool Bool).Legal (initial blankSignals) twoWatchers :=
  (signalSystem _ _).legal_of_check (by decide)

end Sample

/-- No message is for a handle that is gone, and a handle that is closed is handed over for
its close callback when, and only when, no message for it is left. -/
structure Outlived (world : SignalWorld ℓ ν) : Prop where
  opened : ∀ loop message,
    message ∈ (world.loop loop).pipe ∨ message ∈ (world.loop loop).buf →
      (world.handle message.1).opened = true ∧ (world.handle message.1).loop = loop
  visited : ∀ pass, world.pass = some pass → ∀ handle ∈ pass.rest,
    (world.handle handle).opened = true
  closed : ∀ loop handle, handle ∈ (world.loop loop).closingHandles ↔
    (world.handle handle).opened = true ∧ (world.handle handle).loop = loop ∧
      (world.handle handle).closing = true ∧ world.inFlight handle = 0
  once : ∀ loop, (world.loop loop).closingHandles.Nodup

/-- However signals, loops and their callbacks are interleaved, no handle is used behind
its close callback, and no assertion fails. -/
theorem handles_outlive_messages (memory : ν → UvSignal ℓ) (actions : List (SignalStep ℓ ν))
    (legal : (signalSystem ℓ ν).Legal (initial memory) actions) :
    (signalSystem ℓ ν).Throughout Outlived (initial memory) actions := by
  refine System.Throughout.mono _ ?_ (throughout_kept memory legal)
  intro world kept
  constructor
  case opened =>
    intro loop message sent
    obtain ⟨opened, own, _⟩ := kept.own loop message sent
    exact ⟨opened, own⟩
  case visited =>
    intro pass locked handle member
    have inside := ((kept.pass pass locked).watching handle member).1
    exact ((kept.tree.members handle).mp inside).1
  case closed => exact kept.pending
  case once => exact kept.once

/-- The message of the first handle is read before its close callback. -/
theorem handles_outlive_messages_two :
    (signalSystem Bool Bool).Throughout Outlived (initial blankSignals) twoWatchers :=
  handles_outlive_messages blankSignals twoWatchers twoWatchers_legal

/-- Every signal that was handled while the handle watched it has led to one callback, was
told too late, or found the pipe full, unless it still has to be told. -/
theorem signals_counted (memory : ν → UvSignal ℓ) (actions : List (SignalStep ℓ ν))
    (legal : (signalSystem ℓ ν).Legal (initial memory) actions) :
    (signalSystem ℓ ν).Throughout (fun world => ∀ handle,
      (world.handle handle).opened = true → world.raised handle + world.uncounted handle =
        world.calls handle + world.stale handle + world.dropped handle +
          world.waiting handle + world.visiting handle) (initial memory) actions := by
  refine System.Throughout.mono _ ?_ (throughout_kept memory legal)
  intro world kept handle opened
  have told := (kept.balanced handle opened).told
  omega

/-- One signal for two handles. -/
theorem signals_counted_two : (signalSystem Bool Bool).Throughout (fun world => ∀ handle,
    (world.handle handle).opened = true → world.raised handle + world.uncounted handle =
      world.calls handle + world.stale handle + world.dropped handle +
        world.waiting handle + world.visiting handle) (initial blankSignals) twoWatchers :=
  signals_counted blankSignals twoWatchers twoWatchers_legal

/-- The signal handler is installed for the signals that are watched. -/
structure Installed (world : SignalWorld ℓ ν) : Prop where
  regular : ∀ handle, (world.handle handle).opened = true → (world.handle handle).signum ≠ 0 →
    (world.handle handle).oneShot = false →
      world.action (world.handle handle).signum = .handler
  unwatched : ∀ signum, (∀ handle, (world.handle handle).opened = true →
    (world.handle handle).signum ≠ signum) → world.action signum = .default
  /-- The signal handler finds who watches. -/
  found : ∀ signum handle, signum ≠ 0 → (handle ∈ world.watchers signum ↔
    (world.handle handle).opened = true ∧ (world.handle handle).signum = signum)

/-- A handle that watches a signal has the signal handler called, and a signal that nobody
watches has its default action. -/
theorem handlers_installed (memory : ν → UvSignal ℓ) (actions : List (SignalStep ℓ ν))
    (legal : (signalSystem ℓ ν).Legal (initial memory) actions) :
    (signalSystem ℓ ν).Throughout Installed (initial memory) actions := by
  refine System.Throughout.mono _ ?_ (throughout_kept memory legal)
  intro world kept
  have members := kept.tree.members
  constructor
  case regular =>
    intro handle opened watching regular
    exact kept.tree.regular handle ((members handle).mpr ⟨opened, watching⟩) regular
  case unwatched =>
    intro signum free
    refine kept.tree.unwatched signum ?_
    intro other inside
    exact free other ((members other).mp inside).1
  case found =>
    intro signum handle some
    rw [mem_watchers kept.tree, members]
    constructor
    · rintro ⟨⟨opened, _⟩, watches⟩
      exact ⟨opened, watches⟩
    · rintro ⟨opened, rfl⟩
      exact ⟨⟨opened, some⟩, rfl⟩

/-- The signal has its default action when both handles have stopped to watch it. -/
theorem handlers_installed_two :
    (signalSystem Bool Bool).Throughout Installed (initial blankSignals) twoWatchers :=
  handlers_installed blankSignals twoWatchers twoWatchers_legal

end SignalWorld

end MoeUV
