import MoeUV.Loop.Teardown

/-!
# The grace period of the destructor

The destructor gives the loop five seconds to finish its requests. It measures
them with the time that libuv caches, which is the clock as it was when the loop
last looked. Every turn refreshes the cache, but the start of the measurement is
whatever the cache holds when the destructor is entered.

The schedule of a run says when the clock is read in each turn, and what it shows
when the elapsed time is computed. A loop that is alive gets its five seconds
under every schedule exactly when its cache is up to date at the beginning, or
when a clock of 64 bits could not show the end of the period any more.
-/

namespace MoeUV

open Foundation.Execution

/-- A turn, and the clock when the time that has elapsed is computed after it. -/
structure TimedTurn extends Turn where
  ends : BitVec 64

/-- The turns follow each other on a clock that does not go back: each one reads
the clock after the turn before is over. -/
def Clocked (since : BitVec 64) : List TimedTurn → Prop
  | [] => True
  | turn :: turns => since ≤ turn.time ∧ turn.time ≤ turn.ends ∧ Clocked turn.ends turns

/-- Under every schedule, a loop that is left because of the timeout while it is
alive had more than the timeout since the destructor was entered. -/
def GraceKept (loop : RunLoop) (entered : BitVec 64) : Prop :=
  ∀ (turns : List TimedTurn) (last : TimedTurn) (left : RunLoop),
    Clocked entered (turns ++ [last]) →
    RunLoop.drain loop.time loop (turns.map TimedTurn.toTurn) = .ok none →
    RunLoop.drain loop.time loop ((turns ++ [last]).map TimedTurn.toTurn) =
      .ok (some (.timeout, left)) →
    left.uvLoopAlive = true → kMaxLoopTimeout.toNat < last.ends.toNat - entered.toNat

section Timeout

variable {loop left : RunLoop} {start since : BitVec 64}

/-- A turn caches a clock reading, or leaves the cache alone. -/
theorem time_uvRunOnce {turn : Turn} (ran : loop.uvRunOnce turn = .ok left) :
    left.time = turn.time ∨ left.time = loop.time := by
  unfold RunLoop.uvRunOnce at ran
  by_cases idle : loop.uvLoopAlive = false
  · rw [if_pos idle] at ran
    cases ran
    exact Or.inl rfl
  · rw [if_neg idle] at ran
    by_cases stopped : loop.stop = true
    · rw [if_pos stopped] at ran
      cases ran
      exact Or.inr rfl
    · rw [if_neg stopped] at ran
      obtain ⟨polled, _, ran⟩ := bind_ok_iff.mp ran
      obtain ⟨closed, _, ran⟩ := bind_ok_iff.mp ran
      obtain ⟨next, _, ran⟩ := bind_ok_iff.mp ran
      cases ran
      exact Or.inl rfl

/-- A pass of the destructor's loop that went round. -/
theorem drain_cons_ok {turn : Turn} {turns : List Turn} {result : Option (Departure × RunLoop)}
    (drained : RunLoop.drain start loop (turn :: turns) = .ok result)
    (departs : ∀ final, result ≠ some (.idle, final)) :
    ∃ heap between, loop.uvLoopAlive = true ∧ loop.heap.forceCloseAllHandle = .ok heap ∧
      { loop with heap := heap }.uvRunOnce turn = .ok between := by
  cases alive : loop.uvLoopAlive with
  | false =>
    rw [drain_idle start _ alive] at drained
    cases drained
    exact absurd rfl (departs loop)
  | true =>
    rw [RunLoop.drain, if_pos alive] at drained
    obtain ⟨heap, walked, drained⟩ := bind_ok_iff.mp drained
    obtain ⟨between, ran, _⟩ := bind_ok_iff.mp drained
    exact ⟨heap, between, rfl, walked, ran⟩

/-- After a turn the cache lies between the cache before and the end of the turn. -/
theorem cache_uvRunOnce {turn : TimedTurn} (ran : loop.uvRunOnce turn.toTurn = .ok left)
    (past : loop.time ≤ since) (reads : since ≤ turn.time) (ends : turn.time ≤ turn.ends) :
    loop.time ≤ left.time ∧ left.time ≤ turn.ends := by
  rcases time_uvRunOnce ran with cached | cached
  · rw [cached]
    exact ⟨BitVec.le_trans past reads, ends⟩
  · rw [cached]
    exact ⟨BitVec.le_refl _, BitVec.le_trans past (BitVec.le_trans reads ends)⟩

/-- The cache of a loop that is left because of the timeout lies between the cache
before and the clock at the end, and more than the timeout behind the start. -/
theorem drain_timeout (turns : List TimedTurn) {last : TimedTurn}
    (clocked : Clocked since (turns ++ [last])) (past : loop.time ≤ since)
    (waiting : RunLoop.drain start loop (turns.map TimedTurn.toTurn) = .ok none)
    (leaves : RunLoop.drain start loop ((turns ++ [last]).map TimedTurn.toTurn) =
      .ok (some (.timeout, left))) :
    loop.time ≤ left.time ∧ left.time ≤ last.ends ∧ kMaxLoopTimeout < left.time - start := by
  induction turns generalizing loop since with
  | nil =>
    obtain ⟨heap, between, alive, walked, ran⟩ := drain_cons_ok leaves fun _ same => by cases same
    obtain ⟨reads, ends, _⟩ := clocked
    obtain ⟨later, bounded⟩ := cache_uvRunOnce ran past reads ends
    rw [List.nil_append, List.map_singleton, drain_cons alive walked ran] at leaves
    by_cases late : kMaxLoopTimeout < between.time - start
    · rw [if_pos late] at leaves
      cases leaves
      exact ⟨later, bounded, late⟩
    · rw [if_neg late, RunLoop.drain] at leaves
      by_cases again : between.uvLoopAlive = true
      · rw [if_pos again] at leaves
        cases leaves
      · rw [if_neg again] at leaves
        cases leaves
  | cons turn turns inductionHypothesis =>
    obtain ⟨heap, between, alive, walked, ran⟩ := drain_cons_ok waiting fun _ same => by cases same
    obtain ⟨reads, ends, clocked⟩ := clocked
    rw [List.map_cons, drain_cons alive walked ran] at waiting
    rw [List.cons_append, List.map_cons, drain_cons alive walked ran] at leaves
    have early : ¬ kMaxLoopTimeout < between.time - start := by
      intro late
      rw [if_pos late] at waiting
      cases waiting
    rw [if_neg early] at waiting leaves
    obtain ⟨first, within⟩ := cache_uvRunOnce ran past reads ends
    obtain ⟨later, bounded, late⟩ := inductionHypothesis clocked within waiting leaves
    exact ⟨BitVec.le_trans first later, bounded, late⟩

/-- The clock has gone on by more than the timeout since what the cache held at
the beginning. -/
theorem timeout_since_cache {loop left : RunLoop} {since : BitVec 64} (turns : List TimedTurn)
    {last : TimedTurn} (clocked : Clocked since (turns ++ [last])) (past : loop.time ≤ since)
    (waiting : RunLoop.drain loop.time loop (turns.map TimedTurn.toTurn) = .ok none)
    (leaves : RunLoop.drain loop.time loop ((turns ++ [last]).map TimedTurn.toTurn) =
      .ok (some (.timeout, left))) :
    loop.time.toNat + kMaxLoopTimeout.toNat < last.ends.toNat := by
  obtain ⟨later, bounded, late⟩ := drain_timeout turns clocked past waiting leaves
  have elapsed : (left.time - loop.time).toNat = left.time.toNat - loop.time.toNat :=
    BitVec.toNat_sub_of_le later
  rw [BitVec.lt_def, elapsed] at late
  rw [BitVec.le_def] at bounded
  omega

end Timeout

section Schedule

variable {loop : RunLoop}

/-- Closing the handles keeps a loop alive: what kept it alive is closing now. Every handle that
is active and referenced is closed by the walk, and its close is then still to be delivered. -/
theorem alive_forceCloseAllHandle {heap : Heap} (coherent : Coherent loop.heap)
    (walked : loop.heap.forceCloseAllHandle = .ok heap) (alive : loop.uvLoopAlive = true) :
    { loop with heap := heap }.uvLoopAlive = true := by
  obtain ⟨next, again, moves, _, blocks⟩ := forceCloseAllHandle_moves coherent
  obtain rfl := Except.ok.inj (walked.symm.trans again)
  by_contra idle
  rw [Bool.not_eq_true] at idle
  obtain ⟨finished, settled⟩ := closingHandles_of_idle idle
  have coherent' := coherent.moves (moves_of_user moves)
  have nothing : loop.heap.closingHandles = [] := by
    apply List.eq_nil_iff_forall_not_mem.mpr
    intro id member
    have pending := (wanes_moves moves).2 id member
    rw [finished] at pending
    cases pending
  have internal : OnlyInternal loop.heap := by
    intro id member block present
    by_contra user
    have opened : block.phase = .opened := by
      cases phase : block.phase with
      | opened => rfl
      | closing =>
        have closing := (coherent.linked.mem_closing present).mpr phase
        rw [nothing] at closing
        cases closing
      | closed => exact absurd phase ((coherent.linked.mem_queue present).mp member)
    have skipped : ¬ (block.internal = true ∨ block.phase ≠ .opened) := by
      simpa [opened] using user
    have after : heap.blocks id = some block.forceClosed := by
      rw [blocks, if_pos member, present]
      rfl
    have closing := (coherent'.linked.mem_closing after).mpr (by
      rw [Block.forceClosed, if_neg skipped])
    rw [finished] at closing
    cases closing
  rw [idle_of_onlyInternal coherent internal nothing settled] at alive
  cases alive

/-- A turn of which the last callback submits a request. -/
def submittingTurn (time : BitVec 64) : TimedTurn where
  before := []
  cancelled _ := []
  onClose _ := []
  after := [.submit]
  time := time
  ends := time

/-- A loop that is not stopped takes such a turn and is alive after it. -/
theorem uvRunOnce_submittingTurn (coherent : Coherent loop.heap) (alive : loop.uvLoopAlive = true)
    (running : loop.stop = false) (time : BitVec 64) :
    ∃ next, loop.uvRunOnce (submittingTurn time).toTurn = .ok next ∧ next.time = time ∧
      next.uvLoopAlive = true := by
  obtain ⟨next, ran, _⟩ := uvRunOnce_advances (submittingTurn time).toTurn coherent
    fun impossible : False => impossible.elim
  refine ⟨next, ran, ?_⟩
  have idle : ¬ loop.uvLoopAlive = false := by simp [alive]
  have stopped : ¬ loop.stop = true := by simp [running]
  rw [RunLoop.uvRunOnce, if_neg idle, if_neg stopped] at ran
  obtain ⟨polled, _, ran⟩ := bind_ok_iff.mp ran
  obtain ⟨closed, _, ran⟩ := bind_ok_iff.mp ran
  cases ran
  refine ⟨rfl, ?_⟩
  simp [RunLoop.uvLoopAlive]

/-- The loop is left in such a turn if it is late. -/
theorem drain_submittingTurn (coherent : Coherent loop.heap) (alive : loop.uvLoopAlive = true)
    (running : loop.stop = false) {start time : BitVec 64}
    (late : kMaxLoopTimeout < time - start) :
    ∃ left, RunLoop.drain start loop [(submittingTurn time).toTurn] =
      .ok (some (.timeout, left)) ∧ left.uvLoopAlive = true := by
  obtain ⟨heap, walked, coherent', _⟩ := forceCloseAllHandle_draining coherent
  have alive' := alive_forceCloseAllHandle coherent walked alive
  have walkedCoherent : Coherent { loop with heap := heap }.heap := coherent'
  obtain ⟨left, ran, reads, again⟩ := uvRunOnce_submittingTurn walkedCoherent alive' running time
  refine ⟨left, ?_, again⟩
  rw [drain_cons alive walked ran, reads, if_pos late]

/-- A loop that is alive asks for its next turn. -/
theorem drain_waiting {start : BitVec 64} (alive : loop.uvLoopAlive = true) :
    RunLoop.drain start loop [] = .ok none := by
  rw [RunLoop.drain, if_pos alive]
  rfl

/-- A stopped loop spends its first turn on clearing the flag. -/
theorem drain_stopped (coherent : Coherent loop.heap) (alive : loop.uvLoopAlive = true)
    (stopped : loop.stop = true) (turn : Turn) :
    ∃ between, Coherent between.heap ∧ between.uvLoopAlive = true ∧ between.stop = false ∧
      ∀ turns, RunLoop.drain loop.time loop (turn :: turns) =
        RunLoop.drain loop.time between turns := by
  obtain ⟨heap, walked, coherent', _⟩ := forceCloseAllHandle_draining coherent
  have alive' := alive_forceCloseAllHandle coherent walked alive
  have idle : ¬ { loop with heap := heap }.uvLoopAlive = false := by simp [alive']
  have ran : { loop with heap := heap }.uvRunOnce turn =
      .ok { loop with heap := heap, stop := false } := by
    rw [RunLoop.uvRunOnce, if_neg idle, if_pos stopped]
    rfl
  refine ⟨{ loop with heap := heap, stop := false }, coherent', alive', rfl, ?_⟩
  intro turns
  rw [drain_cons alive walked ran, if_neg]
  simp [kMaxLoopTimeout]

/-- A stale cache is enough to lose the grace period: the loop may be left five
seconds after the destructor was entered, or earlier. -/
theorem not_graceKept {entered : BitVec 64} (coherent : Coherent loop.heap)
    (alive : loop.uvLoopAlive = true) (stale : loop.time < entered)
    (room : loop.time.toNat + kMaxLoopTimeout.toNat + 1 < 2 ^ 64) : ¬ GraceKept loop entered := by
  intro kept
  obtain ⟨time, shows⟩ : ∃ time : BitVec 64,
      time.toNat = min (entered.toNat + kMaxLoopTimeout.toNat) (2 ^ 64 - 1) :=
    ⟨BitVec.ofNat 64 (min (entered.toNat + kMaxLoopTimeout.toNat) (2 ^ 64 - 1)),
      Nat.mod_eq_of_lt (by omega)⟩
  have inside := entered.isLt
  rw [BitVec.lt_def] at stale
  have later : entered ≤ time := by
    rw [BitVec.le_def]
    omega
  have late : kMaxLoopTimeout < time - loop.time := by
    have after : loop.time ≤ time := by
      rw [BitVec.le_def]
      omega
    rw [BitVec.lt_def, BitVec.toNat_sub_of_le after]
    omega
  have early : ¬ kMaxLoopTimeout.toNat < (submittingTurn time).ends.toNat - entered.toNat := by
    change ¬ kMaxLoopTimeout.toNat < time.toNat - entered.toNat
    omega
  cases stopped : loop.stop with
  | false =>
    obtain ⟨left, leaves, again⟩ := drain_submittingTurn coherent alive stopped late
    exact early (kept [] (submittingTurn time) left ⟨later, BitVec.le_refl _, trivial⟩
      (drain_waiting alive) leaves again)
  | true =>
    obtain ⟨between, coherent', alive', running, skips⟩ :=
      drain_stopped coherent alive stopped (submittingTurn entered).toTurn
    obtain ⟨left, leaves, again⟩ := drain_submittingTurn coherent' alive' running late
    refine early (kept [submittingTurn entered] (submittingTurn time) left
      ⟨BitVec.le_refl _, BitVec.le_refl _, later, BitVec.le_refl _, trivial⟩ ?_ ?_ again)
    · exact (skips []).trans (drain_waiting alive')
    · exact (skips _).trans leaves

end Schedule

/-- Under every schedule the destructor gives the loop its full grace period if and
only if the loop is idle, its cached time is the time when the destructor is
entered, or the clock ends before the period does. -/
theorem graceKept_iff (loop : RunLoop) (entered : BitVec 64) (coherent : Coherent loop.heap)
    (past : loop.time ≤ entered) :
    GraceKept loop entered ↔
      loop.uvLoopAlive = false ∨ loop.time = entered ∨
        2 ^ 64 ≤ loop.time.toNat + kMaxLoopTimeout.toNat + 1 := by
  constructor
  · intro kept
    by_contra fails
    rw [not_or, not_or] at fails
    obtain ⟨alive, stale, room⟩ := fails
    rw [Bool.not_eq_false] at alive
    have before : loop.time < entered := by
      rw [BitVec.le_def] at past
      rw [BitVec.lt_def]
      exact Nat.lt_of_le_of_ne past fun same => stale (BitVec.eq_of_toNat_eq same)
    exact not_graceKept coherent alive before (Nat.lt_of_not_le room) kept
  · intro condition turns last left clocked waiting leaves _
    have elapsed := timeout_since_cache turns clocked past waiting leaves
    rcases condition with idle | current | full
    · rw [drain_idle loop.time _ idle] at waiting
      cases waiting
    · rw [← current]
      omega
    · have bounded := last.ends.isLt
      omega

section Examples

/-- A loop with one request that has just updated its time. -/
theorem graceKept_current : GraceKept ⟨Heap.loopInit, 1, false, 7, true⟩ 7 := by
  have legal : handleSystem.Legal Heap.loopInit [] := handleSystem.legal_of_check (by decide)
  have consistent := System.Throughout.final handleSystem (consistent_throughout legal) rfl
  exact (graceKept_iff ⟨Heap.loopInit, 1, false, 7, true⟩ 7 consistent.coherent
    (BitVec.le_refl _)).mpr (Or.inr (Or.inl rfl))

/-- A loop with one request that has not looked at the clock for six seconds is
left in the turn in which the destructor is entered. -/
theorem graceKept_false_stale :
    (0 : BitVec 64) ≤ 6000 ∧ ¬ GraceKept ⟨Heap.loopInit, 1, false, 0, true⟩ 6000 := by
  refine ⟨by decide, ?_⟩
  intro kept
  have early := kept [] ⟨⟨[], fun _ => [], fun _ => [], [], 6000⟩, 6000⟩ _
    ⟨by decide, by decide, trivial⟩ rfl rfl rfl
  exact absurd early (by decide)

end Examples

end MoeUV
