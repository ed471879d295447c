import MoeUV.Stream.Write

/-!
# Integrity of the byte stream

Queued writes and the transport keep the stream intact: what was sent and what is
queued are the buffers of the successful calls, in order. An attempt keeps it
intact unless the transport takes a part of the buffer only. `uv_try_write`
reports that part by its length, which `TryWrite` takes for success.
-/

namespace MoeUV

open Foundation.Execution Foundation.Fifo

/-- The bytes sent and queued are those of the successful calls, in call order,
and no attempt was reported wrongly. -/
structure Intact (stream : Stream) : Prop where
  bytes : stream.sent ++ stream.writeQueue.flatten = stream.calls.flatMap WriteCall.reported
  honest : ∀ call ∈ stream.calls, call.Honest

variable {stream after : Stream} {buffer : List Byte}

/-- A short buffer survives the cast of its size. -/
theorem content_uvBufInit (short : buffer.length < 2 ^ 32) :
    (uvBufInit buffer).content = buffer := by
  have size : (BitVec.ofNat 32 buffer.length).toNat = buffer.length := by
    rw [BitVec.toNat_ofNat, Nat.mod_eq_of_lt short]
  rw [UvBuf.content, uvBufInit, size, List.take_length]

/-- One more call keeps an intact stream intact exactly when it reports what it
added, and reports it honestly. -/
theorem intact_record_iff (intact : Intact stream) (call : WriteCall)
    (calls : after.calls = stream.calls) :
    Intact (after.record call) ↔
      after.sent ++ after.writeQueue.flatten =
        stream.sent ++ stream.writeQueue.flatten ++ call.reported ∧ call.Honest := by
  have reported : (after.record call).calls.flatMap WriteCall.reported =
      stream.sent ++ stream.writeQueue.flatten ++ call.reported := by
    simp [Stream.record, calls, intact.bytes]
  constructor
  · intro recorded
    refine ⟨recorded.bytes.trans reported, recorded.honest call ?_⟩
    exact List.mem_append_right _ (List.mem_singleton_self call)
  · rintro ⟨added, honest⟩
    refine ⟨added.trans reported.symm, ?_⟩
    intro other member
    rcases List.mem_append.mp member with earlier | last
    · exact intact.honest other (calls ▸ earlier)
    · exact List.mem_singleton.mp last ▸ honest

/-- A call that adds and reports nothing. -/
theorem Intact.nothing (intact : Intact stream) {call : WriteCall} (reported : call.reported = [])
    (honest : call.Honest) : Intact (stream.record call) :=
  (intact_record_iff intact call rfl).mpr ⟨by rw [reported, List.append_nil], honest⟩

/-- An operation that throws has written nothing. -/
theorem Intact.threw (intact : Intact stream) (failure : Failure) :
    Intact (stream.record (.threw failure)) := intact.nothing rfl trivial

/-- `Write` and `WriteNoCopy` queue the whole buffer or nothing. -/
theorem Intact.queueBuffer (intact : Intact stream) {onEmpty : WriteCall}
    (reported : onEmpty.reported = []) (honest : onEmpty.Honest) (short : buffer.length < 2 ^ 32)
    (code : Int) : Intact (stream.queueBuffer onEmpty buffer code) := by
  rw [Stream.queueBuffer]
  by_cases closing : stream.closing = true
  · rw [if_pos closing]
    exact intact.threw _
  · rw [if_neg closing]
    by_cases empty : buffer.length = 0
    · rw [if_pos empty]
      exact intact.nothing reported honest
    · rw [if_neg empty]
      by_cases refused : code < 0
      · simp only [Stream.uvWrite, if_pos refused]
        exact intact.threw _
      · simp only [Stream.uvWrite, if_neg refused, Int.lt_irrefl, if_false]
        refine (intact_record_iff intact (.returned buffer) (by rfl)).mpr ⟨?_, trivial⟩
        simp [content_uvBufInit short, WriteCall.reported]

/-- The transport only moves bytes from the queue to what was sent. -/
theorem Intact.uvFlush (intact : Intact stream) (count : Nat) : Intact (stream.uvFlush count) := by
  constructor
  · have conserved := drain_conserves count stream.writeQueue
    simp only [Stream.uvFlush, List.append_assoc, conserved]
    exact intact.bytes
  · exact intact.honest

/-- An attempt that the transport refuses with an error sends nothing. -/
theorem Intact.tryWrite_fails (intact : Intact stream) {code : Int} (negative : code < 0) :
    Intact (stream.tryWrite buffer (.fails code)) := by
  rw [Stream.tryWrite]
  by_cases closing : stream.closing = true
  · rw [if_pos closing]
    exact intact.threw _
  · rw [if_neg closing]
    by_cases empty : buffer.length = 0
    · rw [if_pos empty]
      exact intact.threw _
    · rw [if_neg empty]
      by_cases queued : 0 < stream.writeQueue.flatten.length
      · simp only [Stream.uvTryWrite, if_pos queued, List.drop_length]
        exact intact.nothing rfl rfl
      · have failed : ¬ 0 ≤ code := by omega
        simp only [Stream.uvTryWrite, if_neg queued, if_neg failed, List.drop_length]
        by_cases again : code = UV_EAGAIN
        · rw [if_pos again]
          exact intact.nothing rfl rfl
        · rw [if_neg again]
          exact intact.threw _

/-- An attempt keeps the stream intact exactly when the transport takes all of the
buffer or none of it, or is not asked. -/
theorem tryWrite_accepts_iff (intact : Intact stream) (short : buffer.length < 2 ^ 32)
    (count : Nat) :
    Intact (stream.tryWrite buffer (.accepts count)) ↔
      (stream.closing = false → stream.writeQueue.flatten = [] → 0 < count →
        buffer.length ≤ count) := by
  rw [Stream.tryWrite]
  by_cases closing : stream.closing = true
  · rw [if_pos closing]
    exact iff_of_true (intact.threw _) (by simp [closing])
  · rw [if_neg closing]
    by_cases empty : buffer.length = 0
    · rw [if_pos empty]
      exact iff_of_true (intact.threw _) (by simp [empty])
    · rw [if_neg empty]
      by_cases queued : 0 < stream.writeQueue.flatten.length
      · have waiting : stream.writeQueue.flatten ≠ [] := List.length_pos_iff.mp queued
        simp only [Stream.uvTryWrite, if_pos queued, List.drop_length]
        exact iff_of_true (intact.nothing rfl rfl) (fun _ none => absurd none waiting)
      · have idle : stream.writeQueue.flatten = [] :=
          List.length_eq_zero_iff.mp (Nat.eq_zero_of_not_pos queued)
        simp only [Stream.uvTryWrite, if_neg queued, content_uvBufInit short]
        by_cases nothing : (buffer.take count).length = 0 ∧ buffer.length ≠ 0
        · have none : count = 0 := by
            have taken := nothing.1
            rw [List.length_take] at taken
            omega
          simp only [if_pos nothing, List.drop_length]
          exact iff_of_true (intact.nothing rfl rfl) (by simp [none])
        · have some : 0 < count := by
            rw [List.length_take] at nothing
            omega
          have open_ : stream.closing = false := by simpa using closing
          have counted : (0 : Int) ≤ (buffer.take count).length := Int.natCast_nonneg _
          simp only [if_neg nothing, if_pos counted, List.drop_left]
          refine (intact_record_iff intact (.tried buffer true (buffer.take count))
            (by rfl)).trans ?_
          simp only [WriteCall.reported, WriteCall.Honest, if_true, idle, List.append_nil,
            List.append_cancel_left_eq, List.take_eq_self_iff, and_self]
          exact ⟨fun whole _ _ _ => whole, fun whole => whole open_ trivial some⟩

/-- Every step keeps the stream intact, except an attempt sent in part. -/
theorem run_intact_iff (intact : Intact stream) {action : StreamAction}
    (enabled : action.Enabled) : action.Whole stream ↔ Intact (action.run stream) := by
  cases action with
  | write buffer code =>
    exact iff_of_true trivial (intact.queueBuffer (by rfl) (by trivial) enabled code)
  | writeNoCopy buffer code =>
    exact iff_of_true trivial (intact.queueBuffer (by rfl) (by trivial) enabled code)
  | tryWrite buffer transport =>
    cases transport with
    | accepts count => exact (tryWrite_accepts_iff intact enabled count).symm
    | fails code => exact iff_of_true trivial (intact.tryWrite_fails enabled.2)
  | flush count => exact iff_of_true trivial (intact.uvFlush count)

/-- A new stream has written nothing. -/
theorem initial_intact (closing : Bool) : Intact (Stream.initial closing) := ⟨rfl, nofun⟩

/-- Over every run, the stream stays intact exactly when the transport never takes
only a part of an attempt. -/
theorem stream_intact_iff (closing : Bool) (actions : List StreamAction)
    (legal : streamSystem.Legal (Stream.initial closing) actions) :
    streamSystem.Throughout Intact (Stream.initial closing) actions ↔
      streamSystem.Guarded (fun stream action => action.Whole stream) (Stream.initial closing)
        actions := by
  refine streamSystem.throughout_iff_guarded (fun _ => True) Intact _ ?_ ?_ trivial
    (initial_intact closing) legal
  · intro stream action _ intact enabled
    rw [run_intact_iff intact enabled]
    constructor
    · intro kept
      exact ⟨_, rfl, kept⟩
    · rintro ⟨next, stepped, kept⟩
      obtain rfl : action.run stream = next := Except.ok.inj stepped
      exact kept
  · exact fun _ _ _ _ _ _ _ _ => trivial

/-- Attempts before and after a queued write has gone out. -/
theorem stream_intact_queued :
    streamSystem.Throughout Intact (Stream.initial false)
      [.write [1, 2, 3] 0, .flush 2, .tryWrite [4] (.accepts 9), .flush 5,
        .tryWrite [5, 6] (.accepts 2), .writeNoCopy [7] 0] :=
  (stream_intact_iff false _ (streamSystem.legal_of_check (by decide))).mpr
    (streamSystem.guarded_of_check (by decide))

/-- Two of three bytes go out, and the attempt reports success. -/
theorem stream_intact_false_partial :
    let actions := [.tryWrite [1, 2, 3] (.accepts 2)]
    streamSystem.Legal (Stream.initial false) actions ∧
      streamSystem.exec (Stream.initial false) actions =
        .ok ⟨false, [1, 2], [], [.tried [1, 2, 3] true [1, 2]]⟩ ∧
      ¬ streamSystem.Throughout Intact (Stream.initial false) actions := by
  intro actions
  refine ⟨streamSystem.legal_of_check (by decide), rfl, ?_⟩
  intro throughout
  have intact : Intact ⟨false, [1, 2], [], [.tried [1, 2, 3] true [1, 2]]⟩ :=
    System.Throughout.final streamSystem throughout rfl
  exact absurd intact.bytes (by decide)

end MoeUV
