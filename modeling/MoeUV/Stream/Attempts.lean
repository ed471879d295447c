import MoeUV.Stream.RequestSteps

/-!
# Two accounts of an attempt to write

`Stream` takes `uv_try_write` for one step that hands bytes to the transport, `UvStream` has
it as libuv runs it: it queues a request, lets `uv__write` try it and takes back what is left.
The two agree on a stream whose connection is made.
-/

namespace MoeUV

open Foundation.Execution Foundation.Chunks

/-- How many bytes the kernel takes at most. -/
def Transport.taken : Transport → Nat
  | .accepts count => count
  | .fails _ => 0

namespace UvStream

variable {stream next : UvStream} {req : UvWrite}

/-- The stream as `Stream` has it: what was sent, and what is left of the queued requests. -/
def view (stream : UvStream) : Stream where
  closing := stream.closing
  sent := all (sentOf stream.trace)
  writeQueue := stream.writeQueue.map UvWrite.left
  calls := []

/-- What comes of an attempt: a refusal of `uv_write`, or what the kernel takes. -/
def outcome (stream : UvStream) (transport : Transport) : Transport :=
  if stream.fd = false then .fails UV_EBADF
  else if stream.writable = false then .fails UV_EPIPE
  else .accepts transport.taken

/-- The report of an attempt is not part of what `Stream` has. -/
theorem view_tried (stream : UvStream) (serial : Nat) (content : List Byte) (result : Int) :
    (stream.record (.tried serial content result)).view = stream.view := by
  simp only [view, record, sentOf, List.filterMap_append]
  congr 1
  exact congrArg all (List.append_nil _)

/-- Neither is what the loop polls for. -/
theorem view_ioStop (stream : UvStream) (hasPollout : Bool) :
    (if hasPollout = true then stream else stream.ioStop).view = stream.view := by
  cases hasPollout with
  | true => rfl
  | false =>
    rw [if_neg Bool.false_ne_true, ioStop]
    split
    · rfl
    · rfl

/-- `uv__write` with the request of an attempt alone in the queue: the request stays there or
is finished, and the kernel has what it takes. -/
structure Attempted (stream next : UvStream) (own req : UvWrite) (count : Nat) : Prop where
  serial : req.serial = own.serial
  queues : next.writeQueue = [req] ∧ next.writeCompletedQueue = stream.writeCompletedQueue ∨
    next.writeQueue = [] ∧ next.writeCompletedQueue = stream.writeCompletedQueue ++ [req]
  size : next.reqSize req = .ok (own.left.length - count)
  sent : all (sentOf next.trace) = all (sentOf stream.trace) ++ own.left.take count
  closing : next.closing = stream.closing
  active : next.activeReqs = stream.activeReqs

/-- A fatal error finishes the request unsent; otherwise it stays for as long as bytes of it
are left, which `advance` counts. -/
theorem write_attempted {own : UvWrite} (queue : stream.writeQueue = [own])
    (fd : stream.fd = true) (size : stream.writeQueueSize = own.left.length)
    (sound : own.null = false ∧ own.error = 0 ∧ own.bufs ≠ []) {transport : Transport}
    (proper : transport.Proper) :
    ∃ next req, stream.write transport = .ok next ∧
      stream.Attempted next own req transport.taken := by
  obtain ⟨null, error, nonempty⟩ := sound
  rw [write, if_neg (by simp [fd]), queue]
  cases transport with
  | fails code =>
    dsimp only
    by_cases retry : WriteRetryOnError code
    · refine ⟨stream.ioStart, own, if_pos retry, rfl, Or.inl ⟨queue, rfl⟩, ?_,
        (List.append_nil _).symm, rfl, rfl⟩
      simp [reqSize, null, writeReqSize, ioStart, size, Transport.taken]
    · have negative : code ≠ 0 := Int.ne_of_lt proper
      refine ⟨_, { own with error := code }, if_neg retry, rfl, Or.inr ⟨?_, ?_⟩, ?_, ?_, ?_, ?_⟩
      · simp [writeReqFinish, ioStop, fd, queue]
      · simp [writeReqFinish, ioStop, fd, negative]
      · simp [writeReqFinish, ioStop, fd, reqSize, null, writeReqSize, size, Transport.taken,
          UvWrite.left]
      · simp [writeReqFinish, ioStop, fd, Transport.taken]
      · simp [writeReqFinish, ioStop, fd]
      · simp [writeReqFinish, ioStop, fd]
  | accepts count =>
    have taken : own.left.take (min count own.left.length) = own.left.take count := by
      rw [← List.take_take, List.take_length]
    obtain ⟨left, advanced, flattened, ended⟩ := advance_spec (min count own.left.length)
      stream.writeQueueSize nonempty (Nat.min_le_right _ _) (Nat.le_of_eq size.symm)
    have fewer : own.left.length - min count own.left.length = own.left.length - count := by
      omega
    have sent : all (sentOf (stream.trace ++ [.sent own.serial
        (own.left.take (min count own.left.length))])) =
          all (sentOf stream.trace) ++ own.left.take count := by
      rw [sentOf, List.filterMap_append, taken, all_append]
      congr 1
      exact List.append_nil _
    dsimp only
    rw [advanced, ok_bind]
    dsimp only [record]
    by_cases whole : left = []
    · refine ⟨_, { own with bufs := [], null := true }, if_pos whole, rfl, Or.inr ⟨?_, ?_⟩, ?_,
        sent, rfl, rfl⟩
      · simp [writeReqFinish, queue]
      · simp [writeReqFinish, error]
      · have total : min count own.left.length = own.left.length := ended whole
        change Except.ok 0 = Except.ok (own.left.length - count)
        rw [← fewer, total, Nat.sub_self]
    · refine ⟨_, { own with bufs := left }, if_neg whole, rfl, Or.inl ⟨rfl, rfl⟩, ?_, sent, rfl,
        rfl⟩
      have length : left.flatten.length = own.left.length - count := by
        rw [flattened, List.length_drop, ← fewer]
        rfl
      have enough : ¬ stream.writeQueueSize - min count own.left.length < left.flatten.length := by
        rw [length, size, fewer]
        exact Nat.lt_irrefl _
      rw [reqSize, if_neg (by simp [null]), writeReqSize, if_neg]
      · exact congrArg Except.ok length
      · rintro (absent | short)
        · rw [null] at absent
          cases absent
        · exact enough short

/-- Without a failed write, the size counts what is left in the queue. -/
theorem Books.size_view (books : stream.Books)
    (unfailed : ∀ req ∈ stream.writeCompletedQueue, req.error = 0) :
    stream.writeQueueSize = stream.view.writeQueue.flatten.length := by
  have finished : owed stream.writeCompletedQueue = 0 := by
    refine List.sum_eq_zero fun part member => ?_
    obtain ⟨req, inside, rfl⟩ := List.mem_map.mp member
    have null := (books.completed req inside).2.1.mpr (unfailed req inside)
    rw [UvWrite.owed, if_pos null]
  have queued : owed stream.writeQueue = (stream.writeQueue.map UvWrite.left).flatten.length := by
    rw [owed, List.length_flatten, List.map_map]
    congr 1
    refine List.map_congr_left ?_
    intro req member
    rw [UvWrite.owed, (books.queued req member).1]
    rfl
  rw [books.size, requests, owed_append, finished, Nat.zero_add, queued]
  rfl

/-- The request of an attempt is told by its number. -/
theorem Attempted.found {own : UvWrite} {count : Nat}
    (attempted : stream.Attempted next own req count)
    (numbered : ∀ other ∈ stream.writeCompletedQueue, other.serial < own.serial) :
    (next.writeQueue ++ next.writeCompletedQueue).find? (·.serial = own.serial) = some req ∧
      next.writeQueue.filter (·.serial ≠ own.serial) = [] := by
  have serial := attempted.serial
  have others : stream.writeCompletedQueue.find? (·.serial = own.serial) = none := by
    refine List.find?_eq_none.mpr ?_
    intro other member
    simpa using Nat.ne_of_lt (numbered other member)
  rcases attempted.queues with ⟨queue, completed⟩ | ⟨queue, completed⟩
  · rw [queue, completed]
    simp [serial]
  · rw [queue, completed, List.nil_append, List.find?_append, others]
    simp [serial]

/-- An attempt that gets as far as the kernel sends what the kernel takes, and takes the
rest back. -/
theorem uvTryWrite_asked (kept : stream.Kept) (connected : stream.connectReq = false)
    (empty : stream.writeQueue = []) (opened : stream.fd = true ∧ stream.writable = true)
    (none : stream.writeQueueSize = 0) (buf : UvBuf) {transport : Transport}
    (proper : transport.Proper) :
    ∃ result next, stream.uvTryWrite [buf.content] transport = .ok next ∧
      next.trace.getLast? = some (.tried stream.calls buf.content result) ∧
      stream.view.uvTryWrite buf (.accepts transport.taken) = (result, next.view) := by
  obtain ⟨fd, writable⟩ := opened
  have flat : [buf.content].flatten = buf.content := List.flatten_singleton
  have queued : ¬ 0 < stream.view.writeQueue.flatten.length := by
    simp [view, empty]
  rw [uvTryWrite, flat, if_neg (by simp [connected, none])]
  dsimp only
  let own : UvWrite := ⟨stream.calls, buf.content, .uvTryWriteCb, [buf.content], false, 0⟩
  have queue : (stream.enqueue [buf.content] .uvTryWriteCb).writeQueue = [own] := by
    simp [enqueue, empty, own]
  have length : (stream.enqueue [buf.content] .uvTryWriteCb).writeQueueSize =
      own.left.length := by
    simp [enqueue, none, own, UvWrite.left]
  obtain ⟨next, req, ran, attempted⟩ := write_attempted queue fd length
    ⟨rfl, rfl, List.cons_ne_nil _ _⟩ proper
  have asked : stream.uvWrite [buf.content] .uvTryWriteCb transport = .ok (0, next) := by
    rw [uvWrite, if_neg (List.cons_ne_nil _ _), if_neg (by simp [fd]),
      if_neg (by simp [writable])]
    dsimp only
    rw [if_neg (by simp [enqueue, connected]), if_pos none, ran]
    rfl
  obtain ⟨found, emptied⟩ := attempted.found fun other member =>
    kept.books.numbered other (List.mem_append_left _ member)
  have registered : ¬ next.activeReqs = 0 := by
    rw [attempted.active]
    exact Nat.succ_ne_zero _
  rw [asked, ok_bind]
  dsimp only
  rw [if_neg (not_not.mpr rfl), show stream.calls = own.serial from rfl, found]
  dsimp only
  rw [attempted.size, ok_bind, reqUnregister, if_neg (by exact registered), ok_bind]
  refine ⟨_, _, rfl, List.getLast?_concat, ?_⟩
  rw [view_tried, view_ioStop]
  have final (left : Nat) : view { next.unqueue own.serial left with
        activeReqs := (next.unqueue own.serial left).activeReqs - 1 } =
      { stream.view with sent := stream.view.sent ++ buf.content.take transport.taken } := by
    have sent := attempted.sent
    simp only [enqueue, own, UvWrite.left, flat, reduceCtorEq, if_false, List.append_nil]
      at sent
    simp only [view, unqueue, emptied, attempted.closing, sent, empty, List.map_nil, enqueue]
  have left : own.left.length = buf.content.length := congrArg List.length flat
  have count : (buf.content.take transport.taken).length =
      buf.content.length - (buf.content.length - transport.taken) := by
    rw [List.length_take]
    omega
  rw [final, left, Stream.uvTryWrite, if_neg queued]
  dsimp only
  rw [count]
  by_cases nothing : buf.content.length - (buf.content.length - transport.taken) = 0 ∧
      buf.content.length ≠ 0
  · have unsent : buf.content.take transport.taken = [] :=
      List.eq_nil_of_length_eq_zero (count.trans nothing.1)
    rw [if_pos nothing, if_pos (by omega), unsent, List.append_nil]
  · rw [if_neg nothing, if_neg (by omega)]

/-- `uv_try_write` is the one of `Stream`, as long as no connection is being made, no failed
write waits for its callback and no queued write is empty: the two give the same result and
send the same bytes, and neither adds anything to the queue. A queue that is not empty is
refused by both, so what is left to compare is one request alone in the queue. -/
theorem uvTryWrite_agrees (kept : stream.Kept) (connected : stream.connectReq = false)
    (unfailed : ∀ req ∈ stream.writeCompletedQueue, req.error = 0)
    (waiting : ∀ req ∈ stream.writeQueue, req.left ≠ []) (buf : UvBuf) {transport : Transport}
    (proper : transport.Proper) :
    ∃ result next, stream.uvTryWrite [buf.content] transport = .ok next ∧
      next.trace.getLast? = some (.tried stream.calls buf.content result) ∧
      stream.view.uvTryWrite buf (stream.outcome transport) = (result, next.view) := by
  have flat : [buf.content].flatten = buf.content := List.flatten_singleton
  have size := kept.books.size_view unfailed
  by_cases queued : 0 < stream.view.writeQueue.flatten.length
  · rw [uvTryWrite, flat, if_pos (Or.inr (by omega))]
    refine ⟨UV_EAGAIN, _, rfl, List.getLast?_concat, ?_⟩
    change _ = (UV_EAGAIN, (stream.record _).view)
    rw [view_tried]
    cases stream.outcome transport with
    | accepts count => exact if_pos queued
    | fails code => exact if_pos queued
  have none : stream.writeQueueSize = 0 := by omega
  have empty : stream.writeQueue = [] := by
    refine List.eq_nil_iff_forall_not_mem.mpr fun req member => waiting req member ?_
    have nothing : stream.view.writeQueue.flatten = [] :=
      List.eq_nil_of_length_eq_zero (size.symm.trans none)
    exact List.flatten_eq_nil_iff.mp nothing req.left (List.mem_map_of_mem member)
  by_cases opened : stream.fd = true ∧ stream.writable = true
  · have answer : stream.outcome transport = .accepts transport.taken := by
      rw [outcome, if_neg (by simp [opened.1]), if_neg (by simp [opened.2])]
    rw [answer]
    exact uvTryWrite_asked kept connected empty opened none buf proper
  · obtain ⟨code, failed, refused, answer⟩ : ∃ code, code ≠ 0 ∧
        stream.uvWrite [buf.content] .uvTryWriteCb transport = .ok (code, stream) ∧
        stream.outcome transport = .fails code := by
      rw [uvWrite, outcome, if_neg (List.cons_ne_nil _ _)]
      cases fd : stream.fd with
      | false => exact ⟨UV_EBADF, by decide, rfl, rfl⟩
      | true =>
        have unwritable : stream.writable = false := by simpa [fd] using opened
        refine ⟨UV_EPIPE, by decide, ?_, ?_⟩
        · rw [if_neg Bool.false_ne_true.symm, if_pos unwritable]
        · rw [if_neg Bool.false_ne_true.symm, if_pos unwritable]
    rw [uvTryWrite, flat, if_neg (by simp [connected, none])]
    dsimp only
    rw [refused, ok_bind]
    dsimp only
    rw [if_pos failed, answer]
    refine ⟨code, _, rfl, List.getLast?_concat, ?_⟩
    change _ = (code, (stream.record _).view)
    rw [view_tried]
    exact if_neg queued

end UvStream

end MoeUV
