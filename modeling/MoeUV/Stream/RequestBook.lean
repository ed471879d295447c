import MoeUV.Foundation.Chunks
import MoeUV.Stream.Requests

/-!
# What a stream owes

The requests that libuv has taken and not answered are those of the two queues, the
completed ones first, in the order of the calls. `write_queue_size` is the sum of what is
left of them, except for the requests that were written whole, whose buffers are gone. So
no assertion of the write path fails, and none of the callbacks is the one of
`uv_try_write`.
-/

namespace MoeUV

open Foundation.Execution Foundation.Chunks

/-- What a request contributes to `write_queue_size`. -/
def UvWrite.owed (req : UvWrite) : Nat := if req.null then 0 else req.left.length

namespace UvStream

variable {stream next : UvStream} {req : UvWrite} {rest : List UvWrite} {answers : KernelAnswers}

/-- The loop of `uv__write` drops the bytes that the kernel took. The induction is on the
buffers: each one is dropped as a whole or is the one in which the count ends. -/
theorem advance_spec (count : Nat) {bufs : List (List Byte)} (size : Nat) (nonempty : bufs ≠ [])
    (taken : count ≤ bufs.flatten.length) (enough : bufs.flatten.length ≤ size) :
    ∃ left, advance count bufs size = .ok (left, size - count) ∧
      left.flatten = bufs.flatten.drop count ∧ (left = [] → count = bufs.flatten.length) := by
  induction bufs generalizing count size with
  | nil => exact absurd rfl nonempty
  | cons buf rest inductionHypothesis =>
    rw [List.flatten_cons, List.length_append] at taken enough
    rw [advance, List.flatten_cons, List.drop_append]
    by_cases inside : count < buf.length
    · refine ⟨buf.drop count :: rest, ?_, ?_, by simp⟩
      · rw [if_pos inside, if_neg (by omega)]
      · rw [Nat.sub_eq_zero_of_le (Nat.le_of_lt inside), List.drop_zero, List.flatten_cons]
    · rw [if_neg inside, if_neg (by omega)]
      cases rest with
      | nil =>
        have all : count = buf.length := by
          simp only [List.flatten_nil, List.length_nil] at taken
          omega
        refine ⟨[], ?_, ?_, ?_⟩
        · rw [if_pos (by rfl), if_pos all, all]
        · simp [all]
        · intro _
          simp [all]
      | cons second others =>
        obtain ⟨left, advanced, flattened, ended⟩ := inductionHypothesis (count - buf.length)
          (size - buf.length) (by simp) (by omega) (by omega)
        refine ⟨left, ?_, ?_, ?_⟩
        · have outside : size - buf.length - (count - buf.length) = size - count := by omega
          rw [if_neg (by simp), advanced, outside]
        · rw [flattened, List.drop_eq_nil_of_le (Nat.le_of_not_lt inside), List.nil_append]
        · intro nothing
          have all := ended nothing
          rw [List.length_append]
          omega

/-- All that `uv__write` does to a stream that is open. -/
inductive Wrote (stream : UvStream) : UvStream → Prop
  | nothing (queue : stream.writeQueue = []) : Wrote stream stream
  /-- The kernel asked to be called again. -/
  | again (req : UvWrite) (rest : List UvWrite) (queue : stream.writeQueue = req :: rest) :
    Wrote stream { stream with pollout := true }
  | part (req : UvWrite) (rest : List UvWrite) (bytes : List Byte) (bufs : List (List Byte))
    (queue : stream.writeQueue = req :: rest) (left : req.left = bytes ++ bufs.flatten)
    (nonempty : bufs ≠ []) :
    Wrote stream { stream with
      writeQueueSize := stream.writeQueueSize - bytes.length
      writeQueue := { req with bufs := bufs } :: rest
      pollout := true
      trace := stream.trace ++ [.sent req.serial bytes] }
  | whole (req : UvWrite) (rest : List UvWrite) (queue : stream.writeQueue = req :: rest) :
    Wrote stream { stream with
      writeQueueSize := stream.writeQueueSize - req.left.length
      writeQueue := rest
      writeCompletedQueue := stream.writeCompletedQueue ++ [{ req with bufs := [], null := true }]
      fed := true
      trace := stream.trace ++ [.sent req.serial req.left] }
  | failed (req : UvWrite) (rest : List UvWrite) (code : Int)
    (queue : stream.writeQueue = req :: rest) (negative : code < 0) :
    Wrote stream { stream with
      writeQueue := rest
      writeCompletedQueue := stream.writeCompletedQueue ++ [{ req with error := code }]
      fed := true
      pollout := false }

/-- The requests that have not been answered, in the order of the calls. -/
def requests (stream : UvStream) : List UvWrite := stream.writeCompletedQueue ++ stream.writeQueue

/-- The total of what the requests contribute to `write_queue_size`. -/
def owed (requests : List UvWrite) : Nat := (requests.map UvWrite.owed).sum

/-- No requests owe nothing. -/
@[simp] theorem owed_nil : owed [] = 0 := rfl

/-- The requests owe what the first does, and what the others do, -/
@[simp] theorem owed_cons (req : UvWrite) (rest : List UvWrite) :
    owed (req :: rest) = req.owed + owed rest := rfl

/-- and what two lists of them do. -/
@[simp] theorem owed_append (first second : List UvWrite) :
    owed (first ++ second) = owed first + owed second := by
  simp [owed]

/-- What is known of the requests and of the numbers that count them. -/
structure Books (stream : UvStream) : Prop where
  size : stream.writeQueueSize = owed stream.requests
  queued : ∀ req ∈ stream.writeQueue, req.null = false ∧ req.error = 0 ∧ req.bufs ≠ []
  completed : ∀ req ∈ stream.writeCompletedQueue,
    req.error ≤ 0 ∧ (req.null = true ↔ req.error = 0) ∧ (req.null = true → req.bufs = [])
  ordered : (stream.requests.map UvWrite.serial).Pairwise (· < ·)
  numbered : ∀ req ∈ stream.requests, req.serial < stream.calls

/-- A request of the queue contributes to the size what is left of it. -/
theorem Books.enough (books : stream.Books) (queue : stream.writeQueue = req :: rest) :
    req.left.length ≤ stream.writeQueueSize := by
  have null := (books.queued req (by rw [queue]; exact List.mem_cons_self)).1
  rw [books.size, requests, queue, owed_append, owed_cons, UvWrite.owed, null]
  exact Nat.le_trans (Nat.le_add_right _ _) (Nat.le_add_left _ _)

/-- `uv__write_callbacks` finds the size large enough. -/
theorem Books.reqSize (books : stream.Books) (member : req ∈ stream.requests) :
    stream.reqSize req = .ok req.owed := by
  have enough : req.owed ≤ stream.writeQueueSize := by
    obtain ⟨before, after, split⟩ := List.append_of_mem member
    rw [books.size, split, owed_append, owed_cons]
    omega
  rw [UvStream.reqSize, UvStream.writeReqSize, UvWrite.owed] at *
  cases null : req.null with
  | true => rfl
  | false =>
    simp only [null] at enough
    simp only [Bool.false_eq_true, if_false, false_or]
    exact if_neg (Nat.not_lt.mpr enough)

/-- `uv__write` of an open stream fails none of its assertions. It leaves the queue alone,
sends a part of the first request, or finishes it, with the number of bytes that the kernel
reports. -/
theorem write_cases (books : stream.Books) (fd : stream.fd = true) {transport : Transport}
    (proper : transport.Proper) :
    ∃ next, stream.write transport = .ok next ∧ stream.Wrote next := by
  rw [write, if_neg (by simp [fd])]
  cases queue : stream.writeQueue with
  | nil => exact ⟨stream, rfl, .nothing queue⟩
  | cons req rest =>
    cases transport with
    | fails code =>
      dsimp only
      by_cases retry : WriteRetryOnError code
      · exact ⟨stream.ioStart, if_pos retry, .again req rest queue⟩
      · have negative : code < 0 := proper
        refine ⟨_, if_neg retry, ?_⟩
        rw [writeReqFinish, ioStop, if_pos (by exact fd), if_neg (Int.ne_of_lt negative)]
        simp only [queue, List.tail_cons]
        exact .failed req rest code queue negative
    | accepts count =>
      obtain ⟨null, error, nonempty⟩ := books.queued req (by rw [queue]; exact List.mem_cons_self)
      obtain ⟨left, advanced, flattened, ended⟩ := advance_spec (min count req.left.length)
        stream.writeQueueSize nonempty (Nat.min_le_right _ _) (books.enough queue)
      dsimp only
      rw [advanced, ok_bind]
      dsimp only [record]
      by_cases all : left = []
      · refine ⟨_, if_pos all, ?_⟩
        have total : min count req.left.length = req.left.length := ended all
        rw [writeReqFinish, if_pos (by exact error)]
        simp only [total, List.take_length, queue, List.tail_cons]
        exact .whole req rest queue
      · refine ⟨_, if_neg all, ?_⟩
        have bytes : (req.left.take (min count req.left.length)).length =
            min count req.left.length := by
          rw [List.length_take]
          omega
        have split : req.left = req.left.take (min count req.left.length) ++ left.flatten := by
          rw [flattened]
          exact (List.take_append_drop _ _).symm
        rw [ioStart, ← bytes]
        have written := Wrote.part req rest _ left queue split all
        rw [bytes] at written ⊢
        exact written

/-- Each request keeps its number, its bytes and its callback. -/
theorem Wrote.requests_map {α : Type} (wrote : stream.Wrote next) (read : UvWrite → α)
    (bufs : ∀ req bufs, read { req with bufs := bufs } = read req)
    (null : ∀ req null, read { req with null := null } = read req)
    (error : ∀ req error, read { req with error := error } = read req) :
    next.requests.map read = stream.requests.map read := by
  cases wrote with
  | nothing queue => rfl
  | again req rest queue => rfl
  | part req rest bytes left queue split nonempty => simp [requests, queue, bufs]
  | whole req rest queue =>
    have same : read { req with bufs := [], null := true } = read req :=
      (null { req with bufs := [] } true).trans (bufs req [])
    simp [requests, queue, same]
  | failed req rest code queue negative => simp [requests, queue, error]

/-- The stream keeps its descriptor. -/
theorem Wrote.fd (wrote : stream.Wrote next) : next.fd = stream.fd := by cases wrote <;> rfl

/-- A request that has its buffers contributes what is left of it. -/
theorem owed_of_buffers (null : req.null = false) : req.owed = req.left.length := by
  rw [UvWrite.owed, null]
  exact if_neg Bool.false_ne_true

/-- A request of the queue has its buffers. -/
theorem Books.first (books : stream.Books) (queue : stream.writeQueue = req :: rest) :
    req.null = false ∧ req.error = 0 ∧ req.bufs ≠ [] ∧
      ∀ other ∈ rest, other.null = false ∧ other.error = 0 ∧ other.bufs ≠ [] := by
  have queued := books.queued
  rw [queue, List.forall_mem_cons] at queued
  exact ⟨queued.1.1, queued.1.2.1, queued.1.2.2, queued.2⟩

/-- `uv__write` keeps the books: what the kernel has taken is no longer owed. The bytes that are
sent were at the front of what the first request still owed, so the sum is smaller by their
number. -/
theorem Books.wrote (books : stream.Books) (wrote : stream.Wrote next) : next.Books := by
  have serials := wrote.requests_map UvWrite.serial (fun _ _ => rfl) (fun _ _ => rfl)
    (fun _ _ => rfl)
  have below : ∀ serial ∈ next.requests.map UvWrite.serial, serial < stream.calls := by
    rw [serials]
    intro serial member
    obtain ⟨req, among, rfl⟩ := List.mem_map.mp member
    exact books.numbered req among
  have calls : next.calls = stream.calls := by cases wrote <;> rfl
  have ordered : (next.requests.map UvWrite.serial).Pairwise (· < ·) := serials ▸ books.ordered
  have numbered : ∀ req ∈ next.requests, req.serial < next.calls := by
    intro req member
    rw [calls]
    exact below _ (List.mem_map_of_mem member)
  have size := books.size
  cases wrote with
  | nothing => exact books
  | again => exact ⟨size, books.queued, books.completed, ordered, numbered⟩
  | part req rest bytes bufs queue left nonempty =>
    obtain ⟨null, error, _, later⟩ := books.first queue
    refine ⟨?_, List.forall_mem_cons.mpr ⟨⟨null, error, nonempty⟩, later⟩, books.completed, ordered,
      numbered⟩
    have before : req.owed = bytes.length + bufs.flatten.length := by
      rw [owed_of_buffers null, left, List.length_append]
    have behind : ({ req with bufs := bufs } : UvWrite).owed = bufs.flatten.length :=
      owed_of_buffers null
    rw [requests, queue, owed_append, owed_cons, before] at size
    rw [requests, owed_append, owed_cons, behind]
    dsimp only
    omega
  | whole req rest queue =>
    obtain ⟨null, error, _, later⟩ := books.first queue
    refine ⟨?_, later, List.forall_mem_append.mpr ⟨books.completed, ?_⟩, ordered, numbered⟩
    · have behind : ({ req with bufs := [], null := true } : UvWrite).owed = 0 := rfl
      rw [requests, queue, owed_append, owed_cons, owed_of_buffers null] at size
      rw [requests, owed_append, owed_append, owed_cons, behind, owed_nil]
      dsimp only
      omega
    · rw [List.forall_mem_singleton]
      exact ⟨error.le, iff_of_true rfl error, fun _ => rfl⟩
  | failed req rest code queue negative =>
    obtain ⟨null, _, _, later⟩ := books.first queue
    refine ⟨?_, later, List.forall_mem_append.mpr ⟨books.completed, ?_⟩, ordered, numbered⟩
    · have behind : ({ req with error := code } : UvWrite).owed = req.owed := rfl
      rw [requests, queue, owed_append, owed_cons] at size
      rw [requests, owed_append, owed_append, owed_cons, behind, owed_nil]
      dsimp only
      omega
    · rw [List.forall_mem_singleton]
      refine ⟨negative.le, iff_of_false ?_ negative.ne, fun gone => ?_⟩
      · exact fun gone => Bool.false_ne_true (null.symm.trans gone)
      · exact absurd (null.symm.trans gone) Bool.false_ne_true

/-- A new request owes all its bytes, and has the next number. -/
theorem Books.enqueue (books : stream.Books) {bufs : List (List Byte)} (nonempty : bufs ≠ [])
    (cb : WriteCb) : (stream.enqueue bufs cb).Books := by
  rw [UvStream.enqueue]
  refine ⟨?size, List.forall_mem_append.mpr ⟨books.queued, ?queued⟩, books.completed, ?ordered,
    ?numbered⟩
  case size =>
    rw [requests, ← List.append_assoc, owed_append, owed_cons, owed_nil]
    exact congrArg (· + bufs.flatten.length) books.size
  case queued =>
    rw [List.forall_mem_singleton]
    exact ⟨rfl, rfl, nonempty⟩
  case ordered =>
    rw [requests, ← List.append_assoc, List.map_append]
    refine List.pairwise_append.mpr ⟨books.ordered, List.pairwise_singleton _ _, ?_⟩
    intro serial earlier last own
    obtain ⟨req, among, rfl⟩ := List.mem_map.mp earlier
    rw [List.mem_singleton.mp own]
    exact books.numbered req among
  case numbered =>
    rw [requests, ← List.append_assoc]
    refine List.forall_mem_append.mpr ⟨fun req member => ?_, ?_⟩
    · exact Nat.lt_succ_of_lt (books.numbered req member)
    · rw [List.forall_mem_singleton]
      exact Nat.lt_succ_self _

/-- All requests of the queue are given the error. Nothing of them is sent any more, but the
size is only settled by their callbacks. -/
theorem Books.flush (books : stream.Books) {error : Int} (negative : error < 0) :
    (stream.streamFlushWriteQueue error).Books := by
  have same : owed (stream.writeQueue.map fun req => { req with error := error }) =
      owed stream.writeQueue := by
    rw [owed, owed, List.map_map]
    rfl
  have size := books.size
  rw [streamFlushWriteQueue]
  refine ⟨?size, fun req member => ?queued,
    List.forall_mem_append.mpr ⟨books.completed, fun req member => ?completed⟩, ?ordered,
    fun req member => ?numbered⟩
  case size =>
    rw [requests, owed_append] at size
    rw [requests, List.append_nil, owed_append, same]
    exact size
  case queued => cases member
  case completed =>
    obtain ⟨old, waiting, rfl⟩ := List.mem_map.mp member
    have null := (books.queued old waiting).1
    refine ⟨negative.le, iff_of_false ?_ negative.ne, fun gone => ?_⟩
    · exact fun gone => Bool.false_ne_true (null.symm.trans gone)
    · exact absurd (null.symm.trans gone) Bool.false_ne_true
  case ordered => simpa [requests, Function.comp_def] using books.ordered
  case numbered =>
    rw [requests, List.append_nil, List.mem_append] at member
    rcases member with answered | cancelled
    · exact books.numbered req (List.mem_append_left _ answered)
    · obtain ⟨old, waiting, rfl⟩ := List.mem_map.mp cancelled
      exact books.numbered old (List.mem_append_right _ waiting)

/-- The first request that is completed is answered. -/
theorem Books.answer (books : stream.Books) (completed : stream.writeCompletedQueue = req :: rest)
    (event : StreamEvent) : { stream.record event with
      activeReqs := stream.activeReqs - 1
      writeCompletedQueue := rest
      writeQueueSize := stream.writeQueueSize - req.owed }.Books := by
  have split : stream.requests = req :: (rest ++ stream.writeQueue) := by
    rw [requests, completed]
    rfl
  have size := books.size
  have answered := books.completed
  have ordered := books.ordered
  have numbered := books.numbered
  rw [split, owed_cons] at size
  rw [completed, List.forall_mem_cons] at answered
  rw [split, List.map_cons, List.pairwise_cons] at ordered
  rw [split, List.forall_mem_cons] at numbered
  refine ⟨?_, books.queued, answered.2, ordered.2, numbered.2⟩
  change stream.writeQueueSize - req.owed = owed (rest ++ stream.writeQueue)
  omega

/-- A sum over the requests without one of them. -/
theorem sum_filter (weight : UvWrite → Nat) {requests : List UvWrite}
    (ordered : (requests.map UvWrite.serial).Pairwise (· < ·)) (member : req ∈ requests) :
    ((requests.filter fun other => other.serial ≠ req.serial).map weight).sum + weight req =
      (requests.map weight).sum := by
  induction requests with
  | nil => cases member
  | cons first others inductionHypothesis =>
    obtain ⟨least, later⟩ := List.pairwise_cons.mp ordered
    rcases List.mem_cons.mp member with rfl | inside
    · have kept : (others.filter fun other => other.serial ≠ req.serial) = others := by
        refine List.filter_eq_self.mpr ?_
        intro other among
        have order := least other.serial (List.mem_map_of_mem among)
        simp
        omega
      rw [List.filter_cons_of_neg (by simp), kept, List.map_cons, List.sum_cons, Nat.add_comm]
    · have order := least req.serial (List.mem_map_of_mem inside)
      rw [List.filter_cons_of_pos (by simp; omega), List.map_cons, List.map_cons, List.sum_cons,
        List.sum_cons, Nat.add_assoc, inductionHypothesis later inside]

/-- There is one request less. -/
theorem length_filter {requests : List UvWrite}
    (ordered : (requests.map UvWrite.serial).Pairwise (· < ·)) (member : req ∈ requests) :
    (requests.filter fun other => other.serial ≠ req.serial).length + 1 = requests.length := by
  simpa using sum_filter (fun _ => 1) ordered member

/-- The requests that are kept are those that are kept of the two queues. -/
theorem requests_filter (keep : UvWrite → Bool) :
    stream.writeCompletedQueue.filter keep ++ stream.writeQueue.filter keep =
      stream.requests.filter keep := by
  rw [requests, List.filter_append]

/-- `uv_try_write` takes its request back. -/
theorem Books.withdraw (books : stream.Books) (member : req ∈ stream.requests) :
    { stream with
      activeReqs := stream.activeReqs - 1
      writeQueueSize := stream.writeQueueSize - req.owed
      writeQueue := stream.writeQueue.filter fun other => other.serial ≠ req.serial
      writeCompletedQueue :=
        stream.writeCompletedQueue.filter fun other => other.serial ≠ req.serial }.Books := by
  have left := sum_filter UvWrite.owed books.ordered member
  have inside (other : UvWrite) (kept : other ∈ stream.requests.filter fun other =>
      other.serial ≠ req.serial) : other ∈ stream.requests := (List.mem_filter.mp kept).1
  refine ⟨?size, fun other kept => books.queued other (List.mem_filter.mp kept).1,
    fun other kept => books.completed other (List.mem_filter.mp kept).1, ?ordered, ?numbered⟩
  case size =>
    have size := books.size
    simp only [requests, requests_filter, owed]
    simp only [requests, owed] at left size
    omega
  case ordered =>
    simp only [requests, requests_filter]
    exact books.ordered.sublist (List.filter_sublist.map _)
  case numbered =>
    simp only [requests, requests_filter]
    exact fun other kept => books.numbered other (inside other kept)

end UvStream

/-- The number of a request that `uv_write` took, with its bytes. -/
def StreamEvent.queued? : StreamEvent → Option (Nat × List Byte)
  | .queued serial content => some (serial, content)
  | _ => none

/-- The number of a request whose callback was called, with its bytes. -/
def StreamEvent.written? : StreamEvent → Option (Nat × List Byte)
  | .written serial content _ => some (serial, content)
  | _ => none

/-- The number of a request of which the kernel took bytes, with these. -/
def StreamEvent.sent? : StreamEvent → Option (Nat × List Byte)
  | .sent serial bytes => some (serial, bytes)
  | _ => none

/-- The requests that `uv_write` took, with their bytes, in the order of the calls. -/
def queuedOf (trace : List StreamEvent) : List (Nat × List Byte) :=
  trace.filterMap StreamEvent.queued?

/-- The requests of `uv_write` that have had their callback, in the order of the callbacks. -/
def writtenOf (trace : List StreamEvent) : List (Nat × List Byte) :=
  trace.filterMap StreamEvent.written?

/-- What the kernel took, with the numbers of the requests. -/
def sentOf (trace : List StreamEvent) : List (Nat × List Byte) :=
  trace.filterMap StreamEvent.sent?

/-- The request with its bytes, if `uv_write` was called for it by the program. -/
def UvWrite.queued? (req : UvWrite) : Option (Nat × List Byte) :=
  if req.cb = .user then some (req.serial, req.content) else none

/-- What the record tells of the requests that are not answered and of those that are. -/
structure Ledger (requests : List UvWrite) (queue : List UvWrite) (calls : Nat)
    (trace : List StreamEvent) : Prop where
  /-- Callbacks come in the order of the calls, and to every request that is gone. -/
  answered : queuedOf trace = writtenOf trace ++ requests.filterMap UvWrite.queued?
  ordered : ((queuedOf trace).map Prod.fst).Pairwise (· < ·)
  numbered : ∀ call ∈ queuedOf trace, call.1 < calls
  sorted : ((sentOf trace).map Prod.fst).Pairwise (· ≤ ·)
  sent : ∀ chunk ∈ sentOf trace, chunk.1 < calls
  front : ∀ chunk ∈ sentOf trace, ∀ req ∈ queue, chunk.1 ≤ req.serial
  progress : ∀ req ∈ requests, ofMessage req.serial (sentOf trace) ++ req.left = req.content
  written : ∀ serial content status, .written serial content status ∈ trace →
    (∀ req ∈ queue, serial ≠ req.serial) ∧
      ofMessage serial (sentOf trace) <+: content ∧
      (status = 0 → ofMessage serial (sentOf trace) = content)
  tried : ∀ serial content result, .tried serial content result ∈ trace → serial < calls ∧
    (∀ req ∈ queue, serial ≠ req.serial) ∧
      ofMessage serial (sentOf trace) = content.take result.toNat ∧ result ≤ content.length
  shut : ∀ before status, before ++ [.shut status] <+: trace →
    queuedOf before = writtenOf before

namespace Ledger

variable {requests queue : List UvWrite} {calls : Nat} {trace : List StreamEvent} {req : UvWrite}
  {rest : List UvWrite}

/-- The events that tell nothing of a write request. -/
def Quiet : StreamEvent → Prop
  | .connecting | .connected _ | .shutting | .shutdown _ | .closed => True
  | _ => False

/-- One more event is no end of a shorter record. -/
theorem shut_append {event : StreamEvent} (shut : ∀ before status,
      before ++ [.shut status] <+: trace → queuedOf before = writtenOf before)
    (last : ∀ status, event = .shut status → queuedOf trace = writtenOf trace) :
    ∀ before status, before ++ [.shut status] <+: trace ++ [event] →
      queuedOf before = writtenOf before := by
  intro before status isPrefix
  rcases List.prefix_concat_iff.mp isPrefix with whole | earlier
  · obtain ⟨rfl, same⟩ := List.append_inj' whole rfl
    exact last status (List.singleton_inj.mp same).symm
  · exact shut before status earlier

/-- An event that is not read. -/
theorem filterMap_other {α : Type} (read : StreamEvent → Option α) {event : StreamEvent}
    (other : read event = none) (trace : List StreamEvent) :
    (trace ++ [event]).filterMap read = trace.filterMap read := by
  rw [List.filterMap_append, List.filterMap_cons_none other]
  exact List.append_nil _

/-- An event that is read. -/
theorem filterMap_read {α : Type} (read : StreamEvent → Option α) {event : StreamEvent} {item : α}
    (found : read event = some item) (trace : List StreamEvent) :
    (trace ++ [event]).filterMap read = trace.filterMap read ++ [item] := by
  rw [List.filterMap_append, List.filterMap_cons_some found]
  rfl

/-- One more event is recorded, by which no request is queued and no byte is sent. What was said
of the events before stays true, and the new one is judged by the three conditions on it. -/
theorem record {others : List UvWrite} {more : Nat} {event : StreamEvent}
    (ledger : Ledger requests queue calls trace) (silent : event.queued? = none)
    (unsent : event.sent? = none)
    (answered : queuedOf trace =
      writtenOf (trace ++ [event]) ++ others.filterMap UvWrite.queued?)
    (subset : ∀ other ∈ others, other ∈ requests) (grown : calls ≤ more)
    (written : ∀ serial content status, event = .written serial content status →
      (∀ req ∈ queue, serial ≠ req.serial) ∧
        ofMessage serial (sentOf trace) <+: content ∧
        (status = 0 → ofMessage serial (sentOf trace) = content))
    (tried : ∀ serial content result, event = .tried serial content result → serial < more ∧
      (∀ req ∈ queue, serial ≠ req.serial) ∧
        ofMessage serial (sentOf trace) = content.take result.toNat ∧ result ≤ content.length)
    (shut : ∀ status, event = .shut status → queuedOf trace = writtenOf trace) :
    Ledger others queue more (trace ++ [event]) := by
  have queuedSame : queuedOf (trace ++ [event]) = queuedOf trace :=
    filterMap_other StreamEvent.queued? silent trace
  have sentSame : sentOf (trace ++ [event]) = sentOf trace :=
    filterMap_other StreamEvent.sent? unsent trace
  refine ⟨?answered, ?ordered, ?numbered, ?sorted, ?sent, ?front, ?progress,
    fun serial content status member => ?written, fun serial content result member => ?tried,
    shut_append ledger.shut shut⟩
  case answered =>
    rw [queuedSame]
    exact answered
  case ordered =>
    rw [queuedSame]
    exact ledger.ordered
  case numbered =>
    rw [queuedSame]
    exact fun call member => Nat.lt_of_lt_of_le (ledger.numbered call member) grown
  case sorted =>
    rw [sentSame]
    exact ledger.sorted
  case sent =>
    rw [sentSame]
    exact fun chunk member => Nat.lt_of_lt_of_le (ledger.sent chunk member) grown
  case front =>
    rw [sentSame]
    exact ledger.front
  case progress =>
    rw [sentSame]
    exact fun req member => ledger.progress req (subset req member)
  case written =>
    rw [sentSame]
    rcases List.mem_append.mp member with earlier | last
    · exact ledger.written serial content status earlier
    · exact written serial content status (List.mem_singleton.mp last).symm
  case tried =>
    rw [sentSame]
    rcases List.mem_append.mp member with earlier | last
    · obtain ⟨below, others⟩ := ledger.tried serial content result earlier
      exact ⟨Nat.lt_of_lt_of_le below grown, others⟩
    · exact tried serial content result (List.mem_singleton.mp last).symm

/-- What happens to the connection and to the shutdown is no matter of the write requests. -/
theorem quiet (ledger : Ledger requests queue calls trace) {event : StreamEvent}
    (quiet : Quiet event) : Ledger requests queue calls (trace ++ [event]) := by
  obtain ⟨silent, unwritten, unsent⟩ :
      event.queued? = none ∧ event.written? = none ∧ event.sent? = none := by
    cases event with
    | queued | sent | written | tried | shut => exact quiet.elim
    | connecting | connected | shutting | shutdown | closed => exact ⟨rfl, rfl, rfl⟩
  have writtenSame : writtenOf (trace ++ [event]) = writtenOf trace :=
    filterMap_other StreamEvent.written? unwritten trace
  refine ledger.record silent unsent ?_ (fun _ member => member) le_rfl ?_ ?_ ?_
  · rw [writtenSame]
    exact ledger.answered
  · rintro serial content status rfl
    exact quiet.elim
  · rintro serial content result rfl
    exact quiet.elim
  · rintro status rfl
    exact quiet.elim

/-- `shutdown` is called when every request has been answered. -/
theorem shutdown (ledger : Ledger [] queue calls trace) (status : Int) :
    Ledger [] queue calls (trace ++ [.shut status]) := by
  have writtenSame : writtenOf (trace ++ [.shut status]) = writtenOf trace :=
    filterMap_other StreamEvent.written? rfl trace
  refine ledger.record rfl rfl ?_ (fun _ member => member) le_rfl ?_ ?_ ?_
  · rw [writtenSame]
    exact ledger.answered
  · rintro serial content status ⟨⟩
  · rintro serial content result ⟨⟩
  · intro _ _
    simpa using ledger.answered

/-- The kernel takes bytes of the first request of the queue. The bytes are the first ones that
the request still owes, so what was sent of it is a longer prefix of its content. -/
theorem send {before : List UvWrite}
    (ledger : Ledger (before ++ req :: rest) (req :: rest) calls trace)
    (serials : ((before ++ req :: rest).map UvWrite.serial).Pairwise (· < ·))
    (below : req.serial < calls) {bytes : List Byte} {bufs : List (List Byte)}
    (left : req.left = bytes ++ bufs.flatten) :
    Ledger (before ++ { req with bufs := bufs } :: rest) ({ req with bufs := bufs } :: rest) calls
      (trace ++ [.sent req.serial bytes]) := by
  have queuedSame : queuedOf (trace ++ [.sent req.serial bytes]) = queuedOf trace :=
    filterMap_other StreamEvent.queued? rfl trace
  have writtenSame : writtenOf (trace ++ [.sent req.serial bytes]) = writtenOf trace :=
    filterMap_other StreamEvent.written? rfl trace
  have sentMore : sentOf (trace ++ [.sent req.serial bytes]) =
      sentOf trace ++ [(req.serial, bytes)] := filterMap_read StreamEvent.sent? rfl trace
  have others (serial : Nat) (different : serial ≠ req.serial) :
      ofMessage serial (sentOf trace ++ [(req.serial, bytes)]) =
        ofMessage serial (sentOf trace) := by
    rw [ofMessage_append, ofMessage_singleton, if_neg different.symm, List.append_nil]
  have here : ofMessage req.serial (sentOf trace ++ [(req.serial, bytes)]) =
      ofMessage req.serial (sentOf trace) ++ bytes := by
    rw [ofMessage_append, ofMessage_singleton, if_pos rfl]
  rw [List.map_append, List.map_cons, List.pairwise_append, List.pairwise_cons] at serials
  obtain ⟨_, ⟨least, _⟩, apart⟩ := serials
  have earlier : ∀ other ∈ before, other.serial ≠ req.serial := fun other member =>
    Nat.ne_of_lt (apart _ (List.mem_map_of_mem member) _ List.mem_cons_self)
  have later : ∀ other ∈ rest, req.serial < other.serial := fun other member =>
    least _ (List.mem_map_of_mem member)
  have front : ∀ chunk ∈ sentOf trace, chunk.1 ≤ req.serial := fun chunk member =>
    ledger.front chunk member req List.mem_cons_self
  -- The queue has the same numbers as before.
  have queue {serial : Nat} (free : ∀ other ∈ req :: rest, serial ≠ other.serial) :
      ∀ other ∈ { req with bufs := bufs } :: rest, serial ≠ other.serial := by
    rw [List.forall_mem_cons] at free ⊢
    exact free
  refine ⟨?answered, ?ordered, ?numbered, ?sorted, ?sent, ?front, ?progress,
    fun serial content status member => ?written, fun serial content result member => ?tried,
    shut_append ledger.shut ?shut⟩
  case answered =>
    rw [queuedSame, writtenSame, ledger.answered, List.filterMap_append, List.filterMap_append]
    rfl
  case ordered =>
    rw [queuedSame]
    exact ledger.ordered
  case numbered =>
    rw [queuedSame]
    exact ledger.numbered
  case sorted =>
    rw [sentMore, List.map_append]
    refine List.pairwise_append.mpr ⟨ledger.sorted, List.pairwise_singleton _ _, ?_⟩
    intro serial among last own
    obtain ⟨chunk, member, rfl⟩ := List.mem_map.mp among
    rw [List.mem_singleton.mp own]
    exact front chunk member
  case sent =>
    rw [sentMore]
    refine List.forall_mem_append.mpr ⟨ledger.sent, ?_⟩
    rw [List.forall_mem_singleton]
    exact below
  case front =>
    rw [sentMore]
    refine List.forall_mem_append.mpr ⟨fun chunk member => ?_, ?_⟩
    · have before := ledger.front chunk member
      rw [List.forall_mem_cons] at before ⊢
      exact before
    · rw [List.forall_mem_singleton, List.forall_mem_cons]
      exact ⟨le_rfl, fun other member => (later other member).le⟩
  case progress =>
    rw [sentMore]
    intro other member
    rcases List.mem_append.mp member with first | second
    · rw [others _ (earlier other first)]
      exact ledger.progress other (List.mem_append_left _ first)
    · rcases List.mem_cons.mp second with rfl | last
      · have whole := ledger.progress req (List.mem_append_right _ List.mem_cons_self)
        rw [here, List.append_assoc]
        exact left ▸ whole
      · rw [others _ (Nat.ne_of_gt (later other last))]
        exact ledger.progress other (List.mem_append_right _ (List.mem_cons_of_mem _ last))
  case written =>
    have member : .written serial content status ∈ trace := by simpa using member
    obtain ⟨free, status⟩ := ledger.written serial content status member
    rw [sentMore, others serial (free req List.mem_cons_self)]
    exact ⟨queue free, status⟩
  case tried =>
    have member : .tried serial content result ∈ trace := by simpa using member
    obtain ⟨called, free, result⟩ := ledger.tried serial content result member
    rw [sentMore, others serial (free req List.mem_cons_self)]
    exact ⟨called, queue free, result⟩
  case shut => rintro status ⟨⟩

/-- The requests change in what the record does not tell, and may leave the queue. The record
speaks of the requests by their numbers, their contents and what they owe, and of the queue by
the order of the numbers. -/
theorem move {others otherQueue : List UvWrite} (ledger : Ledger requests queue calls trace)
    (same : others.map (fun req => (req.serial, req.content, req.cb, req.left)) =
      requests.map fun req => (req.serial, req.content, req.cb, req.left))
    (subset : ∀ other ∈ otherQueue, ∃ req ∈ queue, req.serial = other.serial) :
    Ledger others otherQueue calls trace := by
  have member : ∀ other ∈ others, ∃ req ∈ requests, req.serial = other.serial ∧
      req.content = other.content ∧ req.left = other.left := by
    intro other inside
    have image := List.mem_map_of_mem (f := fun req : UvWrite =>
      (req.serial, req.content, req.cb, req.left)) inside
    rw [same] at image
    obtain ⟨req, among, equal⟩ := List.mem_map.mp image
    simp only [Prod.mk.injEq] at equal
    exact ⟨req, among, equal.1, equal.2.1, equal.2.2.2⟩
  have calledSame : others.filterMap UvWrite.queued? = requests.filterMap UvWrite.queued? := by
    have read (list : List UvWrite) : list.filterMap UvWrite.queued? =
        (list.map fun req => (req.serial, req.content, req.cb, req.left)).filterMap fun fields =>
          if fields.2.2.1 = .user then some (fields.1, fields.2.1) else none := by
      rw [List.filterMap_map]
      rfl
    rw [read, read, same]
  have leaves {serial : Nat} (free : ∀ req ∈ queue, serial ≠ req.serial) :
      ∀ other ∈ otherQueue, serial ≠ other.serial := by
    intro other inside
    obtain ⟨req, among, number⟩ := subset other inside
    rw [← number]
    exact free req among
  refine ⟨?answered, ledger.ordered, ledger.numbered, ledger.sorted, ledger.sent,
    fun chunk inside other waits => ?front, fun other inside => ?progress,
    fun serial content status inside => ?written, fun serial content result inside => ?tried,
    ledger.shut⟩
  case answered =>
    rw [calledSame]
    exact ledger.answered
  case front =>
    obtain ⟨req, among, number⟩ := subset other waits
    rw [← number]
    exact ledger.front chunk inside req among
  case progress =>
    obtain ⟨req, among, number, content, left⟩ := member other inside
    rw [← number, ← content, ← left]
    exact ledger.progress req among
  case written =>
    obtain ⟨free, status⟩ := ledger.written serial content status inside
    exact ⟨leaves free, status⟩
  case tried =>
    obtain ⟨called, free, result⟩ := ledger.tried serial content result inside
    exact ⟨called, leaves free, result⟩

/-- A request is taken, which the program calls its own or `uv_try_write` does. Its number is
greater than all numbers before, so no event tells of it yet. -/
theorem take (ledger : Ledger requests queue calls trace) (cb : WriteCb)
    (bufs : List (List Byte)) {events : List StreamEvent}
    (answered : queuedOf (trace ++ events) = writtenOf (trace ++ events) ++
      List.filterMap UvWrite.queued?
        (requests ++ [⟨calls, bufs.flatten, cb, bufs, false, 0⟩]))
    (ordered : ((queuedOf (trace ++ events)).map Prod.fst).Pairwise (· < ·))
    (numbered : ∀ call ∈ queuedOf (trace ++ events), call.1 < calls + 1)
    (unsent : sentOf (trace ++ events) = sentOf trace)
    (unwritten : ∀ serial content status,
      .written serial content status ∈ trace ++ events → .written serial content status ∈ trace)
    (untried : ∀ serial content result,
      .tried serial content result ∈ trace ++ events → .tried serial content result ∈ trace)
    (shut : ∀ before status, before ++ [.shut status] <+: trace ++ events →
      queuedOf before = writtenOf before) :
    Ledger (requests ++ [⟨calls, bufs.flatten, cb, bufs, false, 0⟩])
      (queue ++ [⟨calls, bufs.flatten, cb, bufs, false, 0⟩]) (calls + 1) (trace ++ events) := by
  have fresh : ofMessage calls (sentOf trace) = [] :=
    ofMessage_eq_nil fun chunk member => Nat.ne_of_lt (ledger.sent chunk member)
  have reported (serial : Nat) (content : List Byte) (status : Int)
      (member : .written serial content status ∈ trace) : serial < calls := by
    refine ledger.numbered (serial, content) ?_
    rw [ledger.answered]
    exact List.mem_append_left _ (List.mem_filterMap.mpr ⟨_, member, rfl⟩)
  refine ⟨answered, ordered, numbered, ?sorted, ?sent, ?front, ?progress,
    fun serial content status member => ?written, fun serial content result member => ?tried, shut⟩
  case sorted =>
    rw [unsent]
    exact ledger.sorted
  case sent =>
    rw [unsent]
    exact fun chunk member => Nat.lt_succ_of_lt (ledger.sent chunk member)
  case front =>
    rw [unsent]
    intro chunk member
    refine List.forall_mem_append.mpr ⟨ledger.front chunk member, ?_⟩
    rw [List.forall_mem_singleton]
    exact (ledger.sent chunk member).le
  case progress =>
    rw [unsent]
    refine List.forall_mem_append.mpr ⟨ledger.progress, ?_⟩
    rw [List.forall_mem_singleton, fresh]
    rfl
  case written =>
    have before := unwritten serial content status member
    obtain ⟨free, status⟩ := ledger.written serial content status before
    rw [unsent]
    refine ⟨List.forall_mem_append.mpr ⟨free, ?_⟩, status⟩
    rw [List.forall_mem_singleton]
    exact (reported _ _ _ before).ne
  case tried =>
    obtain ⟨called, free, result⟩ :=
      ledger.tried serial content result (untried serial content result member)
    rw [unsent]
    refine ⟨Nat.lt_succ_of_lt called, List.forall_mem_append.mpr ⟨free, ?_⟩, result⟩
    rw [List.forall_mem_singleton]
    exact called.ne

/-- `uv_write2` takes a request. A request of the program is recorded as queued, and one of
`uv_try_write` is not. -/
theorem enqueue (ledger : Ledger requests queue calls trace) (cb : WriteCb)
    (bufs : List (List Byte)) :
    Ledger (requests ++ [⟨calls, bufs.flatten, cb, bufs, false, 0⟩])
      (queue ++ [⟨calls, bufs.flatten, cb, bufs, false, 0⟩]) (calls + 1)
      (trace ++ if cb = .user then [.queued calls bufs.flatten] else []) := by
  have numbered (call : Nat × List Byte) (member : call ∈ queuedOf trace) : call.1 < calls + 1 :=
    Nat.lt_succ_of_lt (ledger.numbered call member)
  cases cb with
  | uvTryWriteCb =>
    rw [if_neg (by decide)]
    refine ledger.take _ _ ?_ ?_ ?_ ?_ ?_ ?_ ?_
    all_goals rw [List.append_nil]
    · rw [List.filterMap_append]
      exact ledger.answered.trans (congrArg _ (List.append_nil _).symm)
    · exact ledger.ordered
    · exact numbered
    · exact fun _ _ _ member => member
    · exact fun _ _ _ member => member
    · exact ledger.shut
  | user =>
    have queuedMore : queuedOf (trace ++ [.queued calls bufs.flatten]) =
        queuedOf trace ++ [(calls, bufs.flatten)] := filterMap_read StreamEvent.queued? rfl trace
    have writtenSame : writtenOf (trace ++ [.queued calls bufs.flatten]) = writtenOf trace :=
      filterMap_other StreamEvent.written? rfl trace
    rw [if_pos rfl]
    refine ledger.take _ _ ?_ ?_ ?_ (filterMap_other StreamEvent.sent? rfl trace)
      (fun _ _ _ member => ?_) (fun _ _ _ member => ?_) (shut_append ledger.shut ?_)
    · rw [queuedMore, writtenSame, ledger.answered, List.filterMap_append, List.append_assoc]
      rfl
    · rw [queuedMore, List.map_append]
      refine List.pairwise_append.mpr ⟨ledger.ordered, List.pairwise_singleton _ _, ?_⟩
      intro serial among last own
      obtain ⟨call, member, rfl⟩ := List.mem_map.mp among
      rw [List.mem_singleton.mp own]
      exact ledger.numbered call member
    · rw [queuedMore]
      refine List.forall_mem_append.mpr ⟨numbered, ?_⟩
      rw [List.forall_mem_singleton]
      exact Nat.lt_succ_self _
    · simpa using member
    · simpa using member
    · rintro status ⟨⟩

/-- The first request is answered. -/
theorem answer (ledger : Ledger (req :: requests) queue calls trace) (user : req.cb = .user)
    (apart : ∀ other ∈ queue, req.serial ≠ other.serial) (whole : req.error = 0 → req.left = []) :
    Ledger requests queue calls (trace ++ [.written req.serial req.content req.error]) := by
  have progress := ledger.progress req List.mem_cons_self
  have writtenMore : writtenOf (trace ++ [.written req.serial req.content req.error]) =
      writtenOf trace ++ [(req.serial, req.content)] :=
    filterMap_read StreamEvent.written? rfl trace
  refine ledger.record rfl rfl ?_ (fun _ member => List.mem_cons_of_mem _ member) le_rfl ?_ ?_ ?_
  · have own : req.queued? = some (req.serial, req.content) := if_pos user
    rw [writtenMore, ledger.answered, List.filterMap_cons_some own, List.append_assoc]
    rfl
  · rintro serial content status ⟨⟩
    refine ⟨apart, ⟨req.left, progress⟩, ?_⟩
    intro success
    rw [whole success, List.append_nil] at progress
    exact progress
  · rintro serial content result ⟨⟩
  · rintro status ⟨⟩

/-- `uv_try_write` returns without a request of its own left. -/
theorem tryResult (ledger : Ledger requests queue calls trace) {serial : Nat}
    {content : List Byte} {result : Int} {more : Nat} (below : serial < more) (grown : calls ≤ more)
    (apart : ∀ req ∈ queue, serial ≠ req.serial)
    (taken : ofMessage serial (sentOf trace) = content.take result.toNat)
    (bounded : result ≤ content.length) :
    Ledger requests queue more (trace ++ [.tried serial content result]) := by
  have writtenSame : writtenOf (trace ++ [.tried serial content result]) = writtenOf trace :=
    filterMap_other StreamEvent.written? rfl trace
  refine ledger.record rfl rfl ?_ (fun _ member => member) grown ?_ ?_ ?_
  · rw [writtenSame]
    exact ledger.answered
  · rintro serial content status ⟨⟩
  · rintro serial content result ⟨⟩
    exact ⟨below, apart, taken, bounded⟩
  · rintro status ⟨⟩

/-- A request that the program has not queued itself is taken out. No call that is recorded as
queued is lost by this, and none is recorded as answered. -/
theorem withdraw (ledger : Ledger requests queue calls trace) (serial : Nat)
    (attempt : ∀ req ∈ requests, req.serial = serial → req.cb = .uvTryWriteCb) :
    Ledger (requests.filter fun req => req.serial ≠ serial)
      (queue.filter fun req => req.serial ≠ serial) calls trace := by
  have same : (requests.filter fun req => req.serial ≠ serial).filterMap UvWrite.queued? =
      requests.filterMap UvWrite.queued? := by
    rw [List.filterMap_filter]
    refine List.filterMap_congr ?_
    intro req member
    by_cases here : req.serial = serial
    · have cb := attempt req member here
      simp [here, UvWrite.queued?, cb]
    · simp [here]
  have waiting {req : UvWrite} (kept : req ∈ queue.filter fun req => req.serial ≠ serial) :
      req ∈ queue := (List.mem_filter.mp kept).1
  refine ⟨?_, ledger.ordered, ledger.numbered, ledger.sorted, ledger.sent,
    fun chunk member req kept => ledger.front chunk member req (waiting kept),
    fun req kept => ledger.progress req (List.mem_filter.mp kept).1,
    fun serial content status member => ?_, fun serial content result member => ?_, ledger.shut⟩
  · rw [same]
    exact ledger.answered
  · obtain ⟨free, status⟩ := ledger.written serial content status member
    exact ⟨fun req kept => free req (waiting kept), status⟩
  · obtain ⟨called, free, result⟩ := ledger.tried serial content result member
    exact ⟨called, fun req kept => free req (waiting kept), result⟩

end Ledger

end MoeUV
