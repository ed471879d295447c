import MoeUV.Stream.RequestSteps

/-!
# Every request of a stream is answered

Each request of `uv_write`, `uv_tcp_connect` and `uv_shutdown` has its callback once, those
of `uv_write` in the order of the calls, and at the latest before the handle is closed. The
kernel gets the bytes in that order too, all bytes of a request that is answered with
success, and `shutdown` is not called before every request has been answered.
-/

namespace MoeUV

open Foundation.Execution Foundation.Chunks

namespace UvStream

variable {stream next : UvStream} {req : UvWrite} {rest : List UvWrite} {answers : KernelAnswers}

section Facts

/-- A place outside of the callbacks is not in `uv__stream_destroy`. -/
theorem alive_outside (place : stream.place = .outside) : stream.place.destroying = false := by
  rw [place]
  rfl

/-- A shutdown waits for its callback at any place but that one. -/
theorem ending_stays (place : stream.place ≠ .destroyShutdownCb)
    (placeNext : next.place ≠ .destroyShutdownCb)
    (shutdownReq : next.shutdownReq = stream.shutdownReq) : next.ending = stream.ending := by
  rw [ending, ending, shutdownReq]
  exact if_congr (and_congr_right fun _ => iff_of_true placeNext place) rfl rfl

/-- A stream that is not being closed has its descriptor, or nothing was asked of it. -/
theorem Life.of_alive (life : stream.Life) (alive : stream.closing = false) :
    stream.Unopened ∨ stream.Opened := by
  cases life with
  | unopened unopened => exact Or.inl unopened
  | opened opened => exact Or.inr opened
  | closing closing => exact absurd (alive.symm.trans closing.closing) Bool.false_ne_true
  | closed closed => exact absurd (alive.symm.trans closed.closing) Bool.false_ne_true

/-- A stream that gets its descriptor is as if it had had it. -/
theorem Unopened.open (unopened : stream.Unopened) (fd : next.fd = true)
    (alive : next.closing = stream.closing) (closed : next.closed = stream.closed)
    (place : next.place = stream.place) (shutting : next.shutting = stream.shutting)
    (shutdownReq : next.shutdownReq = stream.shutdownReq) : next.Opened := by
  refine ⟨fd, alive.trans unopened.alive, closed.trans unopened.closed, ?_, ?_, fun _ =>
    shutting.trans unopened.shutting⟩
  · rw [place, unopened.place]
    rfl
  · rw [shutting, shutdownReq, unopened.shutting, unopened.shutdownReq]

/-- Between two callbacks, what is queued waits for the poll or for the queue of the loop. -/
theorem Served.outside (served : stream.Served) (place : stream.place = .outside)
    (fd : stream.fd = true) :
    (stream.writeQueue ≠ [] → stream.pollout = true ∨ stream.fed = true) ∧
      (stream.writeCompletedQueue ≠ [] → stream.fed = true) ∧
        (stream.shutdownReq = true → stream.pollout = true ∨ stream.fed = true) := by
  refine ⟨fun some => ?_, fun some => ?_, fun asked => ?_⟩
  · refine (served.queued fd some).imp_right fun more => more.resolve_right ?_
    simp [place]
  · refine (served.completed fd some).resolve_right ?_
    rw [place]
    rintro (writing | cancelling)
    · cases writing
    · cases cancelling
  · refine (served.shutting fd asked).imp_right fun more => more.resolve_right ?_
    simp [place]

/-- While a connection is made between two callbacks, no request has been answered. -/
theorem Served.unanswered (served : stream.Served) (place : stream.place.cancelling = false)
    (fd : stream.fd = true) (connectReq : stream.connectReq = true) :
    stream.writeCompletedQueue = [] := by
  refine (served.connecting fd connectReq).2.2.2.resolve_right fun cancelling => ?_
  exact absurd (place.symm.trans cancelling) Bool.false_ne_true

end Facts

section Connecting

/-- `uv__stream_connect`, with the watcher taken from the queue of the loop or not. While the
kernel is still connecting nothing happens; otherwise the request is unregistered and its
callback is made, with the error if there is one. -/
theorem streamConnect_kept (kept : stream.Kept) (place : stream.place = .outside)
    (fd : stream.fd = true) (connectReq : stream.connectReq = true) (soError : Int) :
    ∃ next, stream.streamConnect soError = .ok next ∧ next.Kept ∧
      (stream.pollout = true → stream.shutdownReq = false → stream.writeCompletedQueue = [] →
        next.Served) := by
  have opened : stream.Opened := kept.life.of_fd fd
  rw [streamConnect, if_neg (by simp [fd])]
  generalize (if stream.delayedError ≠ 0 then stream.delayedError else soError) = error
  dsimp only
  by_cases again : error = UV_EINPROGRESS
  · rw [if_pos again]
    refine ⟨_, rfl, ⟨kept.books.same rfl rfl rfl le_rfl, kept.ledger, kept.users,
      .opened ⟨opened.fd, opened.alive, opened.closed, opened.place, opened.shutting, opened.shut⟩,
      ⟨kept.counts.active, kept.counts.connects, kept.counts.shutdowns⟩⟩,
      fun pollout shutdownReq answered => ⟨fun _ _ => ⟨pollout, shutdownReq, ?_, Or.inl answered⟩,
        fun _ _ => Or.inl pollout, fun _ some => absurd answered some, fun _ _ => Or.inl pollout⟩⟩
    change stream.place.writing = false
    rw [place]
    rfl
  · have connecting : stream.connecting = 1 :=
      (connecting_eq opened.place).trans (if_pos connectReq)
    have registered : stream.activeReqs ≠ 0 := by
      rw [kept.counts.active, connecting]
      omega
    rw [if_neg again, reqUnregister, if_neg (by exact registered), ok_bind]
    have stops (queue : UvStream) (fd : queue.fd = true) :
        (if error < 0 ∨ queue.writeQueue = [] then queue.ioStop else queue) =
          { queue with pollout := if error < 0 ∨ queue.writeQueue = [] then false
                                  else queue.pollout } := by
      split
      · exact if_pos fd
      · rfl
    rw [stops _ (by exact fd)]
    refine ⟨_, rfl, ⟨kept.books.same rfl rfl rfl le_rfl, kept.ledger.quiet trivial, kept.users,
      .opened ⟨opened.fd, opened.alive, opened.closed, rfl, opened.shutting, opened.shut⟩, ?_⟩,
      fun pollout shutdownReq answered => ?_⟩
    · refine kept.counts.recorded rfl rfl connecting (connecting_none rfl) rfl
        (ending_congr opened.place rfl rfl) ?_ rfl rfl
      change stream.activeReqs - 1 + 1 + stream.ending = stream.activeReqs + 0 + stream.ending
      omega
    · refine ⟨fun _ still => absurd still Bool.false_ne_true, fun _ some => ?_,
        fun _ some => absurd answered some, fun _ asked => ?_⟩
      · by_cases failed : error < 0
        · exact Or.inr (Or.inr (congrArg StreamPlace.connectCb (decide_eq_true failed)))
        · refine Or.inl ((if_neg ?_).trans pollout)
          rintro (negative | empty)
          · exact failed negative
          · exact some empty
      · exact absurd (shutdownReq.symm.trans asked) Bool.false_ne_true

/-- The program does not connect a stream on which requests are still to be answered, or
one that it is shutting down, nor from the read and write callbacks, and it does not shut
down before it is connected. -/
def Orderly (stream : UvStream) : UvStreamAction → Prop
  | .connect _ _ => stream.connectReq = true ∨
      stream.shutdownReq = false ∧ stream.place.writing = false ∧
        (stream.writeCompletedQueue = [] ∨ stream.place.cancelling = true)
  | .shutdown => stream.connectReq = false
  | _ => True

/-- A stream is given the descriptor of a connection. -/
theorem streamOpen_kept (kept : stream.Kept) (alive : stream.closing = false) :
    stream.streamOpen.2.Kept ∧ (stream.Served → stream.streamOpen.2.Served) := by
  rw [streamOpen]
  by_cases fd : stream.fd = true
  · rw [if_pos fd]
    exact ⟨kept, id⟩
  · rw [if_neg fd]
    have unopened : stream.Unopened :=
      (kept.life.of_alive alive).resolve_right fun opened => fd opened.fd
    refine ⟨⟨kept.books.same rfl rfl rfl le_rfl, kept.ledger, kept.users,
      .opened (unopened.open rfl rfl rfl rfl rfl rfl),
      ⟨kept.counts.active, kept.counts.connects, kept.counts.shutdowns⟩⟩, fun _ => ?_⟩
    refine ⟨fun _ asked => absurd (unopened.connectReq.symm.trans asked) Bool.false_ne_true,
      fun _ some => absurd unopened.writeQueue some, fun _ some => absurd unopened.completed some,
      fun _ asked => absurd (unopened.shutdownReq.symm.trans asked) Bool.false_ne_true⟩

/-- The part of `uv__tcp_connect` behind `connect`. The request is registered and the watcher is
started, and it is fed at once if the connection was refused, so that the error is reported from
the loop. -/
theorem connecting_kept (kept : stream.Kept) (alive : stream.closing = false)
    (notConnecting : stream.connectReq = false) (delayedError : Int) (refused : Bool) :
    let next := ({ stream with
      fd := true
      writable := true
      delayedError := delayedError
      connectReq := true
      activeReqs := stream.activeReqs + 1
      pollout := true
      fed := refused || stream.fed } : UvStream).record .connecting
    next.Kept ∧ (stream.Served →
      (stream.shutdownReq = false ∧ stream.place.writing = false ∧
        (stream.writeCompletedQueue = [] ∨ stream.place.cancelling = true)) → next.Served) := by
  have place : stream.place.destroying = false := by
    rcases kept.life.of_alive alive with unopened | opened
    · exact alive_outside unopened.place
    · exact opened.place
  refine ⟨⟨kept.books.same rfl rfl rfl le_rfl, kept.ledger.quiet trivial, kept.users,
    .opened ?opened, ?counts⟩, fun served orderly => ?served⟩
  case opened =>
    rcases kept.life.of_alive alive with unopened | opened
    · exact unopened.open rfl rfl rfl rfl rfl rfl
    · exact ⟨rfl, opened.alive, opened.closed, opened.place, opened.shutting, opened.shut⟩
  case counts =>
    refine kept.counts.recorded rfl rfl (connecting_none notConnecting)
      ((connecting_eq (by exact place)).trans (if_pos rfl)) rfl (ending_congr place place rfl) ?_
      rfl rfl
    change stream.activeReqs + 1 + 0 + stream.ending = stream.activeReqs + 1 + stream.ending
    rfl
  case served =>
    refine ⟨fun _ _ => ⟨rfl, orderly⟩, fun _ _ => Or.inl rfl, fun _ some => ?_,
      fun _ _ => Or.inl rfl⟩
    rcases kept.life.of_alive alive with unopened | opened
    · exact absurd unopened.completed some
    · refine (served.completed opened.fd some).imp_left fun fed => ?_
      exact (congrArg (refused || ·) fed).trans (Bool.or_true refused)

/-- A connection is asked for. A second connection is refused while the first one is being made,
and so is one without a socket. -/
theorem tcpConnect_kept (kept : stream.Kept) (alive : stream.closing = false)
    (socketError connectError : Int) :
    (stream.tcpConnect socketError connectError).2.Kept ∧
      (stream.Served → stream.Orderly (.connect socketError connectError) →
        (stream.tcpConnect socketError connectError).2.Served) := by
  rw [tcpConnect]
  by_cases connecting : stream.connectReq = true
  · rw [if_pos connecting]
    exact ⟨kept, fun served _ => served⟩
  · rw [if_neg connecting]
    have notConnecting : stream.connectReq = false := by simpa using connecting
    by_cases noSocket : stream.fd = false ∧ socketError ≠ 0
    · rw [if_pos noSocket]
      exact ⟨kept, fun served _ => served⟩
    · rw [if_neg noSocket]
      dsimp only
      by_cases failed : connectError ≠ 0 ∧ connectError ≠ UV_EINPROGRESS ∧
          connectError ≠ UV_ECONNREFUSED
      · -- The descriptor stays, and nothing was asked of the stream.
        rw [if_pos failed]
        rcases kept.life.of_alive alive with unopened | opened
        · refine ⟨⟨kept.books.same rfl rfl rfl le_rfl, kept.ledger, kept.users,
            .opened (unopened.open rfl rfl rfl rfl rfl rfl),
            ⟨kept.counts.active, kept.counts.connects, kept.counts.shutdowns⟩⟩, fun _ _ => ?_⟩
          refine ⟨fun _ asked => absurd (unopened.connectReq.symm.trans asked) Bool.false_ne_true,
            fun _ some => absurd unopened.writeQueue some,
            fun _ some => absurd unopened.completed some,
            fun _ asked => absurd (unopened.shutdownReq.symm.trans asked) Bool.false_ne_true⟩
        · refine ⟨⟨kept.books.same rfl rfl rfl le_rfl, kept.ledger, kept.users,
            .opened ⟨rfl, opened.alive, opened.closed, opened.place, opened.shutting, opened.shut⟩,
            ⟨kept.counts.active, kept.counts.connects, kept.counts.shutdowns⟩⟩,
            fun served _ => ?_⟩
          exact ⟨fun _ => served.connecting opened.fd, fun _ => served.queued opened.fd,
            fun _ => served.completed opened.fd, fun _ => served.shutting opened.fd⟩
      · rw [if_neg failed]
        obtain ⟨keptNext, served⟩ := connecting_kept kept alive notConnecting
          (if decide (connectError = UV_ECONNREFUSED) = true then connectError else 0)
          (decide (connectError = UV_ECONNREFUSED))
        exact ⟨keptNext, fun before orderly => served before (orderly.resolve_left connecting)⟩

end Connecting

section Ending

/-- A shutdown is asked for, or refused. It is refused unless the stream is writable and neither
shut down nor closing; otherwise the request waits until all writes are answered. -/
theorem uvShutdown_kept (kept : stream.Kept) :
    ∃ result next, stream.uvShutdown = .ok (result, next) ∧ next.Kept ∧
      (stream.Served → stream.Orderly .shutdown → next.Served) := by
  rw [uvShutdown]
  by_cases refused : stream.writable = false ∨ stream.shut = true ∨ stream.shutting = true ∨
      stream.closing = true
  · rw [if_pos refused]
    exact ⟨_, _, rfl, kept, fun served _ => served⟩
  · obtain ⟨writable, _, notShutting, notClosing⟩ :
        stream.writable ≠ false ∧ stream.shut ≠ true ∧ stream.shutting ≠ true ∧
          stream.closing ≠ true := by simpa only [not_or] using refused
    have opened : stream.Opened := by
      rcases kept.life.of_alive (by simpa using notClosing) with unopened | opened
      · exact absurd unopened.writable writable
      · exact opened
    have unasked : stream.shutdownReq = false := by
      by_contra asked
      exact notShutting (opened.shutting.mpr (by simpa using asked))
    rw [if_neg refused, if_neg (by simp [opened.fd])]
    refine ⟨_, _, rfl, ⟨kept.books.same rfl rfl rfl le_rfl, kept.ledger.quiet trivial, kept.users,
      .opened ?opened, ?counts⟩, fun served orderly => ?served⟩
    case opened =>
      refine ⟨opened.fd, opened.alive, opened.closed, opened.place, iff_of_true rfl rfl,
        fun shut => ?_⟩
      exact absurd (Or.inr (Or.inl shut)) refused
    case counts =>
      refine kept.counts.recorded rfl rfl rfl (connecting_congr opened.place opened.place rfl)
        (ending_none unasked) ((ending_eq (by exact opened.place)).trans (if_pos rfl)) ?_ rfl rfl
      change stream.activeReqs + 1 + stream.connecting + 0 =
        stream.activeReqs + stream.connecting + 1
      omega
    case served =>
      have idle : stream.connectReq = false := orderly
      exact ⟨fun _ asked => absurd (idle.symm.trans asked) Bool.false_ne_true,
        fun _ _ => Or.inl rfl, fun _ => served.completed opened.fd, fun _ _ => Or.inl rfl⟩

/-- The program closes the handle. -/
theorem uvClose_kept (kept : stream.Kept) (alive : stream.closing = false) :
    stream.uvClose.Kept ∧ stream.uvClose.Served := by
  obtain ⟨closed, place⟩ : stream.closed = false ∧ stream.place.destroying = false := by
    rcases kept.life.of_alive alive with unopened | opened
    · exact ⟨unopened.closed, alive_outside unopened.place⟩
    · exact ⟨opened.closed, opened.place⟩
  exact ⟨⟨kept.books.same rfl rfl rfl le_rfl, kept.ledger, kept.users,
    .closing ⟨rfl, rfl, closed, rfl, rfl, place⟩,
    ⟨kept.counts.active, kept.counts.connects, kept.counts.shutdowns⟩⟩, .of_closed rfl⟩

/-- The record does not tell of the error that all queued writes are given. -/
theorem flush_ledger (kept : stream.Kept) :
    Ledger (stream.streamFlushWriteQueue UV_ECANCELED).requests [] stream.calls stream.trace := by
  refine kept.ledger.move ?_ ?_
  · simp [requests, streamFlushWriteQueue, UvWrite.left, Function.comp_def]
  · rintro other ⟨⟩

/-- They are still requests of the program. -/
theorem flush_users (kept : stream.Kept) :
    ∀ req ∈ (stream.streamFlushWriteQueue UV_ECANCELED).requests, req.cb = .user := by
  intro req member
  rw [requests, streamFlushWriteQueue, List.append_nil, List.mem_append] at member
  rcases member with answered | cancelled
  · exact kept.users req (List.mem_append_left _ answered)
  · obtain ⟨old, waiting, rfl⟩ := List.mem_map.mp cancelled
    exact kept.users old (List.mem_append_right _ waiting)

/-- There are as many as before. -/
theorem flush_length : (stream.streamFlushWriteQueue UV_ECANCELED).requests.length =
    stream.requests.length := by
  rw [requests, requests, streamFlushWriteQueue, List.append_nil, List.length_append,
    List.length_append, List.length_map]

/-- All queued writes are cancelled, before libuv goes on elsewhere. -/
theorem Kept.cancel (kept : stream.Kept) (stays : stream.Opened ∨ stream.Closing)
    {place : StreamPlace} (outside : place.destroying = false) :
    ((stream.streamFlushWriteQueue UV_ECANCELED).setPlace place).Kept := by
  have alive : stream.place.destroying = false := by
    rcases stays with opened | closing
    · exact opened.place
    · exact closing.place
  refine ⟨(kept.books.flush (by decide)).same rfl rfl rfl le_rfl, flush_ledger kept,
    flush_users kept, ?_, kept.counts.elsewhere alive outside rfl rfl rfl rfl flush_length⟩
  rcases stays with opened | closing
  · exact .opened ⟨opened.fd, opened.alive, opened.closed, outside, opened.shutting, opened.shut⟩
  · exact .closing ⟨closing.fd, closing.closing, closing.closed, closing.pollout, closing.fed,
      outside⟩

/-- In `uv__stream_destroy` they are cancelled, too. -/
theorem Kept.destroy (kept : stream.Kept) (destroyed : next.Closed)
    (size : next.writeQueueSize = stream.writeQueueSize)
    (queue : next.writeQueue = [])
    (completed : next.writeCompletedQueue =
      (stream.streamFlushWriteQueue UV_ECANCELED).writeCompletedQueue)
    (calls : next.calls = stream.calls) (trace : next.trace = stream.trace)
    (connecting : next.connecting = stream.connecting) (ending : next.ending = stream.ending)
    (active : next.activeReqs = stream.activeReqs) : next.Kept := by
  have requests : next.requests = (stream.streamFlushWriteQueue UV_ECANCELED).requests := by
    rw [UvStream.requests, UvStream.requests, queue, completed]
    rfl
  refine ⟨(kept.books.flush (by decide)).same size queue completed calls.ge, ?_, ?_,
    .closed destroyed, ?_⟩
  · rw [requests, queue, calls, trace]
    exact flush_ledger kept
  · rw [requests]
    exact flush_users kept
  · refine kept.counts.recorded (trace.trans (List.append_nil _).symm) ?_ rfl connecting rfl ending
      ?_ rfl rfl
    · rw [requests]
      exact flush_length
    · rw [active]

/-- The loop comes to a handle that is being closed. A connection that is being made, all
writes that are left and a shutdown that was asked for are answered before the close
callback is made. -/
theorem finishClose_kept (kept : stream.Kept) (place : stream.place = .outside)
    (closing : stream.closing = true) (notClosed : stream.closed = false) :
    ∃ next, stream.finishClose = .ok next ∧ next.Kept ∧ (stream.Served → next.Served) := by
  have stays : stream.Closing := by
    cases kept.life with
    | unopened unopened => exact absurd (unopened.alive.symm.trans closing) Bool.false_ne_true
    | opened opened => exact absurd (opened.alive.symm.trans closing) Bool.false_ne_true
    | closing closing => exact closing
    | closed closed => exact absurd (notClosed.symm.trans closed.closed) Bool.false_ne_true
  have elsewhere : stream.place ≠ .destroyShutdownCb := by simp [place]
  rw [finishClose, if_neg (by simp [closing, notClosed, stays.pollout])]
  dsimp only
  by_cases connectReq : stream.connectReq = true
  · -- The callback of the connection comes first.
    have connecting : stream.connecting = 1 := (connecting_eq stays.place).trans (if_pos connectReq)
    have registered : stream.activeReqs ≠ 0 := by
      rw [kept.counts.active, connecting]
      omega
    rw [if_pos connectReq, reqUnregister, if_neg (by exact registered), ok_bind]
    refine ⟨_, rfl, ⟨kept.books.same rfl rfl rfl le_rfl, kept.ledger.quiet trivial, kept.users,
      .closed ⟨stays.fd, closing, rfl, stays.pollout, stays.fed, .connect rfl connectReq⟩, ?_⟩,
      fun _ => .of_closed stays.fd⟩
    refine kept.counts.recorded rfl rfl connecting (if_neg fun both => both.2 rfl) rfl
      (ending_stays elsewhere (by simp [setPlace]) rfl) ?_ rfl rfl
    change stream.activeReqs - 1 + 1 + stream.ending = stream.activeReqs + 0 + stream.ending
    omega
  · have idle : stream.connectReq = false := by simpa using connectReq
    rw [if_neg connectReq]
    have entered : (UvStream.setPlace (UvStream.streamFlushWriteQueue
        { stream with closed := true } UV_ECANCELED) .destroyWriteCb).Kept :=
      kept.destroy ⟨stays.fd, closing, rfl, stays.pollout, stays.fed, .write rfl idle rfl⟩ rfl rfl
        rfl rfl rfl ((connecting_none (by exact idle)).trans (connecting_none idle).symm)
        (ending_stays elsewhere (by simp [setPlace]) rfl) rfl
    obtain ⟨next, ran, keptNext, served⟩ := writeCallbacks_kept entered (Or.inr (Or.inr rfl)) 0
    exact ⟨next, ran, keptNext, fun _ => served (.of_closed stays.fd)⟩

end Ending

section Loop

/-- `uv__run_pending` takes the watcher out of its queue and calls it. -/
theorem pending_kept (kept : stream.Kept) (place : stream.place = .outside)
    (fed : stream.fed = true) (proper : answers.written.Proper) :
    ∃ next, { stream with fed := false }.streamIo false true answers = .ok next ∧ next.Kept ∧
      (stream.Served → next.Served) := by
  have opened : stream.Opened := kept.life.of_fed fed
  have unfed : { stream with fed := false }.Kept :=
    ⟨kept.books.same rfl rfl rfl le_rfl, kept.ledger, kept.users, .opened ⟨opened.fd, opened.alive,
      opened.closed, opened.place, opened.shutting, opened.shut⟩,
      ⟨kept.counts.active, kept.counts.connects, kept.counts.shutdowns⟩⟩
  rw [streamIo, if_neg (by simp [opened.alive])]
  by_cases connectReq : stream.connectReq = true
  · obtain ⟨next, ran, keptNext, served⟩ :=
      streamConnect_kept unfed place opened.fd connectReq answers.soError
    rw [if_pos (by exact connectReq)]
    refine ⟨next, ran, keptNext, fun before => ?_⟩
    have facts := before.connecting opened.fd connectReq
    exact served facts.1 facts.2.1 (before.unanswered (by rw [place]; rfl) opened.fd connectReq)
  · obtain ⟨next, ran, keptNext, served⟩ := streamWrite_kept unfed opened.fd proper
    rw [if_neg (by exact connectReq), if_neg (by simp [opened.fd]), if_neg (by decide), if_pos rfl]
    exact ⟨next, ran, keptNext, fun _ => served (by simpa using connectReq)⟩

/-- `uv__io_poll` reports events of the watcher. A stream that is connecting is only asked about
its connection; another one reads first if there is something to read, and then writes. -/
theorem polled_kept (kept : stream.Kept) (place : stream.place = .outside)
    (fd : stream.fd = true) (proper : answers.written.Proper)
    (read write : Bool) :
    ∃ next, stream.streamIo read write answers = .ok next ∧ next.Kept ∧
      (stream.Served → next.Served) := by
  have opened : stream.Opened := kept.life.of_fd fd
  rw [streamIo, if_neg (by simp [opened.alive])]
  by_cases connectReq : stream.connectReq = true
  · obtain ⟨next, ran, keptNext, served⟩ :=
      streamConnect_kept kept place fd connectReq answers.soError
    rw [if_pos connectReq]
    refine ⟨next, ran, keptNext, fun before => ?_⟩
    have facts := before.connecting fd connectReq
    exact served facts.1 facts.2.1 (before.unanswered (by rw [place]; rfl) fd connectReq)
  · have idle : stream.connectReq = false := by simpa using connectReq
    rw [if_neg connectReq, if_neg (by simp [fd])]
    cases read with
    | true =>
      refine ⟨_, rfl, kept.setPlace (Or.inl opened) rfl, fun served => ?_⟩
      obtain ⟨queued, completed, shutting⟩ := served.outside place fd
      exact ⟨fun _ asked => absurd asked connectReq, fun _ some => (queued some).imp_right Or.inl,
        fun _ some => Or.inl (completed some), fun _ asked => (shutting asked).imp_right Or.inl⟩
    | false =>
      cases write with
      | true =>
        obtain ⟨next, ran, keptNext, served⟩ := streamWrite_kept kept fd proper
        exact ⟨next, ran, keptNext, fun _ => served idle⟩
      | false => exact ⟨stream, rfl, kept, id⟩

end Loop

section Resume

/-- Behind a read callback libuv goes on to write, or is done. The callback may have closed the
stream, which is asked for its descriptor again. -/
theorem resumeRead_kept (kept : stream.Kept) {write : Bool} (place : stream.place = .readCb write)
    (proper : answers.written.Proper) :
    ∃ next, stream.resume answers = .ok next ∧ next.Kept ∧ (stream.Served → next.Served) := by
  have stays := kept.life.of_calling (by simp [place]) (by rw [place]; rfl)
  have idle (served : stream.Served) (fd : stream.fd = true) : stream.connectReq ≠ true := by
    intro connectReq
    have writing := (served.connecting fd connectReq).2.2.1
    rw [place] at writing
    cases writing
  rw [resume, place]
  dsimp only
  by_cases ready : stream.fd = true ∧ write = true
  · obtain ⟨next, ran, keptNext, served⟩ := streamWrite_kept kept ready.1 proper
    rw [if_pos ready]
    exact ⟨next, ran, keptNext, fun before => served (by simpa using idle before ready.1)⟩
  · rw [if_neg ready]
    refine ⟨_, rfl, kept.setPlace stays rfl, fun served => ⟨fun fd connectReq => ?_,
      fun fd some => ?_, fun fd some => ?_, fun fd asked => ?_⟩⟩
    · exact absurd connectReq (idle served fd)
    · refine (served.queued fd some).imp_right fun more => Or.inl (more.resolve_right ?_)
      simp [place]
    · refine Or.inl ((served.completed fd some).resolve_right ?_)
      rw [place]
      rintro (writing | cancelling)
      · cases writing
      · cases cancelling
    · refine (served.shutting fd asked).imp_right fun more => Or.inl (more.resolve_right ?_)
      simp [place]

/-- Behind the callback of a connection that failed all writes are cancelled. Behind the
callback of one that was made the stream waits for the kernel. -/
theorem resumeConnect_kept (kept : stream.Kept) {failed : Bool}
    (place : stream.place = .connectCb failed) :
    ∃ next, stream.resume answers = .ok next ∧ next.Kept ∧ (stream.Served → next.Served) := by
  have stays := kept.life.of_calling (by simp [place]) (by rw [place]; rfl)
  have waits (served : stream.Served) (fd : stream.fd = true) (asked : stream.shutdownReq = true) :
      stream.pollout = true ∨ stream.fed = true := by
    refine (served.shutting fd asked).imp_right fun more => more.resolve_right ?_
    simp [place]
  rw [resume, place]
  dsimp only
  by_cases cancels : stream.fd = true ∧ failed = true
  · obtain ⟨next, ran, keptNext, served⟩ := writeCallbacks_kept (kept.cancel stays rfl)
      (Or.inr (Or.inl rfl)) answers.shutdown
    rw [if_pos cancels]
    refine ⟨next, ran, keptNext, fun before => served ⟨fun fd connectReq => ?_,
      fun _ some => absurd rfl some, fun _ _ => Or.inr (Or.inr rfl),
      fun fd asked => (waits before fd asked).imp_right Or.inl⟩⟩
    obtain ⟨pollout, shutdownReq, _, _⟩ := before.connecting fd connectReq
    exact ⟨pollout, shutdownReq, rfl, Or.inr rfl⟩
  · rw [if_neg cancels]
    have succeeded (fd : stream.fd = true) : failed = false := by
      by_contra failed
      exact cancels ⟨fd, by simpa using failed⟩
    refine ⟨_, rfl, kept.setPlace stays rfl, fun served => ⟨fun fd connectReq => ?_,
      fun fd some => ?_, fun fd some => ?_,
      fun fd asked => (waits served fd asked).imp_right Or.inl⟩⟩
    · obtain ⟨pollout, shutdownReq, _, _⟩ := served.connecting fd connectReq
      refine ⟨pollout, shutdownReq, rfl, Or.inl (served.unanswered ?_ fd connectReq)⟩
      rw [place]
      exact succeeded fd
    · refine (served.queued fd some).imp_right fun more => Or.inl (more.resolve_right ?_)
      rw [place, succeeded fd]
      simp
    · refine Or.inl ((served.completed fd some).resolve_right ?_)
      rw [place, succeeded fd]
      rintro (writing | cancelling)
      · cases writing
      · cases cancelling

/-- Behind the callback of a connection that is cancelled, `uv__stream_destroy` cancels the
writes. -/
theorem resumeDestroyConnect_kept (kept : stream.Kept) (place : stream.place = .destroyConnectCb) :
    ∃ next, stream.resume answers = .ok next ∧ next.Kept ∧ (stream.Served → next.Served) := by
  have closed : stream.Closed := kept.life.of_destroying (by rw [place]; rfl)
  rw [resume, place]
  have entered : (UvStream.setPlace (UvStream.streamFlushWriteQueue
      { stream with connectReq := false } UV_ECANCELED) .destroyWriteCb).Kept :=
    kept.destroy ⟨closed.fd, closed.closing, closed.closed, closed.pollout, closed.fed,
      .write rfl rfl rfl⟩ rfl rfl rfl rfl rfl
      ((connecting_none rfl).trans (if_neg fun both => both.2 place).symm)
      (ending_stays (by simp [place]) (by simp [setPlace]) rfl) rfl
  obtain ⟨next, ran, keptNext, served⟩ :=
    writeCallbacks_kept entered (Or.inr (Or.inr rfl)) answers.shutdown
  exact ⟨next, ran, keptNext, fun _ => served (.of_closed closed.fd)⟩

/-- Behind the callback of the shutdown there is nothing left to cancel. -/
theorem resumeDestroyShutdown_kept (kept : stream.Kept)
    (place : stream.place = .destroyShutdownCb) :
    ∃ next, stream.resume answers = .ok next ∧ next.Kept ∧ (stream.Served → next.Served) := by
  have closed : stream.Closed := kept.life.of_destroying (by rw [place]; rfl)
  obtain ⟨connectReq, queue, completed⟩ : stream.connectReq = false ∧ stream.writeQueue = [] ∧
      stream.writeCompletedQueue = [] := by
    cases closed.destroying with
    | connect here | write here =>
      rw [place] at here
      cases here
    | shutdown _ connectReq queue completed | done _ connectReq queue completed =>
      exact ⟨connectReq, queue, completed⟩
  rw [resume, place]
  exact destroyed_kept kept closed connectReq queue completed (if_neg fun both => both.2 place)

/-- The program returns from a callback, and libuv goes on behind it. The cases are the
places from which callbacks are made; each of them goes on with what libuv does behind that
callback. -/
theorem resume_kept (kept : stream.Kept) (inside : stream.place ≠ .outside)
    (proper : answers.written.Proper) :
    ∃ next, stream.resume answers = .ok next ∧ next.Kept ∧ (stream.Served → next.Served) := by
  have goesOn {here : StreamPlace} (place : stream.place = here)
      (reporting : here = .writeCb ∨ here = .cancelCb ∨ here = .destroyWriteCb) :
      ∃ next, stream.writeCallbacks here answers.shutdown = .ok next ∧ next.Kept ∧
        (stream.Served → next.Served) := by
    have same : stream.setPlace here = stream := place ▸ rfl
    have more := writeCallbacks_kept (same.symm ▸ kept) reporting answers.shutdown
    rwa [same] at more
  cases place : stream.place with
  | outside => exact absurd place inside
  | readCb write => exact resumeRead_kept kept place proper
  | connectCb failed => exact resumeConnect_kept kept place
  | writeCb =>
    rw [resume, place]
    exact goesOn place (Or.inl rfl)
  | cancelCb =>
    rw [resume, place]
    exact goesOn place (Or.inr (Or.inl rfl))
  | destroyConnectCb => exact resumeDestroyConnect_kept kept place
  | destroyWriteCb =>
    rw [resume, place]
    exact goesOn place (Or.inr (Or.inr rfl))
  | destroyShutdownCb => exact resumeDestroyShutdown_kept kept place

end Resume

/-- No step fails, and each keeps the books. The cases are the steps of the system, for each of
which there is a lemma above. -/
theorem act_kept (kept : stream.Kept) {action : UvStreamAction} (permits : stream.Permits action) :
    ∃ next, stream.act action = .ok next ∧ next.Kept ∧
      (stream.Served → stream.Orderly action → next.Served) := by
  cases action with
  | streamOpen =>
    obtain ⟨keptNext, served⟩ := streamOpen_kept kept permits
    exact ⟨_, rfl, keptNext, fun before _ => served before⟩
  | connect socketError connectError =>
    exact ⟨_, rfl, tcpConnect_kept kept permits socketError connectError⟩
  | write bufs transport =>
    obtain ⟨result, next, ran, keptNext, served⟩ := uvWrite_kept kept permits.1 permits.2
    exact ⟨next, by rw [act, ran]; rfl, keptNext, fun before _ => served before⟩
  | tryWrite bufs transport =>
    obtain ⟨next, ran, keptNext, served⟩ := uvTryWrite_kept kept permits.1 permits.2
    exact ⟨next, ran, keptNext, fun before _ => served before⟩
  | shutdown =>
    obtain ⟨result, next, ran, keptNext, served⟩ := uvShutdown_kept kept
    exact ⟨next, by rw [act, ran]; rfl, keptNext, served⟩
  | close =>
    obtain ⟨keptNext, served⟩ := uvClose_kept kept permits
    exact ⟨_, rfl, keptNext, fun _ _ => served⟩
  | pending answers =>
    obtain ⟨next, ran, keptNext, served⟩ := pending_kept kept permits.1 permits.2.1 permits.2.2
    exact ⟨next, ran, keptNext, fun before _ => served before⟩
  | polled read write answers =>
    obtain ⟨next, ran, keptNext, served⟩ :=
      polled_kept kept permits.1 permits.2.1 permits.2.2 read write
    exact ⟨next, ran, keptNext, fun before _ => served before⟩
  | resume answers =>
    obtain ⟨next, ran, keptNext, served⟩ := resume_kept kept permits.1 permits.2
    exact ⟨next, ran, keptNext, fun before _ => served before⟩
  | finishClose =>
    obtain ⟨next, ran, keptNext, served⟩ := finishClose_kept kept permits.1 permits.2.1 permits.2.2
    exact ⟨next, ran, keptNext, fun before _ => served before⟩

/-- Nothing was asked of a stream behind `uv__stream_init`. -/
theorem streamInit_kept : streamInit.Kept := by
  refine ⟨?_, ?_, ?_, .unopened ⟨rfl, rfl, rfl, rfl, rfl, rfl, rfl, rfl, rfl, rfl, rfl, rfl⟩,
    ⟨rfl, rfl, rfl⟩⟩
  · constructor <;> simp [streamInit, requests]
  · constructor <;> simp [streamInit, requests, queuedOf, writtenOf, sentOf]
  · simp [streamInit, requests]

/-- So does every run. -/
theorem throughout_kept {actions : List UvStreamAction}
    (legal : uvStreamSystem.Legal streamInit actions) :
    uvStreamSystem.Throughout Kept streamInit actions := by
  refine uvStreamSystem.throughout_of_safe _ ?_ streamInit_kept legal
  intro stream action kept permits
  obtain ⟨next, ran, keptNext, _⟩ := act_kept kept permits
  exact ⟨next, ran, keptNext⟩

/-- What the kernel gets is the requests in the order of the calls, each as far as it was
sent: the whole request if it is answered with success, and as many bytes as
`uv_try_write` returns, which are never more than it was given, and none if it fails.
The rest of the requests that are not answered is what `write_queue_size` counts. -/
structure BytesInOrder (stream : UvStream) : Prop where
  sent : all (sentOf stream.trace) = (List.range stream.calls).flatMap fun serial =>
    ofMessage serial (sentOf stream.trace)
  written : ∀ serial content status, .written serial content status ∈ stream.trace →
    ofMessage serial (sentOf stream.trace) <+: content ∧
      (status = 0 → ofMessage serial (sentOf stream.trace) = content)
  tried : ∀ serial content result, .tried serial content result ∈ stream.trace →
    ofMessage serial (sentOf stream.trace) = content.take result.toNat ∧
      result ≤ content.length
  size : stream.writeQueueSize = (stream.requests.map fun req =>
    req.content.length - (ofMessage req.serial (sentOf stream.trace)).length).sum

/-- Callbacks come in the order of the calls, one for each request, and when the handle has
been closed there is no request without. The same holds of `uv_tcp_connect` and of
`uv_shutdown`, of which there is one request at a time. -/
structure Answered (stream : UvStream) : Prop where
  ordered : ((queuedOf stream.trace).map Prod.fst).Pairwise (· < ·)
  writes : queuedOf stream.trace =
    writtenOf stream.trace ++ stream.requests.map fun req => (req.serial, req.content)
  connects : stream.trace.countP StreamEvent.isConnecting =
    stream.trace.countP StreamEvent.isConnected + stream.connecting
  shutdowns : stream.trace.countP StreamEvent.isShutting =
    stream.trace.countP StreamEvent.isShutdown + stream.ending
  closed : stream.closed = true → stream.place = .outside →
    stream.requests = [] ∧ stream.connecting = 0 ∧ stream.ending = 0 ∧ stream.activeReqs = 0

section Sample

instance (stream : UvStream) : (action : UvStreamAction) → Decidable (stream.Orderly action)
  | .connect _ _ => inferInstanceAs (Decidable (stream.connectReq = true ∨
      stream.shutdownReq = false ∧ stream.place.writing = false ∧
        (stream.writeCompletedQueue = [] ∨ stream.place.cancelling = true)))
  | .shutdown => inferInstanceAs (Decidable (stream.connectReq = false))
  | .streamOpen | .write _ _ | .tryWrite _ _ | .close | .pending _ | .polled _ _ _ | .resume _
  | .finishClose => inferInstanceAs (Decidable True)

/-- The kernel takes two bytes when it is asked. -/
def twoBytes : KernelAnswers := ⟨.accepts 2, 0, 0⟩

/-- A connection is made, three bytes are written in two parts while an attempt is refused,
one more byte is refused by the kernel, and the stream is shut down and closed. -/
def sampleRun : List UvStreamAction :=
  [.connect 0 UV_EINPROGRESS, .write [[1, 2], [3]] (.accepts 9), .polled false true twoBytes,
    .resume twoBytes, .polled false true twoBytes, .tryWrite [[4]] (.accepts 1),
    .polled false true twoBytes, .resume twoBytes, .write [[5]] (.fails UV_EPIPE), .shutdown,
    .pending twoBytes, .resume twoBytes, .close, .finishClose]

/-- The kernel and the program may do this. -/
theorem sampleRun_legal : uvStreamSystem.Legal streamInit sampleRun :=
  uvStreamSystem.legal_of_check (by decide)

end Sample

/-- The bytes of the requests get to the kernel in the order of the calls, and no assertion
fails. -/
theorem bytes_in_order (actions : List UvStreamAction)
    (legal : uvStreamSystem.Legal streamInit actions) :
    uvStreamSystem.Throughout BytesInOrder streamInit actions := by
  refine System.Throughout.mono _ ?_ (throughout_kept legal)
  intro stream kept
  have ledger := kept.ledger
  refine ⟨all_eq_flatMap ledger.sorted ledger.sent, ?_, ?_, ?_⟩
  · exact fun serial content status member => (ledger.written serial content status member).2
  · exact fun serial content result member => (ledger.tried serial content result member).2.2
  · rw [kept.books.size, owed]
    congr 1
    refine List.map_congr_left ?_
    intro req member
    have progress := congrArg List.length (ledger.progress req member)
    rw [List.length_append] at progress
    rw [kept.books.owed_eq member]
    omega

/-- The kernel gets three bytes of the run, in two parts. -/
theorem bytes_in_order_five : uvStreamSystem.Throughout BytesInOrder streamInit sampleRun :=
  bytes_in_order sampleRun sampleRun_legal

/-- When `shutdown` is called, every write that was asked for has been answered. -/
theorem shutdown_last (actions : List UvStreamAction)
    (legal : uvStreamSystem.Legal streamInit actions) :
    uvStreamSystem.Throughout (fun stream => ∀ before status,
      before ++ [.shut status] <+: stream.trace → queuedOf before = writtenOf before)
      streamInit actions := by
  refine System.Throughout.mono _ ?_ (throughout_kept legal)
  exact fun stream kept => kept.ledger.shut

/-- The stream is shut down behind its second write. -/
theorem shutdown_last_five : uvStreamSystem.Throughout (fun stream => ∀ before status,
    before ++ [.shut status] <+: stream.trace → queuedOf before = writtenOf before)
    streamInit sampleRun :=
  shutdown_last sampleRun sampleRun_legal

end UvStream

/-- The program uses the stream as `Orderly` says. -/
def orderlyStreamSystem : System UvStream UvStreamAction StreamFault where
  enabled stream action := stream.Permits action ∧ stream.Orderly action
  step := UvStream.act

namespace UvStream

instance (stream : UvStream) (action : UvStreamAction) :
    Decidable (orderlyStreamSystem.enabled stream action) :=
  inferInstanceAs (Decidable (stream.Permits action ∧ stream.Orderly action))

end UvStream

end MoeUV
