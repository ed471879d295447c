import MoeUV.Stream.RequestBook

/-!
# The steps of a stream

What libuv does from one callback to the next, and what the calls `uv_write` and
`uv_try_write` do, keeps the books in order, fails no assertion, and leaves nothing behind
that the loop does not look at again.
-/

namespace MoeUV

open Foundation.Execution Foundation.Chunks

def StreamEvent.isConnecting : StreamEvent → Bool
  | .connecting => true
  | _ => false

def StreamEvent.isConnected : StreamEvent → Bool
  | .connected _ => true
  | _ => false

def StreamEvent.isShutting : StreamEvent → Bool
  | .shutting => true
  | _ => false

def StreamEvent.isShutdown : StreamEvent → Bool
  | .shutdown _ => true
  | _ => false

/-- The place is in `uv__stream_destroy`. -/
def StreamPlace.destroying : StreamPlace → Bool
  | .destroyConnectCb | .destroyWriteCb | .destroyShutdownCb => true
  | _ => false

/-- `uv__stream_io` is going on to write. -/
def StreamPlace.writing : StreamPlace → Bool
  | .readCb _ | .writeCb => true
  | _ => false

/-- `uv__stream_connect` is going to cancel all writes, or does. -/
def StreamPlace.cancelling : StreamPlace → Bool
  | .connectCb failed => failed
  | .cancelCb => true
  | _ => false

namespace UvStream

variable {stream next : UvStream} {req : UvWrite} {rest : List UvWrite} {answers : KernelAnswers}

/-- A connection is being made, and its callback has not been called. -/
def connecting (stream : UvStream) : Nat :=
  if stream.connectReq = true ∧ stream.place ≠ .destroyConnectCb then 1 else 0

/-- There is a request of `uv_shutdown` whose callback has not been called. -/
def ending (stream : UvStream) : Nat :=
  if stream.shutdownReq = true ∧ stream.place ≠ .destroyShutdownCb then 1 else 0

/-- The stream has no descriptor yet, and nothing was asked of it. -/
structure Unopened (stream : UvStream) : Prop where
  fd : stream.fd = false
  alive : stream.closing = false
  closed : stream.closed = false
  place : stream.place = .outside
  writable : stream.writable = false
  connectReq : stream.connectReq = false
  shutting : stream.shutting = false
  shutdownReq : stream.shutdownReq = false
  pollout : stream.pollout = false
  fed : stream.fed = false
  writeQueue : stream.writeQueue = []
  completed : stream.writeCompletedQueue = []

/-- The stream has a descriptor. -/
structure Opened (stream : UvStream) : Prop where
  fd : stream.fd = true
  alive : stream.closing = false
  closed : stream.closed = false
  place : stream.place.destroying = false
  shutting : stream.shutting = true ↔ stream.shutdownReq = true
  shut : stream.shut = true → stream.shutting = false

/-- `uv_close` was called, and the loop has not come to the handle yet. -/
structure Closing (stream : UvStream) : Prop where
  fd : stream.fd = false
  closing : stream.closing = true
  closed : stream.closed = false
  pollout : stream.pollout = false
  fed : stream.fed = false
  place : stream.place.destroying = false

/-- Where `uv__stream_destroy` is, and what it has left to do. -/
inductive Destroying (stream : UvStream) : Prop where
  | connect (place : stream.place = .destroyConnectCb) (connectReq : stream.connectReq = true)
  | write (place : stream.place = .destroyWriteCb) (connectReq : stream.connectReq = false)
    (writeQueue : stream.writeQueue = [])
  | shutdown (place : stream.place = .destroyShutdownCb) (connectReq : stream.connectReq = false)
    (writeQueue : stream.writeQueue = []) (completed : stream.writeCompletedQueue = [])
    (shutdownReq : stream.shutdownReq = true)
  | done (place : stream.place = .outside) (connectReq : stream.connectReq = false)
    (writeQueue : stream.writeQueue = []) (completed : stream.writeCompletedQueue = [])
    (shutdownReq : stream.shutdownReq = false)

/-- `uv__finish_close` was called. -/
structure Closed (stream : UvStream) : Prop where
  fd : stream.fd = false
  closing : stream.closing = true
  closed : stream.closed = true
  pollout : stream.pollout = false
  fed : stream.fed = false
  destroying : stream.Destroying

/-- How far a stream is in its life. -/
inductive Life (stream : UvStream) : Prop where
  | unopened (unopened : stream.Unopened)
  | opened (opened : stream.Opened)
  | closing (closing : stream.Closing)
  | closed (closed : stream.Closed)

/-- Each request of `uv_write`, of `uv_tcp_connect` and of `uv_shutdown` is counted, until it has
its callback. -/
structure Counts (stream : UvStream) : Prop where
  active : stream.activeReqs = stream.requests.length + stream.connecting + stream.ending
  connects : stream.trace.countP StreamEvent.isConnecting =
    stream.trace.countP StreamEvent.isConnected + stream.connecting
  shutdowns : stream.trace.countP StreamEvent.isShutting =
    stream.trace.countP StreamEvent.isShutdown + stream.ending

/-- What holds between any two steps. -/
structure Kept (stream : UvStream) : Prop where
  books : stream.Books
  ledger : Ledger stream.requests stream.writeQueue stream.calls stream.trace
  users : ∀ req ∈ stream.requests, req.cb = .user
  life : stream.Life
  counts : stream.Counts

/-- Whatever is queued will be looked at again: the loop polls for it, has the watcher in
its queue, or is on its way to it. -/
structure Served (stream : UvStream) : Prop where
  connecting : stream.fd = true → stream.connectReq = true →
    stream.pollout = true ∧ stream.shutdownReq = false ∧ stream.place.writing = false ∧
      (stream.writeCompletedQueue = [] ∨ stream.place.cancelling = true)
  queued : stream.fd = true → stream.writeQueue ≠ [] →
    stream.pollout = true ∨ stream.fed = true ∨ stream.place = .connectCb true
  completed : stream.fd = true → stream.writeCompletedQueue ≠ [] →
    stream.fed = true ∨ stream.place = .writeCb ∨ stream.place.cancelling = true
  shutting : stream.fd = true → stream.shutdownReq = true →
    stream.pollout = true ∨ stream.fed = true ∨ stream.place = .writeCb

section Facts

/-- Outside of `uv__stream_destroy` a connection is being made as long as there is a request. -/
theorem connecting_eq (place : stream.place.destroying = false) :
    stream.connecting = if stream.connectReq = true then 1 else 0 := by
  have elsewhere : stream.place ≠ .destroyConnectCb := by
    intro here
    rw [here] at place
    cases place
  exact if_congr (and_iff_left elsewhere) rfl rfl

/-- So it is for `uv_shutdown`. -/
theorem ending_eq (place : stream.place.destroying = false) :
    stream.ending = if stream.shutdownReq = true then 1 else 0 := by
  have elsewhere : stream.place ≠ .destroyShutdownCb := by
    intro here
    rw [here] at place
    cases place
  exact if_congr (and_iff_left elsewhere) rfl rfl

/-- Where a stream is, outside of `uv__stream_destroy`, makes no difference for that. -/
theorem connecting_congr (place : stream.place.destroying = false)
    (placeNext : next.place.destroying = false)
    (connectReq : next.connectReq = stream.connectReq) : next.connecting = stream.connecting := by
  rw [connecting_eq place, connecting_eq placeNext, connectReq]

/-- Nor does it for `uv_shutdown`. -/
theorem ending_congr (place : stream.place.destroying = false)
    (placeNext : next.place.destroying = false)
    (shutdownReq : next.shutdownReq = stream.shutdownReq) : next.ending = stream.ending := by
  rw [ending_eq place, ending_eq placeNext, shutdownReq]

/-- No connection is being made without a request. -/
theorem connecting_none (connectReq : stream.connectReq = false) : stream.connecting = 0 :=
  if_neg fun both => Bool.false_ne_true (connectReq.symm.trans both.1)

/-- No callback of `uv_shutdown` is to come without a request. -/
theorem ending_none (shutdownReq : stream.shutdownReq = false) : stream.ending = 0 :=
  if_neg fun both => Bool.false_ne_true (shutdownReq.symm.trans both.1)

/-- An event that is not counted. -/
theorem countP_concat {counted : StreamEvent → Bool} (trace : List StreamEvent)
    {event : StreamEvent} (other : counted event = false) :
    (trace ++ [event]).countP counted = trace.countP counted := by
  rw [List.countP_append, List.countP_cons_of_neg (by simp [other])]
  rfl

/-- The counts are right behind a step that counts what it records. -/
theorem Counts.recorded (counts : stream.Counts) {events : List StreamEvent} {c c' e e' : Nat}
    (trace : next.trace = stream.trace ++ events)
    (length : next.requests.length = stream.requests.length)
    (connecting : stream.connecting = c) (connectingNext : next.connecting = c')
    (ending : stream.ending = e) (endingNext : next.ending = e')
    (active : next.activeReqs + c + e = stream.activeReqs + c' + e')
    (connects : events.countP StreamEvent.isConnecting + c =
      events.countP StreamEvent.isConnected + c')
    (shutdowns : events.countP StreamEvent.isShutting + e =
      events.countP StreamEvent.isShutdown + e') : next.Counts := by
  have activeBefore := counts.active
  have connectsBefore := counts.connects
  have shutdownsBefore := counts.shutdowns
  constructor
  · omega
  · rw [trace, List.countP_append, List.countP_append]
    omega
  · rw [trace, List.countP_append, List.countP_append]
    omega

/-- The books do not mention the watcher, the connection, the shutdown and the place. -/
theorem Books.same (books : stream.Books) (size : next.writeQueueSize = stream.writeQueueSize)
    (queue : next.writeQueue = stream.writeQueue)
    (completed : next.writeCompletedQueue = stream.writeCompletedQueue)
    (calls : stream.calls ≤ next.calls) : next.Books := by
  have requests : next.requests = stream.requests := by
    rw [UvStream.requests, UvStream.requests, queue, completed]
  constructor
  · rw [size, requests]
    exact books.size
  · rw [queue]
    exact books.queued
  · rw [completed]
    exact books.completed
  · rw [requests]
    exact books.ordered
  · rw [requests]
    exact fun req member => Nat.lt_of_lt_of_le (books.numbered req member) calls

/-- A stream without a descriptor waits for nothing. -/
theorem Served.of_closed (fd : stream.fd = false) : stream.Served := by
  constructor
  all_goals exact fun opened => absurd (fd.symm.trans opened) Bool.false_ne_true

/-- A stream with a descriptor is open. -/
theorem Life.of_fd (life : stream.Life) (fd : stream.fd = true) : stream.Opened := by
  cases life with
  | unopened unopened => exact absurd (unopened.fd.symm.trans fd) Bool.false_ne_true
  | opened opened => exact opened
  | closing closing => exact absurd (closing.fd.symm.trans fd) Bool.false_ne_true
  | closed closed => exact absurd (closed.fd.symm.trans fd) Bool.false_ne_true

/-- So is one whose watcher is in the queue of the loop. -/
theorem Life.of_fed (life : stream.Life) (fed : stream.fed = true) : stream.Opened := by
  cases life with
  | unopened unopened => exact absurd (unopened.fed.symm.trans fed) Bool.false_ne_true
  | opened opened => exact opened
  | closing closing => exact absurd (closing.fed.symm.trans fed) Bool.false_ne_true
  | closed closed => exact absurd (closed.fed.symm.trans fed) Bool.false_ne_true

/-- A stream that is closed is at a certain place of `uv__stream_destroy`. -/
theorem Life.of_closed (life : stream.Life) (closed : stream.closed = true) : stream.Closed := by
  cases life with
  | unopened unopened => exact absurd (unopened.closed.symm.trans closed) Bool.false_ne_true
  | opened opened => exact absurd (opened.closed.symm.trans closed) Bool.false_ne_true
  | closing closing => exact absurd (closing.closed.symm.trans closed) Bool.false_ne_true
  | closed closed => exact closed

/-- A stream in one of the callbacks of `uv__stream_destroy` is closed. -/
theorem Life.of_destroying (life : stream.Life) (place : stream.place.destroying = true) :
    stream.Closed := by
  cases life with
  | unopened unopened =>
    rw [unopened.place] at place
    cases place
  | opened opened => exact absurd (opened.place.symm.trans place) Bool.false_ne_true
  | closing closing => exact absurd (closing.place.symm.trans place) Bool.false_ne_true
  | closed closed => exact closed

/-- In any other callback it is not closed: it has its descriptor, or `uv_close` was called. -/
theorem Life.of_calling (life : stream.Life) (inside : stream.place ≠ .outside)
    (place : stream.place.destroying = false) : stream.Opened ∨ stream.Closing := by
  cases life with
  | unopened unopened => exact absurd unopened.place inside
  | opened opened => exact Or.inl opened
  | closing closing => exact Or.inr closing
  | closed closed =>
    cases closed.destroying with
    | connect here | write here | shutdown here =>
      rw [here] at place
      cases place
    | done here => exact absurd here inside

/-- A watcher without a descriptor does not poll. -/
theorem Life.ioStop (life : stream.Life) : stream.ioStop = { stream with pollout := false } := by
  rw [UvStream.ioStop]
  split
  case isTrue => rfl
  case isFalse missing =>
    have stopped : stream.pollout = false := by
      cases life with
      | unopened unopened => exact unopened.pollout
      | opened opened => exact absurd opened.fd missing
      | closing closing => exact closing.pollout
      | closed closed => exact closed.pollout
    rw [← stopped]

/-- Outside of `uv__stream_destroy` it makes no difference for the counts where a stream is, and
what the loop polls for. -/
theorem Counts.elsewhere (counts : stream.Counts) (place : stream.place.destroying = false)
    (placeNext : next.place.destroying = false) (connectReq : next.connectReq = stream.connectReq)
    (shutdownReq : next.shutdownReq = stream.shutdownReq) (trace : next.trace = stream.trace)
    (active : next.activeReqs = stream.activeReqs)
    (length : next.requests.length = stream.requests.length) : next.Counts := by
  refine counts.recorded (trace.trans (List.append_nil _).symm) length rfl
    (connecting_congr place placeNext connectReq) rfl (ending_congr place placeNext shutdownReq) ?_
    rfl rfl
  rw [active]

end Facts

section Callbacks

/-- The last request was answered, and the shutdown that waited for it is carried out. The
request is unregistered, and the stream is shut if the kernel agrees, before the callback is
made. -/
theorem drainShutdown_kept (kept : stream.Kept) (place : stream.place = .writeCb)
    (queue : stream.writeQueue = []) (completed : stream.writeCompletedQueue = [])
    (last : stream.shutting = true ∧ stream.closing = false ∧ stream.shut = false)
    (shutdown : Int) :
    ∃ next, stream.drain shutdown = .ok next ∧ (next.setPlace .outside).Kept ∧
      (stream.Served → (next.setPlace .outside).Served) := by
  have alive : stream.place.destroying = false := by rw [place]; rfl
  have opened : stream.Opened := by
    rcases kept.life.of_calling (by simp [place]) alive with opened | closing
    · exact opened
    · exact absurd (last.2.1.symm.trans closing.closing) Bool.false_ne_true
  have asked : stream.shutdownReq = true := opened.shutting.mp last.1
  have ending : stream.ending = 1 := (ending_eq alive).trans (if_pos asked)
  have registered : stream.activeReqs ≠ 0 := by
    rw [kept.counts.active, ending]
    exact Nat.succ_ne_zero _
  have none : stream.requests = [] := by
    rw [requests, completed, queue]
    rfl
  rw [drain, if_neg (by simp [queue]), kept.life.ioStop]
  dsimp only
  rw [if_pos last, if_neg (by simp [asked]), reqUnregister, if_neg registered, ok_bind]
  refine ⟨_, rfl, ⟨kept.books.same rfl rfl rfl le_rfl, ?ledger, kept.users, .opened ?opened,
    ?counts⟩, fun served => ?served⟩
  case ledger =>
    have ledger := kept.ledger
    rw [none] at ledger
    have quiet : Ledger.Quiet (.shutdown shutdown) := trivial
    have recorded := (ledger.shutdown shutdown).quiet quiet
    rw [← none] at recorded
    exact recorded
  case opened =>
    exact ⟨opened.fd, opened.alive, opened.closed, rfl,
      iff_of_false Bool.false_ne_true Bool.false_ne_true, fun _ => rfl⟩
  case counts =>
    refine kept.counts.recorded (List.append_assoc _ _ _) rfl rfl (connecting_congr alive rfl rfl)
      ending (ending_none rfl) ?_ rfl rfl
    change stream.activeReqs - 1 + stream.connecting + 1 =
      stream.activeReqs + stream.connecting + 0
    omega
  case served =>
    refine ⟨fun _ connectReq => ?_, fun _ some => absurd queue some,
      fun _ some => absurd completed some, fun _ still => absurd still Bool.false_ne_true⟩
    have writing := (served.connecting opened.fd connectReq).2.2.1
    rw [place] at writing
    cases writing

/-- `uv__stream_io` is at its end, and the stream waits for the kernel. -/
theorem Life.leave (life : stream.Life) (inside : stream.place ≠ .outside)
    (place : stream.place.destroying = false) : (stream.setPlace .outside).Life := by
  rcases life.of_calling inside place with opened | closing
  · exact .opened ⟨opened.fd, opened.alive, opened.closed, rfl, opened.shutting, opened.shut⟩
  · exact .closing ⟨closing.fd, closing.closing, closing.closed, closing.pollout, closing.fed, rfl⟩

/-- The behaviour of `uv__drain` once every request has been answered. Without a shutdown that
waits the watcher is stopped and the stream is left alone. -/
theorem drain_kept (kept : stream.Kept) (place : stream.place = .writeCb)
    (queue : stream.writeQueue = []) (completed : stream.writeCompletedQueue = [])
    (shutdown : Int) :
    ∃ next, stream.drain shutdown = .ok next ∧ (next.setPlace .outside).Kept ∧
      (stream.Served → (next.setPlace .outside).Served) := by
  by_cases last : stream.shutting = true ∧ stream.closing = false ∧ stream.shut = false
  · exact drainShutdown_kept kept place queue completed last shutdown
  · have alive : stream.place.destroying = false := by rw [place]; rfl
    have stays := kept.life.of_calling (by simp [place]) alive
    rw [drain, if_neg (by simp [queue]), kept.life.ioStop]
    dsimp only
    rw [if_neg last]
    refine ⟨_, rfl, ⟨kept.books.same rfl rfl rfl le_rfl, kept.ledger, kept.users, ?life,
      kept.counts.elsewhere alive rfl rfl rfl rfl rfl rfl⟩, fun served => ?served⟩
    case life =>
      rcases stays with opened | closing
      · exact .opened ⟨opened.fd, opened.alive, opened.closed, rfl, opened.shutting, opened.shut⟩
      · exact .closing ⟨closing.fd, closing.closing, closing.closed, rfl, closing.fed, rfl⟩
    case served =>
      rcases stays with opened | closing
      · refine ⟨fun _ connectReq => ?_, fun _ some => absurd queue some,
          fun _ some => absurd completed some, fun _ asked => ?_⟩
        · have writing := (served.connecting opened.fd connectReq).2.2.1
          rw [place] at writing
          cases writing
        · -- A shutdown that is still to be carried out would have been.
          have shutting : stream.shutting = true := opened.shutting.mpr asked
          refine absurd ⟨shutting, opened.alive, ?_⟩ last
          by_contra shut
          have done := opened.shut (Bool.not_eq_false _ ▸ shut)
          exact absurd (done.symm.trans shutting) Bool.false_ne_true
      · exact .of_closed closing.fd

/-- A write request is answered. It is the first one in the completed queue. What it still owed
is no longer counted in the size of the queue. -/
theorem writeCallback_kept (kept : stream.Kept)
    (reporting : stream.place = .writeCb ∨ stream.place = .cancelCb ∨
      stream.place = .destroyWriteCb)
    (completed : stream.writeCompletedQueue = req :: rest) :
    ∃ next, stream.writeCallback req = .ok next ∧ next.Kept ∧ (stream.Served → next.Served) := by
  have split : stream.requests = req :: (rest ++ stream.writeQueue) := by
    rw [requests, completed]
    rfl
  have member : req ∈ stream.requests := by
    rw [split]
    exact List.mem_cons_self
  have registered : stream.activeReqs ≠ 0 := by
    rw [kept.counts.active, split, List.length_cons]
    omega
  have paid := kept.books.answer completed (.written req.serial req.content req.error)
  have same : { stream with
      writeCompletedQueue := stream.writeCompletedQueue.tail
      activeReqs := stream.activeReqs - 1 }.reqSize req = .ok req.owed := kept.books.reqSize member
  rw [writeCallback]
  simp only [reqUnregister]
  rw [if_neg registered, ok_bind, same, ok_bind, kept.users req member]
  dsimp only
  rw [completed, List.tail_cons]
  refine ⟨_, rfl, ⟨paid, ?ledger, fun other among => kept.users other ?users, ?life, ?counts⟩,
    fun served => ?served⟩
  case ledger =>
    have facts := kept.books.completed req (by rw [completed]; exact List.mem_cons_self)
    have ordered := kept.books.ordered
    have ledger := kept.ledger
    rw [split, List.map_cons, List.pairwise_cons] at ordered
    rw [split] at ledger
    refine ledger.answer (kept.users req member) (fun other among => ?_) fun success => ?_
    · exact Nat.ne_of_lt (ordered.1 _ (List.mem_map_of_mem (List.mem_append_right _ among)))
    · rw [UvWrite.left, facts.2.2 (facts.2.1.mpr success), List.flatten_nil]
  case users =>
    rw [split]
    exact List.mem_cons_of_mem _ among
  case life =>
    cases kept.life with
    | unopened unopened =>
      rw [unopened.completed] at completed
      cases completed
    | opened opened =>
      exact .opened ⟨opened.fd, opened.alive, opened.closed, opened.place, opened.shutting,
        opened.shut⟩
    | closing closing =>
      exact .closing ⟨closing.fd, closing.closing, closing.closed, closing.pollout, closing.fed,
        closing.place⟩
    | closed closed =>
      refine .closed ⟨closed.fd, closed.closing, closed.closed, closed.pollout, closed.fed, ?_⟩
      cases closed.destroying with
      | connect here =>
        rw [here] at reporting
        simp at reporting
      | write here connectReq queue => exact .write here connectReq queue
      | shutdown _ _ _ empty | done _ _ _ empty =>
        rw [empty] at completed
        cases completed
  case counts =>
    have active := kept.counts.active
    rw [split, List.length_cons] at active
    refine ⟨?_, ?_, ?_⟩
    · change stream.activeReqs - 1 = (rest ++ stream.writeQueue).length + stream.connecting +
        stream.ending
      omega
    · exact (countP_concat _ rfl).trans (kept.counts.connects.trans
        (congrArg (· + stream.connecting) (countP_concat _ rfl).symm))
    · exact (countP_concat _ rfl).trans (kept.counts.shutdowns.trans
        (congrArg (· + stream.ending) (countP_concat _ rfl).symm))
  case served =>
    refine ⟨fun fd connectReq => ?_, served.queued, fun fd _ => ?_, served.shutting⟩
    · obtain ⟨pollout, shutdownReq, writing, answered⟩ := served.connecting fd connectReq
      refine ⟨pollout, shutdownReq, writing, Or.inr (answered.resolve_left ?_)⟩
      rw [completed]
      exact List.cons_ne_nil _ _
    · refine served.completed fd ?_
      rw [completed]
      exact List.cons_ne_nil _ _

/-- Behind its callbacks the stream waits for the kernel. All requests that were completed have
been answered, and those that are left are in the queue. -/
theorem Kept.leave (kept : stream.Kept)
    (here : stream.place = .writeCb ∧ stream.writeQueue ≠ [] ∨ stream.place = .cancelCb)
    (completed : stream.writeCompletedQueue = []) :
    (stream.setPlace .outside).Kept ∧ (stream.Served → (stream.setPlace .outside).Served) := by
  have inside : stream.place ≠ .outside := by
    rcases here with ⟨place, _⟩ | place <;> simp [place]
  have alive : stream.place.destroying = false := by
    rcases here with ⟨place, _⟩ | place <;> rw [place] <;> rfl
  have elsewhere : stream.place ≠ .connectCb true := by
    rcases here with ⟨place, _⟩ | place <;> simp [place]
  refine ⟨⟨kept.books.same rfl rfl rfl le_rfl, kept.ledger, kept.users,
    kept.life.leave inside alive, kept.counts.elsewhere alive rfl rfl rfl rfl rfl rfl⟩,
    fun served => ⟨fun fd connectReq => ?_, fun fd some => ?_,
      fun _ some => absurd completed some, fun fd asked => ?_⟩⟩
  · obtain ⟨pollout, shutdownReq, _, _⟩ := served.connecting fd connectReq
    exact ⟨pollout, shutdownReq, rfl, Or.inl completed⟩
  · rcases served.queued fd some with pollout | fed | place
    · exact Or.inl pollout
    · exact Or.inr (Or.inl fed)
    · exact absurd place elsewhere
  · rcases served.shutting fd asked with pollout | fed | place
    · exact Or.inl pollout
    · exact Or.inr (Or.inl fed)
    · -- The shutdown waits for requests that are still in the queue.
      rcases here with ⟨_, waiting⟩ | cancelling
      · rcases served.queued fd waiting with pollout | fed | place
        · exact Or.inl pollout
        · exact Or.inr (Or.inl fed)
        · exact absurd place elsewhere
      · rw [cancelling] at place
        cases place

/-- At the end of `uv__stream_destroy` there is nothing left. -/
theorem destroyed_kept (kept : stream.Kept) (closed : stream.Closed)
    (connectReq : stream.connectReq = false) (queue : stream.writeQueue = [])
    (completed : stream.writeCompletedQueue = []) (ended : stream.ending = 0) :
    ∃ next, { stream with shutdownReq := false }.destroyed = .ok next ∧ next.Kept ∧
      (stream.Served → next.Served) := by
  have nothing : stream.writeQueueSize = 0 := by
    rw [kept.books.size, requests, completed, queue]
    rfl
  rw [destroyed, if_neg (by simp [nothing])]
  refine ⟨_, rfl, ⟨kept.books.same rfl rfl rfl le_rfl, kept.ledger.quiet trivial, kept.users,
    .closed ⟨closed.fd, closed.closing, closed.closed, closed.pollout, closed.fed,
      .done rfl connectReq queue completed rfl⟩, ?_⟩, fun _ => .of_closed closed.fd⟩
  refine kept.counts.recorded rfl rfl (connecting_none connectReq) (connecting_none connectReq)
    ended (ending_none rfl) rfl rfl rfl

/-- Behind the callbacks of the write requests, `uv__stream_destroy` comes to the one of
`uv_shutdown`, if there is one. -/
theorem destroyShutdown_kept (kept : stream.Kept) (here : stream.place = .destroyWriteCb)
    (completed : stream.writeCompletedQueue = []) :
    ∃ next, stream.destroyShutdown = .ok next ∧ next.Kept ∧ (stream.Served → next.Served) := by
  have closed : stream.Closed := kept.life.of_destroying (by rw [here]; rfl)
  obtain ⟨connectReq, queue⟩ : stream.connectReq = false ∧ stream.writeQueue = [] := by
    cases closed.destroying with
    | connect place =>
      rw [here] at place
      cases place
    | write _ connectReq queue | shutdown _ connectReq queue | done _ connectReq queue =>
      exact ⟨connectReq, queue⟩
  rw [destroyShutdown]
  by_cases asked : stream.shutdownReq = true
  · have ending : stream.ending = 1 := if_pos ⟨asked, by simp [here]⟩
    have registered : stream.activeReqs ≠ 0 := by
      rw [kept.counts.active, ending]
      exact Nat.succ_ne_zero _
    rw [if_pos asked, reqUnregister, if_neg registered, ok_bind]
    refine ⟨_, rfl, ⟨kept.books.same rfl rfl rfl le_rfl, kept.ledger.quiet trivial, kept.users,
      .closed ⟨closed.fd, closed.closing, closed.closed, closed.pollout, closed.fed,
        .shutdown rfl connectReq queue completed asked⟩, ?_⟩, fun _ => .of_closed closed.fd⟩
    refine kept.counts.recorded rfl rfl (connecting_none connectReq) (connecting_none connectReq)
      ending (if_neg fun both => both.2 rfl) ?_ rfl rfl
    change stream.activeReqs - 1 + 0 + 1 = stream.activeReqs + 0 + 0
    omega
  · rw [if_neg asked]
    have none : stream.shutdownReq = false := by simpa using asked
    have last := destroyed_kept kept closed connectReq queue completed (ending_none none)
    rw [← none] at last
    exact last

/-- `uv__write_callbacks` comes to a callback of the program, or its caller to its end. The
induction that the loop of the source needs is one over steps here: each callback is a step, and
the loop goes on behind it. -/
theorem writeCallbacks_kept {place : StreamPlace} (kept : (stream.setPlace place).Kept)
    (reporting : place = .writeCb ∨ place = .cancelCb ∨ place = .destroyWriteCb)
    (shutdown : Int) :
    ∃ next, stream.writeCallbacks place shutdown = .ok next ∧ next.Kept ∧
      ((stream.setPlace place).Served → next.Served) := by
  have here : (stream.setPlace place).place = place := rfl
  change ∃ next, (stream.setPlace place).writeCallbacks place shutdown = .ok next ∧ _
  generalize stream.setPlace place = stream at *
  have same : stream.setPlace place = stream := here ▸ rfl
  cases queue : stream.writeCompletedQueue with
  | nil =>
    rcases reporting with rfl | rfl | rfl
    · simp only [writeCallbacks, same, queue]
      by_cases empty : stream.writeQueue = []
      · obtain ⟨next, drained, kept, served⟩ := drain_kept kept here empty queue shutdown
        rw [if_pos empty]
        exact ⟨_, by rw [drained]; rfl, kept, served⟩
      · rw [if_neg empty]
        exact ⟨_, rfl, kept.leave (Or.inl ⟨here, empty⟩) queue⟩
    · simp only [writeCallbacks, same, queue]
      exact ⟨_, rfl, kept.leave (Or.inr here) queue⟩
    · simp only [writeCallbacks, same, queue]
      exact destroyShutdown_kept kept here queue
  | cons req rest =>
    have entered : stream.writeCallbacks place shutdown = stream.writeCallback req := by
      simp only [writeCallbacks, same, queue]
    rw [entered]
    refine writeCallback_kept kept ?_ queue
    rw [here]
    exact reporting

end Callbacks

section Writing

/-- The record after `uv__write`. -/
theorem Wrote.ledger (wrote : stream.Wrote next) (books : stream.Books)
    (ledger : Ledger stream.requests stream.writeQueue stream.calls stream.trace) :
    Ledger next.requests next.writeQueue next.calls next.trace := by
  have serials := books.ordered
  have below := books.numbered
  cases wrote with
  | nothing queue => exact ledger
  | again req rest queue => exact ledger
  | part req rest bytes bufs queue left nonempty =>
    rw [requests, queue] at ledger serials below
    exact ledger.send serials (below req (by simp)) left
  | whole req rest queue =>
    rw [requests, queue] at ledger serials below
    have left : req.left = req.left ++ ([] : List (List Byte)).flatten := by simp
    refine (ledger.send serials (below req (by simp)) left).move ?_ ?_
    · simp [requests, UvWrite.left]
    · exact fun other member => ⟨other, List.mem_cons_of_mem _ member, rfl⟩
  | failed req rest code queue negative =>
    rw [requests, queue] at ledger
    refine ledger.move ?_ ?_
    · simp [requests, UvWrite.left]
    · exact fun other member => ⟨other, List.mem_cons_of_mem _ member, rfl⟩

/-- What `uv__write` keeps of a stream whose requests may include one of `uv_try_write`. -/
structure Open (stream : UvStream) : Prop where
  books : stream.Books
  ledger : Ledger stream.requests stream.writeQueue stream.calls stream.trace
  opened : stream.Opened
  counts : stream.Counts

/-- A stream that is open stays open. -/
theorem Wrote.opened (wrote : stream.Wrote next) (opened : stream.Opened) : next.Opened := by
  cases wrote
  all_goals
    exact ⟨opened.fd, opened.alive, opened.closed, opened.place, opened.shutting, opened.shut⟩

/-- No request is answered. -/
theorem Wrote.counts (wrote : stream.Wrote next) (counts : stream.Counts) : next.Counts := by
  have length : next.requests.length = stream.requests.length := by
    have same := congrArg List.length (wrote.requests_map UvWrite.serial (fun _ _ => rfl)
      (fun _ _ => rfl) (fun _ _ => rfl))
    rwa [List.length_map, List.length_map] at same
  cases wrote with
  | nothing | again | failed =>
    exact counts.recorded (List.append_nil _).symm length rfl rfl rfl rfl rfl rfl rfl
  | part | whole => exact counts.recorded rfl length rfl rfl rfl rfl rfl rfl rfl

/-- So `uv__write` keeps the stream. -/
theorem Open.wrote (kept : stream.Open) (wrote : stream.Wrote next) : next.Open :=
  ⟨kept.books.wrote wrote, wrote.ledger kept.books kept.ledger, wrote.opened kept.opened,
    wrote.counts kept.counts⟩

/-- What is still queued is looked at again. -/
theorem Wrote.queued (wrote : stream.Wrote next) (queue : next.writeQueue ≠ []) :
    next.pollout = true ∨ next.fed = true := by
  cases wrote with
  | nothing empty => exact absurd empty queue
  | again | part => exact Or.inl rfl
  | whole | failed => exact Or.inr rfl

/-- What is answered is looked at again. -/
theorem Wrote.completed (wrote : stream.Wrote next) :
    next.writeCompletedQueue = stream.writeCompletedQueue ∧ next.fed = stream.fed ∨
      next.fed = true := by
  cases wrote with
  | nothing | again | part => exact Or.inl ⟨rfl, rfl⟩
  | whole | failed => exact Or.inr rfl

/-- The loop polls as before, or more, or has the watcher in its queue. -/
theorem Wrote.polls (wrote : stream.Wrote next) :
    next.fed = stream.fed ∧ (next.pollout = stream.pollout ∨ next.pollout = true) ∨
      next.fed = true := by
  cases wrote with
  | nothing => exact Or.inl ⟨rfl, Or.inl rfl⟩
  | again | part => exact Or.inl ⟨rfl, Or.inr rfl⟩
  | whole | failed => exact Or.inr rfl

/-- `uv__write` does nothing else to the stream. -/
theorem Wrote.frame (wrote : stream.Wrote next) : next.place = stream.place ∧
    next.fd = stream.fd ∧ next.connectReq = stream.connectReq ∧
      next.shutdownReq = stream.shutdownReq := by
  cases wrote
  all_goals exact ⟨rfl, rfl, rfl, rfl⟩

/-- Each request keeps its callback. -/
theorem Wrote.users (wrote : stream.Wrote next) (users : ∀ req ∈ stream.requests, req.cb = .user) :
    ∀ req ∈ next.requests, req.cb = .user := by
  have same := wrote.requests_map UvWrite.cb (fun _ _ => rfl) (fun _ _ => rfl) (fun _ _ => rfl)
  intro req member
  have image : req.cb ∈ next.requests.map UvWrite.cb := List.mem_map_of_mem member
  rw [same] at image
  obtain ⟨old, among, equal⟩ := List.mem_map.mp image
  exact equal ▸ users old among

/-- Libuv comes to a place outside of `uv__stream_destroy`. -/
theorem Kept.setPlace (kept : stream.Kept) (stays : stream.Opened ∨ stream.Closing)
    {place : StreamPlace} (outside : place.destroying = false) : (stream.setPlace place).Kept := by
  have alive : stream.place.destroying = false := by
    rcases stays with opened | closing
    · exact opened.place
    · exact closing.place
  refine ⟨kept.books.same rfl rfl rfl le_rfl, kept.ledger, kept.users, ?_,
    kept.counts.elsewhere alive outside rfl rfl rfl rfl rfl⟩
  rcases stays with opened | closing
  · exact .opened ⟨opened.fd, opened.alive, opened.closed, outside, opened.shutting, opened.shut⟩
  · exact .closing ⟨closing.fd, closing.closing, closing.closed, closing.pollout, closing.fed,
      outside⟩

/-- `uv__stream_io` writes and answers what can be answered. -/
theorem streamWrite_kept (kept : stream.Kept) (fd : stream.fd = true)
    (proper : answers.written.Proper) :
    ∃ next, stream.streamWrite answers = .ok next ∧ next.Kept ∧
      (stream.connectReq = false → next.Served) := by
  obtain ⟨written, ran, wrote⟩ := write_cases kept.books fd proper
  obtain ⟨books, ledger, opened, counts⟩ :=
    Open.wrote ⟨kept.books, kept.ledger, kept.life.of_fd fd, kept.counts⟩ wrote
  have keptWritten : written.Kept :=
    ⟨books, ledger, wrote.users kept.users, .opened opened, counts⟩
  obtain ⟨next, called, keptNext, served⟩ := writeCallbacks_kept
    (keptWritten.setPlace (Or.inl opened) rfl) (Or.inl rfl) answers.shutdown
  refine ⟨next, ?_, keptNext, fun connectReq => served ⟨fun _ connecting => ?_, fun _ some => ?_,
    fun _ _ => Or.inr (Or.inl rfl), fun _ _ => Or.inr (Or.inr rfl)⟩⟩
  · rw [streamWrite, ran]
    exact called
  · have notConnecting : written.connectReq = false := wrote.frame.2.2.1.trans connectReq
    exact absurd (notConnecting.symm.trans connecting) Bool.false_ne_true
  · exact (wrote.queued some).imp_right Or.inl

/-- A request is put into the queue. It gets the next number and is counted as a request of the
loop, and its bytes are added to the size of the queue. -/
theorem Open.enqueue (kept : stream.Open) {bufs : List (List Byte)} (nonempty : bufs ≠ [])
    (cb : WriteCb) : (stream.enqueue bufs cb).Open := by
  obtain ⟨books, ledger, opened, counts⟩ := kept
  refine ⟨books.enqueue nonempty cb, ?ledger, ⟨opened.fd, opened.alive, opened.closed, opened.place,
    opened.shutting, opened.shut⟩, ?counts⟩
  case ledger =>
    have recorded := ledger.enqueue cb bufs
    rw [requests, List.append_assoc] at recorded
    exact recorded
  case counts =>
    have length : (stream.enqueue bufs cb).requests.length = stream.requests.length + 1 := by
      rw [requests, requests, UvStream.enqueue, ← List.append_assoc, List.length_append]
      rfl
    have uncounted (counted : StreamEvent → Bool)
        (other : counted (.queued stream.calls bufs.flatten) = false) :
        (stream.enqueue bufs cb).trace.countP counted = stream.trace.countP counted := by
      cases cb with
      | user => exact countP_concat _ other
      | uvTryWriteCb => exact congrArg (List.countP counted) (List.append_nil _)
    have active := counts.active
    refine ⟨?_, ?_, ?_⟩
    · rw [length]
      change stream.activeReqs + 1 = stream.requests.length + 1 + stream.connecting + stream.ending
      omega
    · rw [uncounted _ rfl, uncounted _ rfl]
      exact counts.connects
    · rw [uncounted _ rfl, uncounted _ rfl]
      exact counts.shutdowns

/-- The loop polls for the moment when the kernel takes more bytes. -/
theorem Open.ioStart (kept : stream.Open) : stream.ioStart.Open :=
  ⟨kept.books.same rfl rfl rfl le_rfl, kept.ledger, ⟨kept.opened.fd, kept.opened.alive,
    kept.opened.closed, kept.opened.place, kept.opened.shutting, kept.opened.shut⟩,
    ⟨kept.counts.active, kept.counts.connects, kept.counts.shutdowns⟩⟩

/-- All that `uv_write` does. It refuses a stream that is not writable. Otherwise the request is
queued, and written at once if no connection is being made and nothing was queued before it. -/
theorem uvWrite_cases (kept : stream.Kept) {bufs : List (List Byte)} (nonempty : bufs ≠ [])
    (cb : WriteCb) {transport : Transport} (proper : transport.Proper) :
    ∃ result next, stream.uvWrite bufs cb transport = .ok (result, next) ∧
      (result < 0 ∧ next = stream ∨
        result = 0 ∧ next.Open ∧
          (stream.connectReq = true ∧ next = stream.enqueue bufs cb ∨
            stream.connectReq = false ∧ (stream.enqueue bufs cb).Wrote next ∨
            stream.connectReq = false ∧
              next = { stream.enqueue bufs cb with pollout := true })) := by
  rw [uvWrite, if_neg nonempty]
  cases fd : stream.fd with
  | false => exact ⟨_, _, rfl, Or.inl ⟨by decide, rfl⟩⟩
  | true =>
    cases writable : stream.writable with
    | false => exact ⟨_, _, rfl, Or.inl ⟨by decide, rfl⟩⟩
    | true =>
      rw [if_neg (by decide), if_neg (by decide)]
      have queued := Open.enqueue ⟨kept.books, kept.ledger, kept.life.of_fd fd, kept.counts⟩
        nonempty cb
      dsimp only
      cases connectReq : stream.connectReq with
      | true =>
        have connecting : (stream.enqueue bufs cb).connectReq = true := connectReq
        rw [if_pos connecting]
        exact ⟨_, _, rfl, Or.inr ⟨rfl, queued, Or.inl ⟨rfl, rfl⟩⟩⟩
      | false =>
        have connected : ¬(stream.enqueue bufs cb).connectReq = true := by
          simp [UvStream.enqueue, connectReq]
        rw [if_neg connected]
        by_cases empty : stream.writeQueueSize = 0
        · obtain ⟨next, ran, wrote⟩ := write_cases queued.books queued.opened.fd proper
          rw [if_pos empty, ran, ok_bind]
          exact ⟨_, _, rfl, Or.inr ⟨rfl, queued.wrote wrote, Or.inr (Or.inl ⟨rfl, wrote⟩)⟩⟩
        · rw [if_neg empty]
          exact ⟨_, _, rfl, Or.inr ⟨rfl, queued.ioStart, Or.inr (Or.inr ⟨rfl, rfl⟩)⟩⟩

/-- A request of the program is taken, or refused. What it does to the books was shown for each
of the cases; the callbacks of all requests belong to the program, as before. -/
theorem uvWrite_kept (kept : stream.Kept) {bufs : List (List Byte)} (nonempty : bufs ≠ [])
    {transport : Transport} (proper : transport.Proper) :
    ∃ result next, stream.uvWrite bufs .user transport = .ok (result, next) ∧ next.Kept ∧
      (stream.Served → next.Served) := by
  obtain ⟨result, next, ran, outcome⟩ := uvWrite_cases kept nonempty .user proper
  refine ⟨result, next, ran, ?_⟩
  rcases outcome with ⟨_, rfl⟩ | ⟨_, ⟨books, ledger, opened, counts⟩, outcome⟩
  · exact ⟨kept, id⟩
  · have users : ∀ req ∈ (stream.enqueue bufs .user).requests, req.cb = .user := by
      intro req member
      rw [requests, UvStream.enqueue, ← List.append_assoc, List.mem_append,
        List.mem_singleton] at member
      rcases member with earlier | rfl
      · exact kept.users req earlier
      · rfl
    rcases outcome with ⟨connectReq, rfl⟩ | ⟨connectReq, wrote⟩ | ⟨connectReq, rfl⟩
    · -- The connection is still being made, and the loop polls for it.
      refine ⟨⟨books, ledger, users, .opened opened, counts⟩, fun served => ?_⟩
      exact ⟨served.connecting, fun fd _ => Or.inl (served.connecting fd connectReq).1,
        served.completed, served.shutting⟩
    · refine ⟨⟨books, ledger, wrote.users users, .opened opened, counts⟩, fun served => ?_⟩
      obtain ⟨place, fd, connectSame, shutdownSame⟩ := wrote.frame
      refine ⟨fun _ connecting => ?_, fun _ some => (wrote.queued some).imp_right Or.inl,
        fun here some => ?_, fun here asked => ?_⟩
      · exact absurd ((connectSame.trans connectReq).symm.trans connecting) Bool.false_ne_true
      · rcases wrote.completed with ⟨queueSame, fedSame⟩ | fed
        · rw [queueSame] at some
          rw [place, fedSame]
          exact served.completed (fd.symm.trans here) some
        · exact Or.inl fed
      · rcases wrote.polls with ⟨fedSame, polloutSame | polls⟩ | fed
        · rw [place, polloutSame, fedSame]
          exact served.shutting (fd.symm.trans here) (shutdownSame.symm.trans asked)
        · exact Or.inl polls
        · exact Or.inr (Or.inl fed)
    · refine ⟨⟨books, ledger, users, .opened opened, counts⟩, fun served => ?_⟩
      exact ⟨fun _ connecting => absurd (connectReq.symm.trans connecting) Bool.false_ne_true,
        fun _ _ => Or.inl rfl, served.completed, fun _ _ => Or.inl rfl⟩

end Writing

section Trying

/-- What a stream notes about its calls makes no difference for its life. -/
theorem Life.noted (life : stream.Life) (calls : Nat) (trace : List StreamEvent) :
    { stream with calls := calls, trace := trace }.Life := by
  cases life with
  | unopened unopened =>
    exact .unopened ⟨unopened.fd, unopened.alive, unopened.closed, unopened.place,
      unopened.writable, unopened.connectReq, unopened.shutting, unopened.shutdownReq,
      unopened.pollout, unopened.fed, unopened.writeQueue, unopened.completed⟩
  | opened opened =>
    exact .opened ⟨opened.fd, opened.alive, opened.closed, opened.place, opened.shutting,
      opened.shut⟩
  | closing closing =>
    exact .closing ⟨closing.fd, closing.closing, closing.closed, closing.pollout, closing.fed,
      closing.place⟩
  | closed closed =>
    refine .closed ⟨closed.fd, closed.closing, closed.closed, closed.pollout, closed.fed, ?_⟩
    cases closed.destroying with
    | connect place connectReq => exact .connect place connectReq
    | write place connectReq queue => exact .write place connectReq queue
    | shutdown place connectReq queue completed asked =>
      exact .shutdown place connectReq queue completed asked
    | done place connectReq queue completed asked =>
      exact .done place connectReq queue completed asked

/-- `uv_try_write` gives up before it has a request. -/
theorem Kept.tryNothing (kept : stream.Kept) (content : List Byte) {result : Int}
    (negative : result < 0) :
    let next := { stream.record (.tried stream.calls content result) with
      calls := stream.calls + 1 }
    next.Kept ∧ (stream.Served → next.Served) := by
  have unsent : ofMessage stream.calls (sentOf stream.trace) = [] :=
    ofMessage_eq_nil fun chunk member => Nat.ne_of_lt (kept.ledger.sent chunk member)
  refine ⟨⟨kept.books.same rfl rfl rfl (Nat.le_succ _), ?ledger, kept.users, kept.life.noted _ _,
    ⟨kept.counts.active, ?connects, ?shutdowns⟩⟩, fun served =>
    ⟨served.connecting, served.queued, served.completed, served.shutting⟩⟩
  case ledger =>
    refine kept.ledger.tryResult (Nat.lt_succ_self _) (Nat.le_succ _) ?_ ?_ ?_
    · intro req member
      exact Nat.ne_of_gt (kept.books.numbered req (List.mem_append_right _ member))
    · rw [unsent, Int.toNat_of_nonpos (Int.le_of_lt negative), List.take_zero]
    · omega
  case connects =>
    refine (countP_concat _ rfl).trans (kept.counts.connects.trans ?_)
    exact congrArg (· + stream.connecting) (countP_concat _ rfl).symm
  case shutdowns =>
    refine (countP_concat _ rfl).trans (kept.counts.shutdowns.trans ?_)
    exact congrArg (· + stream.ending) (countP_concat _ rfl).symm

/-- What is left of a request is what it contributes to the size. -/
theorem Books.owed_eq (books : stream.Books) (member : req ∈ stream.requests) :
    req.owed = req.left.length := by
  rw [UvWrite.owed]
  cases null : req.null with
  | false => exact if_neg Bool.false_ne_true
  | true =>
    rw [requests, List.mem_append] at member
    rcases member with answered | queued
    · rw [UvWrite.left, (books.completed req answered).2.2 null]
      rfl
    · exact absurd ((books.queued req queued).1.symm.trans null) Bool.false_ne_true

/-- `uv_try_write` takes its own request back, which is the last one. What it owed is taken out
of the size of the queue, and the number of bytes that were sent of it is reported. -/
theorem Open.withdraw (kept : stream.Open) (member : req ∈ stream.requests)
    (others : ∀ other ∈ stream.requests, other.serial ≠ req.serial → other.cb = .user)
    (attempt : ∀ other ∈ stream.requests, other.serial = req.serial → other.cb = .uvTryWriteCb)
    {result : Int} (reported : result = if req.content.length - req.owed = 0 ∧ req.owed ≠ 0
      then UV_EAGAIN else (req.content.length - req.owed : Nat)) (pollout : Bool) :
    { stream with
      activeReqs := stream.activeReqs - 1
      writeQueueSize := stream.writeQueueSize - req.owed
      writeQueue := stream.writeQueue.filter fun other => other.serial ≠ req.serial
      writeCompletedQueue :=
        stream.writeCompletedQueue.filter fun other => other.serial ≠ req.serial
      pollout := pollout
      trace := stream.trace ++
        [StreamEvent.tried req.serial req.content result] : UvStream }.Kept := by
  obtain ⟨books, ledger, opened, counts⟩ := kept
  have length := length_filter books.ordered member
  have left := books.owed_eq member
  have progress := ledger.progress req member
  obtain ⟨size, queued, completed, ordered, numbered⟩ := books.withdraw member
  refine ⟨⟨size, queued, completed, ordered, numbered⟩, ?ledger, fun other inside => ?users,
    .opened ⟨opened.fd, opened.alive, opened.closed, opened.place, opened.shutting, opened.shut⟩,
    ?active, ?connects, ?shutdowns⟩
  case ledger =>
    have removed := ledger.withdraw req.serial attempt
    have total : (ofMessage req.serial (sentOf stream.trace)).length + req.owed =
        req.content.length := by
      rw [left, ← List.length_append, progress]
    have taken : ofMessage req.serial (sentOf stream.trace) =
        req.content.take (req.content.length - req.owed) := by
      rw [← progress, List.take_append_of_le_length (by rw [progress]; omega)]
      exact (List.take_of_length_le (by rw [progress]; omega)).symm
    rw [← requests_filter] at removed
    refine removed.tryResult (books.numbered req member) (Nat.le_refl _) ?_ ?_ ?_
    · intro other inside
      simpa using (Ne.symm (of_decide_eq_true (List.mem_filter.mp inside).2))
    · rw [taken, reported]
      split
      case isTrue nothing =>
        rw [nothing.1]
        rfl
      case isFalse => rfl
    · rw [reported]
      split
      case isTrue =>
        have negative : UV_EAGAIN < 0 := by decide
        omega
      case isFalse => omega
  case users =>
    rw [requests, requests_filter, List.mem_filter] at inside
    exact others other inside.1 (of_decide_eq_true inside.2)
  case active =>
    have active := counts.active
    change stream.activeReqs - 1 =
      ((stream.writeCompletedQueue.filter fun other => other.serial ≠ req.serial) ++
        stream.writeQueue.filter fun other => other.serial ≠ req.serial).length +
          stream.connecting + stream.ending
    rw [requests_filter]
    omega
  case connects =>
    refine (countP_concat _ rfl).trans (counts.connects.trans ?_)
    exact congrArg (· + stream.connecting) (countP_concat _ rfl).symm
  case shutdowns =>
    refine (countP_concat _ rfl).trans (counts.shutdowns.trans ?_)
    exact congrArg (· + stream.ending) (countP_concat _ rfl).symm

/-- The requests behind `uv_write` of an attempt: those before, and its own. Writing changes the
buffers of the requests, but neither their numbers nor their contents nor whose they are. -/
theorem attempted (numbered : ∀ req ∈ stream.requests, req.serial < stream.calls)
    (users : ∀ req ∈ stream.requests, req.cb = .user) {bufs : List (List Byte)}
    (wrote : (stream.enqueue bufs .uvTryWriteCb).Wrote next ∨
      next.requests = (stream.enqueue bufs .uvTryWriteCb).requests) :
    (∃ req ∈ next.requests, req.serial = stream.calls) ∧
      ∀ req ∈ next.requests,
        if req.serial = stream.calls then req.cb = .uvTryWriteCb ∧ req.content = bufs.flatten
        else req.cb = .user := by
  have same : next.requests.map (fun req => (req.serial, req.cb, req.content)) =
      stream.requests.map (fun req => (req.serial, req.cb, req.content)) ++
        [(stream.calls, .uvTryWriteCb, bufs.flatten)] := by
    have queued : (stream.enqueue bufs .uvTryWriteCb).requests.map
        (fun req => (req.serial, req.cb, req.content)) =
        stream.requests.map (fun req => (req.serial, req.cb, req.content)) ++
          [(stream.calls, .uvTryWriteCb, bufs.flatten)] := by
      simp [requests, enqueue]
    rcases wrote with wrote | same
    · rw [wrote.requests_map _ (fun _ _ => rfl) (fun _ _ => rfl) (fun _ _ => rfl), queued]
    · rw [same, queued]
  constructor
  · have last : (stream.calls, WriteCb.uvTryWriteCb, bufs.flatten) ∈
        next.requests.map fun req => (req.serial, req.cb, req.content) := by
      rw [same]
      exact List.mem_append_right _ (List.mem_singleton_self _)
    obtain ⟨req, member, equal⟩ := List.mem_map.mp last
    exact ⟨req, member, congrArg Prod.fst equal⟩
  · intro req member
    have image : (req.serial, req.cb, req.content) ∈
        next.requests.map fun req => (req.serial, req.cb, req.content) :=
      List.mem_map_of_mem member
    rw [same, List.mem_append, List.mem_singleton] at image
    rcases image with earlier | own
    · obtain ⟨old, among, equal⟩ := List.mem_map.mp earlier
      simp only [Prod.mk.injEq] at equal
      obtain ⟨serial, cb, _⟩ := equal
      have below := numbered old among
      rw [if_neg (by omega), ← cb]
      exact users old among
    · simp only [Prod.mk.injEq] at own
      obtain ⟨serial, cb, content⟩ := own
      rw [if_pos serial]
      exact ⟨cb, content⟩

/-- What is left of an attempt that was given to the kernel: the request is found, and its own. -/
theorem Open.attempted (opened : next.Open) {bufs : List (List Byte)}
    (some : ∃ req ∈ next.requests, req.serial = stream.calls)
    (members : ∀ req ∈ next.requests,
      if req.serial = stream.calls then req.cb = .uvTryWriteCb ∧ req.content = bufs.flatten
      else req.cb = .user) :
    ∃ req ∈ next.requests, req.serial = stream.calls ∧ req.content = bufs.flatten ∧
      (next.writeQueue ++ next.writeCompletedQueue).find?
        (fun req => decide (req.serial = stream.calls)) = .some req ∧ next.activeReqs ≠ 0 := by
  have both (req : UvWrite) : req ∈ next.writeQueue ++ next.writeCompletedQueue ↔
      req ∈ next.requests := by
    rw [requests, List.mem_append, List.mem_append]
    exact or_comm
  obtain ⟨own, inside, ownSerial⟩ := some
  have among : ((next.writeQueue ++ next.writeCompletedQueue).find? fun req =>
      decide (req.serial = stream.calls)).isSome = true :=
    List.find?_isSome.mpr ⟨own, (both own).mpr inside, by simpa using ownSerial⟩
  obtain ⟨req, found⟩ := Option.isSome_iff_exists.mp among
  have serial : req.serial = stream.calls := by simpa using List.find?_some found
  have member : req ∈ next.requests := (both req).mp (List.mem_of_find?_eq_some found)
  have facts := members req member
  rw [if_pos serial] at facts
  have active := opened.counts.active
  have pending := List.length_pos_of_mem member
  exact ⟨req, member, serial, facts.2, found, by omega⟩

/-- An attempt puts nothing but its own request into an empty queue. -/
theorem Wrote.own {bufs : List (List Byte)} (wrote : (stream.enqueue bufs .uvTryWriteCb).Wrote next)
    (empty : stream.writeQueue = []) : ∀ req ∈ next.writeQueue, req.serial = stream.calls := by
  have single : (stream.enqueue bufs .uvTryWriteCb).writeQueue =
      [⟨stream.calls, bufs.flatten, .uvTryWriteCb, bufs, false, 0⟩] := by
    rw [enqueue, empty]
    rfl
  intro req member
  cases wrote with
  | nothing | again =>
    have member : req ∈ (stream.enqueue bufs .uvTryWriteCb).writeQueue := member
    rw [single, List.mem_singleton] at member
    rw [member]
  | part first rest bytes left queue =>
    cases queue.symm.trans single
    rw [List.mem_singleton.mp member]
  | whole first rest queue =>
    cases queue.symm.trans single
    cases member
  | failed first rest code queue =>
    cases queue.symm.trans single
    cases member

/-- `uv_try_write` leaves nothing of its request, and does not make the loop forget what was
queued before. -/
theorem Served.withdraw (served : stream.Served) (place : next.place = stream.place)
    (fd : next.fd = stream.fd) (connectReq : next.connectReq = false)
    (shutdownReq : next.shutdownReq = stream.shutdownReq)
    (polls : next.fed = stream.fed ∧ (next.pollout = stream.pollout ∨ next.pollout = true) ∨
      next.fed = true)
    (completed : next.writeCompletedQueue = stream.writeCompletedQueue ∧ next.fed = stream.fed ∨
      next.fed = true)
    (own : stream.writeQueue = [] → ∀ req ∈ next.writeQueue, req.serial = stream.calls)
    {size active : Nat} {trace : List StreamEvent} :
    { next with
      activeReqs := active
      writeQueueSize := size
      writeQueue := next.writeQueue.filter fun req => req.serial ≠ stream.calls
      writeCompletedQueue := next.writeCompletedQueue.filter fun req => req.serial ≠ stream.calls
      pollout := if stream.pollout = true then next.pollout else false
      trace := trace : UvStream }.Served := by
  have again {elsewhere : Prop}
      (before : stream.pollout = true ∨ stream.fed = true ∨ elsewhere) :
      (if stream.pollout = true then next.pollout else false) = true ∨ next.fed = true ∨
        elsewhere := by
    rcases polls with ⟨fedSame, polloutSame⟩ | fed
    · rcases before with pollout | fed | elsewhere
      · rw [if_pos pollout]
        exact Or.inl (polloutSame.elim (fun same => same.trans pollout) id)
      · exact Or.inr (Or.inl (fedSame.trans fed))
      · exact Or.inr (Or.inr elsewhere)
    · exact Or.inr (Or.inl fed)
  refine ⟨fun _ connecting => ?_, fun here some => again ?_, fun here some => ?_,
    fun here asked => again ?_⟩
  · exact absurd (connectReq.symm.trans connecting) Bool.false_ne_true
  · have waiting : stream.writeQueue ≠ [] := by
      intro empty
      refine some (List.filter_eq_nil_iff.mpr fun req among => ?_)
      simpa using own empty req among
    rw [place]
    exact served.queued (fd.symm.trans here) waiting
  · have answered : next.writeCompletedQueue ≠ [] := by
      intro empty
      refine some ?_
      change next.writeCompletedQueue.filter _ = []
      rw [empty]
      rfl
    rcases completed with ⟨same, fedSame⟩ | fed
    · rw [same] at answered
      change next.fed = true ∨ next.place = .writeCb ∨ next.place.cancelling = true
      rw [place, fedSame]
      exact served.completed (fd.symm.trans here) answered
    · exact Or.inl fed
  · rw [place]
    exact served.shutting (fd.symm.trans here) (shutdownReq.symm.trans asked)

/-- `uv_try_write` fails no assertion and leaves no request behind. It does nothing while a
connection is being made or something is queued. Otherwise its request is written as any other
and taken back. -/
theorem uvTryWrite_kept (kept : stream.Kept) {bufs : List (List Byte)} (nonempty : bufs ≠ [])
    {transport : Transport} (proper : transport.Proper) :
    ∃ next, stream.uvTryWrite bufs transport = .ok next ∧ next.Kept ∧
      (stream.Served → next.Served) := by
  rw [uvTryWrite]
  by_cases busy : stream.connectReq = true ∨ stream.writeQueueSize ≠ 0
  · rw [if_pos busy]
    exact ⟨_, rfl, kept.tryNothing _ (by decide)⟩
  · obtain ⟨result, next, ran, outcome⟩ := uvWrite_cases kept nonempty .uvTryWriteCb proper
    rw [if_neg busy]
    dsimp only
    rw [ran, ok_bind]
    dsimp only
    rcases outcome with ⟨negative, rfl⟩ | ⟨rfl, opened, outcome⟩
    · rw [if_pos (Int.ne_of_lt negative)]
      exact ⟨_, rfl, kept.tryNothing _ negative⟩
    · rw [if_neg (by simp)]
      have notConnecting : stream.connectReq = false := by simpa using (not_or.mp busy).1
      have sent : (stream.enqueue bufs .uvTryWriteCb).Wrote next ∨
          next = { stream.enqueue bufs .uvTryWriteCb with pollout := true } := by
        rcases outcome with ⟨connectReq, _⟩ | ⟨_, wrote⟩ | ⟨_, same⟩
        · exact absurd (notConnecting.symm.trans connectReq) Bool.false_ne_true
        · exact Or.inl wrote
        · exact Or.inr same
      obtain ⟨own, members⟩ := attempted kept.books.numbered kept.users
        (sent.imp_right fun same => by rw [same]; rfl)
      obtain ⟨req, member, serial, content, found, registered⟩ := opened.attempted own members
      rw [found]
      dsimp only
      rw [opened.books.reqSize member, ok_bind]
      rw [reqUnregister, if_neg (by exact registered), ok_bind]
      have final := opened.withdraw member (fun other among different => by
          have facts := members other among
          rwa [if_neg (serial ▸ different)] at facts)
        (fun other among same => by
          have facts := members other among
          rw [if_pos (same.trans serial)] at facts
          exact facts.1)
        rfl (if stream.pollout = true then next.pollout else false)
      rw [serial, content] at final
      have stopped (queue : UvStream) (fd : queue.fd = true)
          (pollout : queue.pollout = next.pollout) :
          (if stream.pollout = true then queue else queue.ioStop) =
            { queue with pollout := if stream.pollout = true then next.pollout else false } := by
        split
        · rw [← pollout]
        · exact if_pos fd
      rw [stopped _ (by exact opened.opened.fd) (by rfl)]
      refine ⟨_, rfl, final, fun served => ?_⟩
      rcases sent with wrote | same
      · obtain ⟨place, fd, connectSame, shutdownSame⟩ := wrote.frame
        exact served.withdraw place fd (connectSame.trans notConnecting) shutdownSame wrote.polls
          wrote.completed wrote.own
      · obtain ⟨place, fd, connectSame, shutdownSame, polls, completed⟩ :
            next.place = stream.place ∧ next.fd = stream.fd ∧
              next.connectReq = stream.connectReq ∧ next.shutdownReq = stream.shutdownReq ∧
              (next.fed = stream.fed ∧ next.pollout = true) ∧
              next.writeCompletedQueue = stream.writeCompletedQueue ∧ next.fed = stream.fed := by
          rw [same]
          exact ⟨rfl, rfl, rfl, rfl, ⟨rfl, rfl⟩, rfl, rfl⟩
        have waits (empty : stream.writeQueue = []) : ∀ req ∈ next.writeQueue,
            req.serial = stream.calls := by
          intro req member
          rw [same] at member
          change req ∈ stream.writeQueue ++ [_] at member
          rw [empty, List.nil_append, List.mem_singleton] at member
          rw [member]
        exact served.withdraw place fd (connectSame.trans notConnecting) shutdownSame
          (Or.inl (polls.imp_right Or.inr)) (Or.inl completed) waits

end Trying

end UvStream

end MoeUV
