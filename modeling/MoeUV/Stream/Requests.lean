import MoeUV.Foundation.Execution
import MoeUV.Stream.Write
import MoeUV.Environment.Strings
import MoeUV.Transparency.Classes

/-!
# The requests of a stream

`Write`, `Connect` and `Shutdown` leave a request with libuv, which answers it later with a
callback. A write request moves from one queue to another when its bytes have been handed
to the kernel, or when that has failed, and it is answered from there. The program may call
the stream again from each callback, and also close it.

A step takes the stream from one callback to the next, or does one call of the program.
The kernel decides how many bytes it takes. How many buffers it is offered at once makes no
difference to that, and an interrupted call is made again.

The requests are numbered in the order of the calls, and what happens to them is recorded.
No operation reads the numbers or the record.
-/

namespace MoeUV

open Transparency (UV_EALREADY)

def UV_EBADF : Int := -9
def UV_EPIPE : Int := -32
def UV_ENOTCONN : Int := -107
def UV_ECONNREFUSED : Int := -111
def UV_EINPROGRESS : Int := -115

/-- An assertion failed, an unsigned number became negative, or `abort` was called. -/
inductive StreamFault where
  | assertion
  | underflow
  | aborted
deriving DecidableEq

inductive WriteCb where
  /-- The callback of a caller of `uv_write`. -/
  | user
  | uvTryWriteCb
deriving DecidableEq

/-- `uv_write_t` -/
structure UvWrite where
  serial : Nat
  /-- All bytes of the request. -/
  content : List Byte
  cb : WriteCb
  /-- `bufs` from `write_index` on. -/
  bufs : List (List Byte)
  /-- `bufs` is a null pointer. -/
  null : Bool
  error : Int
deriving DecidableEq

/-- The bytes that `uv__count_bufs` counts. -/
def UvWrite.left (req : UvWrite) : List Byte := req.bufs.flatten

/-- Where the kernel is asked itself, `fails` is its error, which is negative. -/
def Transport.Proper : Transport → Prop
  | .accepts _ => True
  | .fails code => code < 0

instance : (transport : Transport) → Decidable transport.Proper
  | .accepts _ => inferInstanceAs (Decidable True)
  | .fails code => inferInstanceAs (Decidable (code < 0))

/-- What the kernel answers when it is asked in a step. -/
structure KernelAnswers where
  written : Transport
  /-- `SO_ERROR` -/
  soError : Int
  shutdown : Int

inductive StreamEvent where
  /-- `uv_write` took a request. -/
  | queued (serial : Nat) (content : List Byte)
  /-- The kernel took bytes of a request. -/
  | sent (serial : Nat) (bytes : List Byte)
  /-- The callback of a request of `uv_write`. -/
  | written (serial : Nat) (content : List Byte) (status : Int)
  /-- `uv_try_write` returned. -/
  | tried (serial : Nat) (content : List Byte) (result : Int)
  | connecting
  | connected (status : Int)
  | shutting
  /-- `shutdown` was called for the sending side. -/
  | shut (status : Int)
  /-- The callback of `uv_shutdown`. -/
  | shutdown (status : Int)
  | closed
deriving DecidableEq

/-- Which callback the program is in, and what libuv does behind it. -/
inductive StreamPlace where
  | outside
  /-- A read callback of `uv__stream_io`, that goes on to write or not. -/
  | readCb (write : Bool)
  /-- `uv__write_callbacks` of `uv__stream_io`. -/
  | writeCb
  /-- The callback of `uv__stream_connect`. -/
  | connectCb (failed : Bool)
  /-- `uv__write_callbacks` of `uv__stream_connect`. -/
  | cancelCb
  | destroyConnectCb
  /-- `uv__write_callbacks` of `uv__stream_destroy`. -/
  | destroyWriteCb
  | destroyShutdownCb
deriving DecidableEq

structure UvStream where
  /-- `io_watcher.fd` is not -1. -/
  fd : Bool
  writable : Bool
  shutting : Bool
  shut : Bool
  closing : Bool
  closed : Bool
  connectReq : Bool
  delayedError : Int
  shutdownReq : Bool
  writeQueue : List UvWrite
  writeCompletedQueue : List UvWrite
  writeQueueSize : Nat
  /-- `POLLOUT` is among the events that the loop polls for. -/
  pollout : Bool
  /-- The watcher is in the `pending_queue` of the loop. -/
  fed : Bool
  /-- The requests of this stream in `active_reqs` of the loop. -/
  activeReqs : Nat
  place : StreamPlace
  calls : Nat
  trace : List StreamEvent

/-- `WRITE_RETRY_ON_ERROR` -/
def WriteRetryOnError (code : Int) : Prop := code = UV_EAGAIN ∨ code = UV_ENOBUFS

instance (code : Int) : Decidable (WriteRetryOnError code) :=
  inferInstanceAs (Decidable (code = UV_EAGAIN ∨ code = UV_ENOBUFS))

namespace UvStream

/-- `uv__stream_init` -/
def streamInit : UvStream where
  fd := false
  writable := false
  shutting := false
  shut := false
  closing := false
  closed := false
  connectReq := false
  delayedError := 0
  shutdownReq := false
  writeQueue := []
  writeCompletedQueue := []
  writeQueueSize := 0
  pollout := false
  fed := false
  activeReqs := 0
  place := .outside
  calls := 0
  trace := []

variable (stream : UvStream)

def record (event : StreamEvent) : UvStream := { stream with trace := stream.trace ++ [event] }

def setPlace (place : StreamPlace) : UvStream := { stream with place := place }

section Core

/-- `uv__io_start` for `POLLOUT`. -/
def ioStart : UvStream := { stream with pollout := true }

/-- `uv__io_stop` for `POLLOUT`. -/
def ioStop : UvStream := if stream.fd then { stream with pollout := false } else stream

/-- `uv__req_unregister` -/
def reqUnregister : Except StreamFault UvStream :=
  if stream.activeReqs = 0 then .error .assertion
  else .ok { stream with activeReqs := stream.activeReqs - 1 }

end Core

section Write

/-- The loop of `uv__write` over the buffers of which the kernel took `count` bytes: the
buffers that are left, and the new `write_queue_size`. -/
def advance (count : Nat) (bufs : List (List Byte)) (size : Nat) :
    Except StreamFault (List (List Byte) × Nat) :=
  match bufs with
  | [] => .error .assertion
  | buf :: rest =>
    if count < buf.length then
      if size < count then .error .underflow else .ok (buf.drop count :: rest, size - count)
    else if size < buf.length then .error .assertion
    else if rest.isEmpty then
      if count = buf.length then .ok ([], size - buf.length) else .error .assertion
    else advance (count - buf.length) rest (size - buf.length)

/-- `uv__write_req_size` -/
def writeReqSize (req : UvWrite) : Except StreamFault Nat :=
  if req.null = true ∨ stream.writeQueueSize < req.left.length then .error .assertion
  else .ok req.left.length

/-- The size of a request that still has its buffers. -/
def reqSize (req : UvWrite) : Except StreamFault Nat :=
  if req.null then .ok 0 else stream.writeReqSize req

/-- `uv__write_req_finish` for the first request of the queue. -/
def writeReqFinish (req : UvWrite) : UvStream :=
  { stream with
    writeQueue := stream.writeQueue.tail
    writeCompletedQueue := stream.writeCompletedQueue ++
      [if req.error = 0 then { req with null := true } else req]
    fed := true }

/-- `uv__write` -/
def write (transport : Transport) : Except StreamFault UvStream :=
  if stream.fd = false then .error .assertion
  else
    match stream.writeQueue with
    | [] => .ok stream
    | req :: rest =>
      match transport with
      | .fails code =>
        if WriteRetryOnError code then .ok stream.ioStart
        else .ok (stream.writeReqFinish { req with error := code }).ioStop
      | .accepts count => do
        let n := min count req.left.length
        let (bufs, size) ← advance n req.bufs stream.writeQueueSize
        let stream := { stream.record (.sent req.serial (req.left.take n)) with
          writeQueueSize := size }
        if bufs = [] then .ok (stream.writeReqFinish { req with bufs := [] })
        else .ok { stream with writeQueue := { req with bufs := bufs } :: rest }.ioStart

/-- `uv__drain` -/
def drain (shutdown : Int) : Except StreamFault UvStream :=
  if stream.writeQueue ≠ [] then .error .assertion
  else
    let stream := stream.ioStop
    if stream.shutting = true ∧ stream.closing = false ∧ stream.shut = false then
      if stream.shutdownReq = false then .error .assertion
      else do
        let stream ← { stream with shutdownReq := false, shutting := false }.reqUnregister
        .ok ({ stream with shut := decide (shutdown = 0) }.record (.shut shutdown)
          |>.record (.shutdown shutdown))
    else .ok stream

/-- `uv__stream_flush_write_queue` -/
def streamFlushWriteQueue (error : Int) : UvStream :=
  { stream with
    writeQueue := []
    writeCompletedQueue := stream.writeCompletedQueue ++
      stream.writeQueue.map fun req => { req with error := error } }

/-- One round of `uv__write_callbacks`. -/
def writeCallback (req : UvWrite) : Except StreamFault UvStream := do
  let stream := { stream with writeCompletedQueue := stream.writeCompletedQueue.tail }
  let stream ← stream.reqUnregister
  let size ← stream.reqSize req
  let stream := { stream with writeQueueSize := stream.writeQueueSize - size }
  match req.cb with
  | .user => .ok (stream.record (.written req.serial req.content req.error))
  | .uvTryWriteCb => .error .aborted

/-- The end of `uv__stream_destroy`. -/
def destroyed : Except StreamFault UvStream :=
  if stream.writeQueueSize ≠ 0 then .error .assertion
  else .ok ((stream.setPlace .outside).record .closed)

/-- `uv__stream_destroy` behind its `uv__write_callbacks`. -/
def destroyShutdown : Except StreamFault UvStream :=
  if stream.shutdownReq then do
    let stream ← stream.reqUnregister
    .ok ((stream.record (.shutdown UV_ECANCELED)).setPlace .destroyShutdownCb)
  else stream.destroyed

/-- `uv__write_callbacks` up to its next callback, or to what its caller does behind it. -/
def writeCallbacks (place : StreamPlace) (shutdown : Int) : Except StreamFault UvStream :=
  let stream := stream.setPlace place
  match stream.writeCompletedQueue with
  | req :: _ => stream.writeCallback req
  | [] =>
    match place with
    | .destroyWriteCb => stream.destroyShutdown
    | .writeCb =>
      if stream.writeQueue = [] then do
        let stream ← stream.drain shutdown
        .ok (stream.setPlace .outside)
      else .ok (stream.setPlace .outside)
    | _ => .ok (stream.setPlace .outside)

/-- `uv_write2` puts the request into the queue. -/
def enqueue (bufs : List (List Byte)) (cb : WriteCb) : UvStream :=
  { stream with
    activeReqs := stream.activeReqs + 1
    writeQueueSize := stream.writeQueueSize + bufs.flatten.length
    writeQueue := stream.writeQueue ++ [⟨stream.calls, bufs.flatten, cb, bufs, false, 0⟩]
    calls := stream.calls + 1
    trace := stream.trace ++ if cb = .user then [.queued stream.calls bufs.flatten] else [] }

/-- `uv_write`: the result, and the stream. -/
def uvWrite (bufs : List (List Byte)) (cb : WriteCb) (transport : Transport) :
    Except StreamFault (Int × UvStream) :=
  if bufs = [] then .error .assertion
  else if stream.fd = false then .ok (UV_EBADF, stream)
  else if stream.writable = false then .ok (UV_EPIPE, stream)
  else
    let emptyQueue := stream.writeQueueSize = 0
    let stream := stream.enqueue bufs cb
    if stream.connectReq then .ok (0, stream)
    else if emptyQueue then do
      let stream ← stream.write transport
      .ok (0, stream)
    else .ok (0, stream.ioStart)

/-- `uv_try_write` takes its request out of the queues. -/
def unqueue (serial reqSize : Nat) : UvStream :=
  { stream with
    writeQueueSize := stream.writeQueueSize - reqSize
    writeQueue := stream.writeQueue.filter (·.serial ≠ serial)
    writeCompletedQueue := stream.writeCompletedQueue.filter (·.serial ≠ serial) }

/-- `uv_try_write`, whose request is told by its number. -/
def uvTryWrite (bufs : List (List Byte)) (transport : Transport) : Except StreamFault UvStream :=
  if stream.connectReq = true ∨ stream.writeQueueSize ≠ 0 then
    .ok { stream.record (.tried stream.calls bufs.flatten UV_EAGAIN) with
      calls := stream.calls + 1 }
  else do
    let serial := stream.calls
    let hasPollout := stream.pollout
    let (r, stream) ← stream.uvWrite bufs .uvTryWriteCb transport
    if r ≠ 0 then
      .ok { stream.record (.tried serial bufs.flatten r) with calls := serial + 1 }
    else
      match (stream.writeQueue ++ stream.writeCompletedQueue).find? (·.serial = serial) with
      | none => .error .assertion
      | some req => do
        let reqSize ← stream.reqSize req
        let written := bufs.flatten.length - reqSize
        let stream ← (stream.unqueue serial reqSize).reqUnregister
        let stream := if hasPollout then stream else stream.ioStop
        .ok (stream.record (.tried serial bufs.flatten
          (if written = 0 ∧ reqSize ≠ 0 then UV_EAGAIN else written)))

end Write

section Connect

/-- `uv__stream_connect` -/
def streamConnect (soError : Int) : Except StreamFault UvStream :=
  if stream.delayedError = 0 ∧ stream.fd = false then .error .assertion
  else do
    let error := if stream.delayedError ≠ 0 then stream.delayedError else soError
    let stream := { stream with delayedError := 0 }
    if error = UV_EINPROGRESS then .ok stream
    else do
      let stream ← { stream with connectReq := false }.reqUnregister
      let stream := if error < 0 ∨ stream.writeQueue = [] then stream.ioStop else stream
      .ok ((stream.record (.connected error)).setPlace (.connectCb (decide (error < 0))))

/-- `uv__tcp_connect`, with the errors of `socket` and `connect`. -/
def tcpConnect (socketError connectError : Int) : Int × UvStream :=
  if stream.connectReq then (UV_EALREADY, stream)
  else if stream.fd = false ∧ socketError ≠ 0 then (socketError, stream)
  else
    let stream := { stream with fd := true, writable := true, delayedError := 0 }
    if connectError ≠ 0 ∧ connectError ≠ UV_EINPROGRESS ∧ connectError ≠ UV_ECONNREFUSED then
      (connectError, stream)
    else
      let refused := decide (connectError = UV_ECONNREFUSED)
      let stream := { stream with
        delayedError := if refused then connectError else 0
        connectReq := true
        activeReqs := stream.activeReqs + 1
        pollout := true
        fed := refused || stream.fed }
      (0, stream.record .connecting)

/-- `uv__stream_open` for a connection that was accepted or made elsewhere. -/
def streamOpen : Int × UvStream :=
  if stream.fd then (UV_EBUSY, stream)
  else (0, { stream with fd := true, writable := true })

end Connect

section Shutdown

/-- `uv_shutdown` -/
def uvShutdown : Except StreamFault (Int × UvStream) :=
  if stream.writable = false ∨ stream.shut = true ∨ stream.shutting = true ∨
      stream.closing = true then .ok (UV_ENOTCONN, stream)
  else if stream.fd = false then .error .assertion
  else
    let stream := { stream with
      activeReqs := stream.activeReqs + 1
      shutdownReq := true
      shutting := true }
    .ok (0, stream.ioStart.record .shutting)

/-- `uv_close` with `uv__stream_close`. -/
def uvClose : UvStream :=
  { stream with closing := true, pollout := false, fed := false, fd := false }

/-- `uv__finish_close` with `uv__stream_destroy`, up to a callback. -/
def finishClose : Except StreamFault UvStream :=
  if stream.closing = false ∨ stream.closed = true ∨ stream.pollout = true then
    .error .assertion
  else
    let stream := { stream with closed := true }
    if stream.connectReq then do
      let stream ← stream.reqUnregister
      .ok ((stream.record (.connected UV_ECANCELED)).setPlace .destroyConnectCb)
    else (stream.streamFlushWriteQueue UV_ECANCELED).writeCallbacks .destroyWriteCb 0

end Shutdown

/-- `uv__stream_io` behind its read callbacks. -/
def streamWrite (answers : KernelAnswers) : Except StreamFault UvStream := do
  let stream ← stream.write answers.written
  stream.writeCallbacks .writeCb answers.shutdown

/-- `uv__stream_io`, for the events that make it read, and for those that make it write. -/
def streamIo (read write : Bool) (answers : KernelAnswers) : Except StreamFault UvStream :=
  if stream.closing then .error .assertion
  else if stream.connectReq then stream.streamConnect answers.soError
  else if stream.fd = false then .error .assertion
  else if read then .ok (stream.setPlace (.readCb write))
  else if write then stream.streamWrite answers
  else .ok stream

/-- The program returns from a callback. -/
def resume (answers : KernelAnswers) : Except StreamFault UvStream :=
  match stream.place with
  | .outside => .ok stream
  | .readCb write =>
    if stream.fd = true ∧ write = true then stream.streamWrite answers
    else .ok (stream.setPlace .outside)
  | .connectCb failed =>
    if stream.fd = true ∧ failed = true then
      (stream.streamFlushWriteQueue UV_ECANCELED).writeCallbacks .cancelCb answers.shutdown
    else .ok (stream.setPlace .outside)
  | .writeCb => stream.writeCallbacks .writeCb answers.shutdown
  | .cancelCb => stream.writeCallbacks .cancelCb answers.shutdown
  | .destroyConnectCb =>
    ({ stream with connectReq := false }.streamFlushWriteQueue UV_ECANCELED).writeCallbacks
      .destroyWriteCb answers.shutdown
  | .destroyWriteCb => stream.writeCallbacks .destroyWriteCb answers.shutdown
  | .destroyShutdownCb => { stream with shutdownReq := false }.destroyed

end UvStream

inductive UvStreamAction where
  | streamOpen
  | connect (socketError connectError : Int)
  | write (bufs : List (List Byte)) (transport : Transport)
  | tryWrite (bufs : List (List Byte)) (transport : Transport)
  | shutdown
  | close
  /-- `uv__run_pending` comes to the watcher. -/
  | pending (answers : KernelAnswers)
  /-- `uv__io_poll` reports events of the watcher. -/
  | polled (read write : Bool) (answers : KernelAnswers)
  | resume (answers : KernelAnswers)
  | finishClose

namespace UvStream

variable (stream : UvStream)

def act : UvStreamAction → Except StreamFault UvStream
  | .streamOpen => .ok stream.streamOpen.2
  | .connect socketError connectError => .ok (stream.tcpConnect socketError connectError).2
  | .write bufs transport => Prod.snd <$> stream.uvWrite bufs .user transport
  | .tryWrite bufs transport => stream.uvTryWrite bufs transport
  | .shutdown => Prod.snd <$> stream.uvShutdown
  | .close => .ok stream.uvClose
  | .pending answers => { stream with fed := false }.streamIo false true answers
  | .polled read write answers => stream.streamIo read write answers
  | .resume answers => stream.resume answers
  | .finishClose => stream.finishClose

/-- A handle that is being closed is not opened, connected or closed again, and a call of
`uv_write` has a buffer. -/
def Permits : UvStreamAction → Prop
  | .streamOpen | .connect _ _ | .close => stream.closing = false
  | .write bufs transport | .tryWrite bufs transport => bufs ≠ [] ∧ transport.Proper
  | .shutdown => True
  | .pending answers =>
    stream.place = .outside ∧ stream.fed = true ∧ answers.written.Proper
  | .polled _ _ answers =>
    stream.place = .outside ∧ stream.fd = true ∧ answers.written.Proper
  | .resume answers => stream.place ≠ .outside ∧ answers.written.Proper
  | .finishClose => stream.place = .outside ∧ stream.closing = true ∧ stream.closed = false

instance (stream : UvStream) : (action : UvStreamAction) → Decidable (stream.Permits action)
  | .streamOpen | .connect _ _ | .close => inferInstanceAs (Decidable (stream.closing = false))
  | .write bufs transport | .tryWrite bufs transport =>
    inferInstanceAs (Decidable (bufs ≠ [] ∧ transport.Proper))
  | .shutdown => inferInstanceAs (Decidable True)
  | .pending answers => inferInstanceAs (Decidable
      (stream.place = .outside ∧ stream.fed = true ∧ answers.written.Proper))
  | .polled _ _ answers => inferInstanceAs (Decidable
      (stream.place = .outside ∧ stream.fd = true ∧ answers.written.Proper))
  | .resume answers => inferInstanceAs (Decidable
      (stream.place ≠ .outside ∧ answers.written.Proper))
  | .finishClose => inferInstanceAs (Decidable
      (stream.place = .outside ∧ stream.closing = true ∧ stream.closed = false))

end UvStream

def uvStreamSystem : Foundation.Execution.System UvStream UvStreamAction StreamFault where
  enabled := UvStream.Permits
  step := UvStream.act

instance (stream : UvStream) (action : UvStreamAction) :
    Decidable (uvStreamSystem.enabled stream action) :=
  inferInstanceAs (Decidable (stream.Permits action))

end MoeUV
