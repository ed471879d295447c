import MoeUV.Failure
import MoeUV.Foundation.Execution
import MoeUV.Foundation.Fifo
import Mathlib.Algebra.Group.Nat.Defs

/-!
# Writing to a stream

`Write` queues a copy of its buffer, `WriteNoCopy` the buffer itself, which the
caller leaves alone until it is called back, and `TryWrite` hands its buffer to
the transport at once or not at all. libuv keeps the write requests in order and
sends from the front of its queue whenever the transport accepts bytes; how many
it accepts each time is not up to the program. An attempt is refused while
anything is queued; otherwise it sends what the transport accepts and returns
how much that was.

The calls are recorded with what they reported. No operation reads the record.
-/

namespace MoeUV

open Foundation.Fifo

abbrev Byte := BitVec 8

/-- `uv_buf_t`, with the memory at `base` from the start of the buffer on. -/
structure UvBuf where
  base : List Byte
  len : BitVec 32
deriving DecidableEq

def UvBuf.content (buf : UvBuf) : List Byte := buf.base.take buf.len.toNat

/-- `uv_buf_init` of a `BytesView`; the size is cast to `unsigned`. -/
def uvBufInit (bytes : List Byte) : UvBuf := ⟨bytes, BitVec.ofNat 32 bytes.length⟩

/-- What comes of an attempt to write. Here, `fails` is the refusal of `uv_write` to take the
request at all; an error of the kernel comes back as `UV_EAGAIN`, with no byte sent, which is
what accepting none is. -/
inductive Transport where
  | accepts (count : Nat)
  | fails (code : Int)
deriving DecidableEq

/-- The calls to the members of a stream, with what they reported. -/
inductive WriteCall where
  /-- `Write` or `WriteNoCopy` returned. -/
  | returned (buffer : List Byte)
  /-- `TryWrite` returned, having sent some of its buffer. -/
  | tried (buffer : List Byte) (result : Bool) (sent : List Byte)
  | threw (failure : Failure)
deriving DecidableEq

/-- The bytes that a call reported as taken over. -/
def WriteCall.reported : WriteCall → List Byte
  | .returned buffer => buffer
  | .tried buffer result _ => if result then buffer else []
  | .threw _ => []

/-- An attempt reports success when it sent its whole buffer, and failure when it
sent nothing. -/
def WriteCall.Honest : WriteCall → Prop
  | .tried buffer result sent => sent = if result then buffer else []
  | _ => True

structure Stream where
  closing : Bool
  sent : List Byte
  /-- The bytes of each write request that are still to be sent. -/
  writeQueue : List (List Byte)
  calls : List WriteCall

namespace Stream

def initial (closing : Bool) : Stream := ⟨closing, [], [], []⟩

variable (stream : Stream)

def record (call : WriteCall) : Stream := { stream with calls := stream.calls ++ [call] }

section Libuv

/-- `uv_write`: a request that is not refused at once is queued as a whole. -/
def uvWrite (buf : UvBuf) (code : Int) : Int × Stream :=
  if code < 0 then (code, stream)
  else (0, { stream with writeQueue := stream.writeQueue ++ [buf.content] })

/-- The transport accepts bytes from the queue. -/
def uvFlush (count : Nat) : Stream :=
  let (sent, left) := drain count stream.writeQueue
  { stream with sent := stream.sent ++ sent, writeQueue := left }

/-- `uv_try_write`, which returns what `uv_write` refuses with, and otherwise how many bytes
were sent. -/
def uvTryWrite (buf : UvBuf) : Transport → Int × Stream
  | .fails code =>
    if 0 < stream.writeQueue.flatten.length then (UV_EAGAIN, stream) else (code, stream)
  | .accepts count =>
    if 0 < stream.writeQueue.flatten.length then (UV_EAGAIN, stream)
    else
      let written := buf.content.take count
      if written.length = 0 ∧ buf.content.length ≠ 0 then (UV_EAGAIN, stream)
      else (written.length, { stream with sent := stream.sent ++ written })

end Libuv

section Members

/-- The two ways to queue a buffer differ in what they do with an empty one. -/
def queueBuffer (onEmpty : WriteCall) (buffer : List Byte) (code : Int) : Stream :=
  if stream.closing then stream.record (.threw (.invalidCall "Handle is already disposed"))
  else if buffer.length = 0 then stream.record onEmpty
  else
    let (ret, written) := stream.uvWrite (uvBufInit buffer) code
    if ret < 0 then written.record (.threw (uvThrow ret)) else written.record (.returned buffer)

/-- `Write`. -/
def write (buffer : List Byte) (code : Int) : Stream :=
  stream.queueBuffer (.returned []) buffer code

/-- `WriteNoCopy`. -/
def writeNoCopy (buffer : List Byte) (code : Int) : Stream :=
  stream.queueBuffer (.threw (.badArgument "Buffer is empty")) buffer code

/-- `TryWrite`. -/
def tryWrite (buffer : List Byte) (transport : Transport) : Stream :=
  if stream.closing then stream.record (.threw (.invalidCall "Handle is already disposed"))
  else if buffer.length = 0 then stream.record (.threw (.badArgument "Buffer is empty"))
  else
    let (r, after) := stream.uvTryWrite (uvBufInit buffer) transport
    let sent := after.sent.drop stream.sent.length
    if 0 ≤ r then after.record (.tried buffer true sent)
    else if r = UV_EAGAIN then after.record (.tried buffer false sent)
    else after.record (.threw (uvThrow r))

end Members

end Stream

/-- The calls of the program, and the transport sending in between. -/
inductive StreamAction where
  | write (buffer : List Byte) (code : Int)
  | writeNoCopy (buffer : List Byte) (code : Int)
  | tryWrite (buffer : List Byte) (transport : Transport)
  | flush (count : Nat)

def StreamAction.run (stream : Stream) : StreamAction → Stream
  | .write buffer code => stream.write buffer code
  | .writeNoCopy buffer code => stream.writeNoCopy buffer code
  | .tryWrite buffer transport => stream.tryWrite buffer transport
  | .flush count => stream.uvFlush count

/-- Buffers are shorter than what `unsigned` can hold, and errors are negative. -/
def StreamAction.Enabled : StreamAction → Prop
  | .write buffer _ | .writeNoCopy buffer _ | .tryWrite buffer (.accepts _) =>
    buffer.length < 2 ^ 32
  | .tryWrite buffer (.fails code) => buffer.length < 2 ^ 32 ∧ code < 0
  | .flush _ => True

def streamSystem : Foundation.Execution.System Stream StreamAction Empty where
  enabled _ action := action.Enabled
  step stream action := .ok (action.run stream)

instance (stream : Stream) : (action : StreamAction) →
    Decidable (streamSystem.enabled stream action)
  | .write buffer _ | .writeNoCopy buffer _ | .tryWrite buffer (.accepts _) =>
    inferInstanceAs (Decidable (buffer.length < 2 ^ 32))
  | .tryWrite buffer (.fails code) =>
    inferInstanceAs (Decidable (buffer.length < 2 ^ 32 ∧ code < 0))
  | .flush _ => inferInstanceAs (Decidable True)

/-- Not an attempt on an empty queue of which the transport accepts some bytes
but not all. -/
def StreamAction.Whole (stream : Stream) : StreamAction → Prop
  | .tryWrite buffer (.accepts count) =>
    stream.closing = false → stream.writeQueue.flatten = [] → 0 < count → buffer.length ≤ count
  | _ => True

instance (stream : Stream) : (action : StreamAction) → Decidable (action.Whole stream)
  | .tryWrite buffer (.accepts count) => inferInstanceAs (Decidable (stream.closing = false →
      stream.writeQueue.flatten = [] → 0 < count → buffer.length ≤ count))
  | .write _ _ | .writeNoCopy _ _ | .tryWrite _ (.fails _) | .flush _ =>
    inferInstanceAs (Decidable True)

end MoeUV
