import MoeUV.EndPoint.Operations
import MoeUV.Foundation.Trace
import MoeUV.Stream.Write

/-!
# The lengths of sent buffers

Streams and sockets send a buffer in three ways: they queue a copy of it, they
queue the buffer itself, or they try to send it at once. Each way ends with a
descriptor that libuv is given. A size has 64 bits, and so do the allocation and
the copy, but the length of the descriptor passes through 32 bits.

A call hands exactly one descriptor over, unless it throws before. The length is
therefore the one of the buffer exactly for the buffers below 4 GiB, and for the
calls that throw anyway.
-/

namespace MoeUV

open Foundation.Trace

/-- A buffer and its size. -/
structure BytesView where
  data : List Byte
  addressable : data.length < 2 ^ 64

namespace BytesView

def size (view : BytesView) : BitVec 64 := BitVec.ofNat 64 view.data.length

/-- `uv_buf_init` of a block with these bytes and `static_cast<unsigned>` of the
size. -/
def desc (view : BytesView) : UvBuf := ⟨view.data, view.size.setWidth 32⟩

end BytesView

/-- What a call asks for on its way to libuv, and what it hands over. -/
inductive SendEvent where
  | newRequest
  | alloc (size : BitVec 64)
  | memcpy (size : BitVec 64)
  | handed (desc : UvBuf)

/-- The exceptions of the library, and those of the allocator and of callbacks
that are copied. -/
inductive SendFailure where
  | member (failure : Failure)
  | thrown (exception : ThrownException)

abbrev Sending := ExceptT SendFailure (Traced SendEvent)

/-- The object pool of a loop: whether it has room for a request, and for a
buffer of some size. -/
structure LoopPool where
  request : Bool
  buffer : BitVec 64 → Bool

/-- The handle and the thread of a call. -/
structure SendSite where
  closing : Bool
  current : Option LoopPool

/-- The codes that the functions of libuv return for a descriptor. -/
structure SendFunctions where
  uvWrite : UvBuf → Int
  uvTryWrite : UvBuf → Int
  uvUdpSend : EndPoint → UvBuf → Int
  uvUdpTrySend : EndPoint → UvBuf → Int

/-- A callback, by what happens when it is copied. -/
structure SendCallback where
  copy : Except ThrownException Unit

section Code

def report (event : SendEvent) : Sending PUnit := ExceptT.lift (Traced.emit event)

variable (site : SendSite)

/-- `MOE_UV_GET_HANDLE`. -/
def requireOpen : Sending PUnit :=
  if site.closing then throw (.member (.invalidCall "Handle is already disposed")) else pure ⟨⟩

/-- An allocation from the pool of the current loop. -/
def allocate (event : SendEvent) (room : LoopPool → Bool) : Sending PUnit :=
  match site.current with
  | none => throw (.member (.invalidCall "RunLoop is not created"))
  | some pool =>
    if room pool then report event else throw (.thrown (.stdException "std::bad_alloc"))

/-- `MOE_UV_NEW`. -/
def newRequest : Sending PUnit := allocate site .newRequest LoopPool.request

/-- `MOE_UV_ALLOC`. -/
def allocBuffer (size : BitVec 64) : Sending PUnit := allocate site (.alloc size) (·.buffer size)

/-- A call of libuv with the descriptor. -/
def hand (uv : UvBuf → Int) (desc : UvBuf) : Sending Int := do
  report (.handed desc)
  pure (uv desc)

/-- `MOE_UV_CHECK`. -/
def checkCode (code : Int) : Sending PUnit :=
  if code < 0 then throw (.member (uvThrow code)) else pure ⟨⟩

variable (uv : UvBuf → Int) (buf : BytesView)

/-- The calls that queue a copy. -/
def queueCopy : Sending PUnit := do
  requireOpen site
  if buf.size = 0 then pure ⟨⟩
  else
    newRequest site
    allocBuffer site buf.size
    report (.memcpy buf.size)
    let code ← hand uv buf.desc
    checkCode code

/-- The calls that queue the buffer itself. -/
def queueView (assignCallback : Except ThrownException Unit) : Sending PUnit := do
  requireOpen site
  if buf.size = 0 then throw (.member (.badArgument "Buffer is empty"))
  else
    newRequest site
    match assignCallback with
    | .error exception => throw (.thrown exception)
    | .ok _ =>
      let code ← hand uv buf.desc
      checkCode code

/-- What an attempt returns for the code of libuv. -/
def attemptResult (r : Int) : Sending Bool :=
  if 0 ≤ r then pure true
  else if r = UV_EAGAIN then pure false
  else throw (.member (uvThrow r))

/-- The calls that send at once or not at all. -/
def sendAtOnce : Sending Bool := do
  requireOpen site
  if buf.size = 0 then throw (.member (.badArgument "Buffer is empty"))
  else
    let r ← hand uv buf.desc
    attemptResult r

variable (libuv : SendFunctions)

/-- `Stream::Write`. -/
def streamWrite : Sending PUnit := queueCopy site libuv.uvWrite buf

/-- `Stream::WriteNoCopy` with a callback that is copied. -/
def streamWriteNoCopy (cb : SendCallback) : Sending PUnit :=
  queueView site libuv.uvWrite buf cb.copy

/-- `Stream::WriteNoCopy` with a callback that is moved. -/
def streamWriteNoCopyMove : Sending PUnit := queueView site libuv.uvWrite buf (.ok ())

/-- `Stream::TryWrite`. -/
def streamTryWrite : Sending Bool := sendAtOnce site libuv.uvTryWrite buf

/-- `UdpSocket::Send`. -/
def udpSend (address : EndPoint) : Sending PUnit := queueCopy site (libuv.uvUdpSend address) buf

/-- `UdpSocket::SendNoCopy` with a callback that is copied. -/
def udpSendNoCopy (address : EndPoint) (cb : SendCallback) : Sending PUnit :=
  queueView site (libuv.uvUdpSend address) buf cb.copy

/-- `UdpSocket::SendNoCopy` with a callback that is moved. -/
def udpSendNoCopyMove (address : EndPoint) : Sending PUnit :=
  queueView site (libuv.uvUdpSend address) buf (.ok ())

/-- `UdpSocket::TrySend`. -/
def udpTrySend (address : EndPoint) : Sending Bool :=
  sendAtOnce site (libuv.uvUdpTrySend address) buf

end Code

/-- The calls that send a buffer. -/
inductive SendCall where
  | write
  | writeNoCopy (cb : SendCallback)
  | writeNoCopyMove
  | tryWrite
  | send (address : EndPoint)
  | sendNoCopy (address : EndPoint) (cb : SendCallback)
  | sendNoCopyMove (address : EndPoint)
  | trySend (address : EndPoint)

section Specification

def SendEvent.handed? : SendEvent → Option UvBuf
  | .handed desc => some desc
  | _ => none

def Throws {α : Type} (call : Sending α) : Prop := ∃ failure, call.run.value = .error failure

/-- The call throws, or hands one descriptor over, which has the length of the
buffer. -/
def KeepsLength {α : Type} (buf : BytesView) (call : Sending α) : Prop :=
  Throws call ∨
    ∃ desc, call.run.events.filterMap SendEvent.handed? = [desc] ∧
      desc.len.toNat = buf.data.length

variable (site : SendSite) (libuv : SendFunctions) (buf : BytesView)

/-- A call keeps the length of its buffer. -/
def SendCall.Keeps : SendCall → Prop
  | .write => KeepsLength buf (streamWrite site buf libuv)
  | .writeNoCopy cb => KeepsLength buf (streamWriteNoCopy site buf libuv cb)
  | .writeNoCopyMove => KeepsLength buf (streamWriteNoCopyMove site buf libuv)
  | .tryWrite => KeepsLength buf (streamTryWrite site buf libuv)
  | .send address => KeepsLength buf (udpSend site buf libuv address)
  | .sendNoCopy address cb => KeepsLength buf (udpSendNoCopy site buf libuv address cb)
  | .sendNoCopyMove address => KeepsLength buf (udpSendNoCopyMove site buf libuv address)
  | .trySend address => KeepsLength buf (udpTrySend site buf libuv address)

/-- There is no loop, or no room in its pool. -/
def SendSite.Lacks (room : LoopPool → Bool) : Prop :=
  ∀ pool, site.current = some pool → room pool = false

/-- A handle that is closed, a request or a copy that there is no room for, or an
error of libuv. -/
def RefusesCopy (uv : UvBuf → Int) : Prop :=
  site.closing = true ∨ site.Lacks LoopPool.request ∨ site.Lacks (·.buffer buf.size) ∨
    uv buf.desc < 0

/-- The same with a callback that cannot be copied instead. -/
def RefusesView (uv : UvBuf → Int) (assignCallback : Except ThrownException Unit) : Prop :=
  site.closing = true ∨ site.Lacks LoopPool.request ∨
    (∃ exception, assignCallback = .error exception) ∨ uv buf.desc < 0

/-- A handle that is closed, or an error other than that the call has to wait. -/
def RefusesAtOnce (uv : UvBuf → Int) : Prop :=
  site.closing = true ∨ uv buf.desc < 0 ∧ uv buf.desc ≠ UV_EAGAIN

/-- Something that the call throws for. -/
def SendCall.Refused : SendCall → Prop
  | .write => RefusesCopy site buf libuv.uvWrite
  | .writeNoCopy cb => RefusesView site buf libuv.uvWrite cb.copy
  | .writeNoCopyMove => RefusesView site buf libuv.uvWrite (.ok ())
  | .tryWrite => RefusesAtOnce site buf libuv.uvTryWrite
  | .send address => RefusesCopy site buf (libuv.uvUdpSend address)
  | .sendNoCopy address cb => RefusesView site buf (libuv.uvUdpSend address) cb.copy
  | .sendNoCopyMove address => RefusesView site buf (libuv.uvUdpSend address) (.ok ())
  | .trySend address => RefusesAtOnce site buf (libuv.uvUdpTrySend address)

end Specification

section Descriptors

variable (buf : BytesView)

/-- The 64 bits of a size hold the length of any buffer. -/
theorem BytesView.toNat_size : buf.size.toNat = buf.data.length :=
  Nat.mod_eq_of_lt buf.addressable

/-- The descriptor is the one that the stream writes. -/
theorem BytesView.desc_eq : buf.desc = uvBufInit buf.data := by
  have narrowed : buf.size.setWidth 32 = BitVec.ofNat 32 buf.data.length := by
    rw [← BitVec.ofNat_toNat, buf.toNat_size]
  rw [desc, uvBufInit, narrowed]

/-- A length survives the cast when it is below 4 GiB, and only then. -/
theorem BytesView.length_desc :
    buf.desc.len.toNat = buf.data.length ↔ buf.data.length < 2 ^ 32 := by
  rw [desc, BitVec.toNat_setWidth, buf.toNat_size]
  exact Nat.mod_eq_iff_lt (by decide)

/-- A buffer that is not empty has a size other than 0. -/
theorem BytesView.size_ne_zero {buf : BytesView} (present : 0 < buf.data.length) :
    buf.size ≠ 0 := by
  intro zero
  have length := buf.toNat_size
  rw [zero] at length
  exact absurd length (Nat.ne_of_lt present)

end Descriptors

section Steps

variable {α : Type} {buf : BytesView}

/-- A step that hands no descriptor over. -/
def HandsNothing (call : Sending α) : Prop := call.run.events.filterMap SendEvent.handed? = []

/-- A quiet step throws, or the length depends on what follows it. -/
theorem keepsLength_bind {first : Sending PUnit} (quiet : HandsNothing first)
    (next : PUnit → Sending α) :
    KeepsLength buf (first >>= next) ↔ Throws first ∨ KeepsLength buf (next ⟨⟩) := by
  cases ended : first.run.value with
  | error failure =>
    have run := Traced.run_bind_of_error ended next
    have throws : Throws (first >>= next) := ⟨failure, by rw [run]⟩
    exact iff_of_true (Or.inl throws) (Or.inl ⟨failure, ended⟩)
  | ok value =>
    have run := Traced.run_bind_of_ok ended next
    have returns : ¬ Throws first := by
      rintro ⟨failure, thrown⟩
      rw [ended] at thrown
      cases thrown
    rw [or_iff_right returns, KeepsLength, KeepsLength, Throws, Throws, run,
      List.filterMap_append, quiet, List.nil_append]

/-- What follows the descriptor throws, or its length is the one that counts. -/
theorem keepsLength_hand (uv : UvBuf → Int) (desc : UvBuf) {next : Int → Sending α}
    (quiet : HandsNothing (next (uv desc))) :
    KeepsLength buf (hand uv desc >>= next) ↔
      Throws (next (uv desc)) ∨ desc.len.toNat = buf.data.length := by
  have handed : (hand uv desc).run = ⟨[.handed desc], .ok (uv desc)⟩ := rfl
  have returned : (hand uv desc).run.value = .ok (uv desc) := by rw [handed]
  have run := Traced.run_bind_of_ok returned next
  rw [KeepsLength, Throws, run, handed, List.filterMap_append, quiet]
  simp [SendEvent.handed?, Throws]

/-- A call that throws at once. -/
theorem throws_throw (failure : SendFailure) : Throws (throw failure : Sending α) :=
  ⟨failure, rfl⟩

/-- A value does not throw. -/
theorem not_throws_pure (value : α) : ¬ Throws (pure value : Sending α) := by
  rintro ⟨failure, thrown⟩
  cases thrown

end Steps

section Guards

variable (site : SendSite)

/-- The check of the handle hands nothing to libuv, -/
theorem handsNothing_requireOpen : HandsNothing (requireOpen site) := by
  unfold requireOpen
  cases site.closing with
  | true => rfl
  | false => rfl

/-- and it throws exactly when the handle is closing. -/
theorem throws_requireOpen : Throws (requireOpen site) ↔ site.closing = true := by
  unfold requireOpen
  cases site.closing with
  | true => exact iff_of_true (throws_throw _) rfl
  | false => exact iff_of_false (not_throws_pure _) Bool.false_ne_true

/-- An allocation hands nothing over, -/
theorem handsNothing_allocate {event : SendEvent} (silent : event.handed? = none)
    (room : LoopPool → Bool) : HandsNothing (allocate site event room) := by
  unfold allocate
  cases site.current with
  | none => rfl
  | some pool =>
    cases enough : room pool with
    | true =>
      simp only [enough, if_true]
      exact List.filterMap_cons_none silent
    | false =>
      simp only [enough, Bool.false_eq_true, if_false]
      rfl

/-- and it throws exactly when the memory is missing. -/
theorem throws_allocate (event : SendEvent) (room : LoopPool → Bool) :
    Throws (allocate site event room) ↔ site.Lacks room := by
  unfold allocate SendSite.Lacks
  cases site.current with
  | none => exact iff_of_true (throws_throw _) nofun
  | some pool =>
    cases enough : room pool with
    | true =>
      simp only [enough, if_true]
      refine iff_of_false ?_ fun lacks => ?_
      · rintro ⟨failure, thrown⟩
        cases thrown
      · rw [lacks pool rfl] at enough
        cases enough
    | false =>
      simp only [enough, Bool.false_eq_true, if_false]
      refine iff_of_true (throws_throw _) ?_
      intro other same
      cases same
      exact enough

/-- The check of a code hands nothing over, -/
theorem handsNothing_checkCode (code : Int) : HandsNothing (checkCode code) := by
  unfold checkCode
  by_cases negative : code < 0
  · rw [if_pos negative]
    rfl
  · rw [if_neg negative]
    rfl

/-- and it throws exactly for a negative code. -/
theorem throws_checkCode (code : Int) : Throws (checkCode code) ↔ code < 0 := by
  unfold checkCode
  by_cases negative : code < 0
  · rw [if_pos negative]
    exact iff_of_true (throws_throw _) negative
  · rw [if_neg negative]
    exact iff_of_false (not_throws_pure _) negative

/-- The result of an attempt hands nothing over, -/
theorem handsNothing_attemptResult (r : Int) : HandsNothing (attemptResult r) := by
  unfold attemptResult
  split
  · rfl
  · split
    · rfl
    · rfl

/-- and it throws for any error but UV_EAGAIN. -/
theorem throws_attemptResult (r : Int) : Throws (attemptResult r) ↔ r < 0 ∧ r ≠ UV_EAGAIN := by
  unfold attemptResult
  by_cases sent : 0 ≤ r
  · rw [if_pos sent]
    exact iff_of_false (not_throws_pure _) fun failed => absurd sent (Int.not_le.mpr failed.1)
  · rw [if_neg sent]
    by_cases waits : r = UV_EAGAIN
    · rw [if_pos waits]
      exact iff_of_false (not_throws_pure _) fun failed => failed.2 waits
    · rw [if_neg waits]
      exact iff_of_true (throws_throw _) ⟨Int.not_le.mp sent, waits⟩

end Guards

section Calls

variable (site : SendSite) (uv : UvBuf → Int) (buf : BytesView)

/-- A descriptor that is queued, with the error of libuv checked afterwards. -/
theorem keepsLength_queue :
    KeepsLength buf (hand uv buf.desc >>= checkCode) ↔
      buf.data.length < 2 ^ 32 ∨ uv buf.desc < 0 := by
  rw [keepsLength_hand uv buf.desc (handsNothing_checkCode _), throws_checkCode, buf.length_desc,
    or_comm]

variable {buf} (present : 0 < buf.data.length)
include present

/-- A copy is handed over in its full length exactly when 32 bits hold it, or the call refuses
before. -/
theorem queueCopy_keeps :
    KeepsLength buf (queueCopy site uv buf) ↔
      buf.data.length < 2 ^ 32 ∨ RefusesCopy site buf uv := by
  have copies : ¬ Throws (report (.memcpy buf.size)) := by
    rintro ⟨failure, thrown⟩
    cases thrown
  rw [queueCopy, keepsLength_bind (handsNothing_requireOpen site), throws_requireOpen,
    if_neg (BytesView.size_ne_zero present), newRequest,
    keepsLength_bind (handsNothing_allocate site rfl _), throws_allocate, allocBuffer,
    keepsLength_bind (handsNothing_allocate site rfl _), throws_allocate,
    keepsLength_bind (by rfl), or_iff_right copies, keepsLength_queue, RefusesCopy]
  tauto

/-- So is a view, whose callback may be refused as well. -/
theorem queueView_keeps (assignCallback : Except ThrownException Unit) :
    KeepsLength buf (queueView site uv buf assignCallback) ↔
      buf.data.length < 2 ^ 32 ∨ RefusesView site buf uv assignCallback := by
  cases assignCallback with
  | error exception =>
    have throws : KeepsLength buf (throw (.thrown exception) : Sending PUnit) :=
      Or.inl (throws_throw _)
    have refused : RefusesView site buf uv (.error exception) :=
      Or.inr (Or.inr (Or.inl ⟨exception, rfl⟩))
    rw [queueView, keepsLength_bind (handsNothing_requireOpen site),
      if_neg (BytesView.size_ne_zero present), newRequest,
      keepsLength_bind (handsNothing_allocate site rfl _)]
    exact iff_of_true (Or.inr (Or.inr throws)) (Or.inr refused)
  | ok _ =>
    have assigned :
        ¬ ∃ exception, Except.ok () = (.error exception : Except ThrownException Unit) := nofun
    rw [queueView, keepsLength_bind (handsNothing_requireOpen site), throws_requireOpen,
      if_neg (BytesView.size_ne_zero present), newRequest,
      keepsLength_bind (handsNothing_allocate site rfl _), throws_allocate, keepsLength_queue,
      RefusesView, or_iff_right assigned]
    tauto

/-- And so is what is sent at once. -/
theorem sendAtOnce_keeps :
    KeepsLength buf (sendAtOnce site uv buf) ↔
      buf.data.length < 2 ^ 32 ∨ RefusesAtOnce site buf uv := by
  rw [sendAtOnce, keepsLength_bind (handsNothing_requireOpen site), throws_requireOpen,
    if_neg (BytesView.size_ne_zero present),
    keepsLength_hand uv buf.desc (handsNothing_attemptResult _), throws_attemptResult,
    buf.length_desc, RefusesAtOnce]
  tauto

end Calls

/-- A call throws or hands the length of its buffer to libuv if and only if the
buffer is below 4 GiB or there is something that the call throws for. -/
theorem sendCall_keeps_iff (site : SendSite) (libuv : SendFunctions) (buf : BytesView)
    (call : SendCall) (present : 0 < buf.data.length) :
    call.Keeps site libuv buf ↔ buf.data.length < 2 ^ 32 ∨ call.Refused site libuv buf := by
  cases call with
  | write => exact queueCopy_keeps site libuv.uvWrite present
  | writeNoCopy cb => exact queueView_keeps site libuv.uvWrite present cb.copy
  | writeNoCopyMove => exact queueView_keeps site libuv.uvWrite present (.ok ())
  | tryWrite => exact sendAtOnce_keeps site libuv.uvTryWrite present
  | send address => exact queueCopy_keeps site (libuv.uvUdpSend address) present
  | sendNoCopy address cb => exact queueView_keeps site (libuv.uvUdpSend address) present cb.copy
  | sendNoCopyMove address => exact queueView_keeps site (libuv.uvUdpSend address) present (.ok ())
  | trySend address => exact sendAtOnce_keeps site (libuv.uvUdpTrySend address) present

section Examples

/-- An open handle on a thread with a loop that has room for everything. -/
def openSite : SendSite := ⟨false, some ⟨true, fun _ => true⟩⟩

/-- libuv takes everything; an attempt reports the length of the descriptor. -/
def accepting : SendFunctions where
  uvWrite _ := 0
  uvTryWrite desc := desc.len.toNat
  uvUdpSend _ _ := 0
  uvUdpTrySend _ desc := desc.len.toNat

def twoBytes : BytesView := ⟨[65, 66], by decide⟩

/-- A buffer of 4 GiB. -/
def fourGiB : BytesView := ⟨List.replicate (2 ^ 32) 0, by rw [List.length_replicate]; decide⟩

/-- Two bytes are handed over in full. -/
theorem write_keeps_twoBytes : SendCall.write.Keeps openSite accepting twoBytes :=
  (sendCall_keeps_iff openSite accepting twoBytes .write (by decide)).mpr (Or.inl (by decide))

/-- The attempt to write 4 GiB hands a length of zero over and reports success. -/
theorem tryWrite_shortens :
    0 < fourGiB.data.length ∧ ¬ SendCall.tryWrite.Keeps openSite accepting fourGiB := by
  have length : fourGiB.data.length = 2 ^ 32 := List.length_replicate
  have present : 0 < fourGiB.data.length := by rw [length]; decide
  refine ⟨present, ?_⟩
  intro keeps
  rcases (sendAtOnce_keeps openSite accepting.uvTryWrite present).mp keeps with small | refused
  · rw [length] at small
    exact Nat.lt_irrefl _ small
  · rcases refused with closing | ⟨negative, _⟩
    · cases closing
    · exact absurd negative (Int.not_lt.mpr (Int.natCast_nonneg _))

end Examples

end MoeUV
