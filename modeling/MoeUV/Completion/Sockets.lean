import MoeUV.Failure
import MoeUV.EndPoint.Sockaddr
import MoeUV.Handle.Holding

/-!
# The completion handlers of the sockets

`Stream`, `UdpSocket`, `Pipe` and `TcpSocket` hand requests to libuv and are called
back when a request completes, when a buffer was filled or could not be, and when a
connection came in. The DNS queries do the same without a handle. The memory of a
request, and of the copy of the data it refers to, belongs to the request object;
a receive buffer belongs to whoever has its address last.

A handler calls back into the program up to two times. It is cut at these places:
what it does up to its first callback is one step of the loop, and what it does
after a callback, which returned or threw, is another. In between the program may do
what it can do elsewhere. libuv runs one handler at a time, and it calls the handler that
takes a receive buffer right after it has asked for the buffer.

Some components are there for the record, and no operation reads them: what became
of each block, which callbacks were called, and the handles whose error has been
dealt with.
-/

namespace MoeUV

open Foundation.Execution

variable {Callback : Type}

def UV_EOF : Int := -4095

/-- A request object or buffer, named by the order of its allocation. -/
abbrev BlockId := Nat

/-- The callback members of the socket classes. `UdpSocket` has the first and the
third, `Stream` the first four, `Pipe` also `m_pOnConnect`, and `TcpSocket` all. -/
inductive Member where
  | onError
  | onShutdown
  | onData
  | onEof
  | onConnect
  | onConnection
deriving DecidableEq

/-- The callbacks that a wrapper carries. -/
abbrev Members (Callback : Type) := Member → Option Callback

/-- What libuv was asked to do. -/
inductive Operation where
  | shutdown (handle : HandleId)
  | write (handle : HandleId)
  | send (handle : HandleId)
  | pipeConnect (handle : HandleId)
  | tcpConnect (handle : HandleId)
  | getAddrInfo
  | getNameInfo
deriving DecidableEq

/-- `request->handle` -/
def Operation.handle : Operation → Option HandleId
  | .shutdown handle | .write handle | .send handle | .pipeConnect handle | .tcpConnect handle =>
    some handle
  | .getAddrInfo | .getNameInfo => none

/-- A request that libuv has accepted. -/
structure Pending (Callback : Type) where
  operation : Operation
  object : BlockId
  /-- `CopiedBuffer` -/
  buffer : Option BlockId
  /-- `request->data` -/
  data : Option BlockId
  callback : Option Callback

/-- A `uv_buf_t` that libuv may fill; without memory if the allocation failed. -/
structure Lent where
  handle : HandleId
  base : Option BlockId
deriving DecidableEq

inductive Holder where
  | call
  | libuv
  | handler
deriving DecidableEq

/-- What becomes of a block: libuv takes it or does not, and somebody releases it. -/
inductive BlockEvent where
  | refused (block : BlockId)
  | accepted (block : BlockId)
  | released (block : BlockId) (holder : Holder)
deriving DecidableEq

def BlockEvent.block : BlockEvent → BlockId
  | .refused block | .accepted block | .released block _ => block

/-- Where a handler goes on after the callback it waits for. -/
inductive Point where
  /-- Nothing is left to do. -/
  | done
  /-- After `OnWrite` or `OnSend`, in case of an error. -/
  | completion (handle : HandleId) (self : Pointer) (status : Int)
  /-- After `OnError`, whose exceptions have been caught. -/
  | error (handle : HandleId) (self : Pointer)
  /-- After `OnError`, inside the `try` block that the callback was called in. -/
  | errorInTry (handle : HandleId) (self : Pointer)
deriving DecidableEq

/-- A handler that waits for a callback, and the blocks it owns meanwhile. -/
structure Frame where
  owned : List BlockId
  point : Point
deriving DecidableEq

structure UserCall (Callback : Type) where
  callback : Callback
  argument : Option Int

structure Sockets (Callback : Type) where
  heap : Heap
  members : Pointer → Members Callback
  pending : List (Pending Callback)
  lent : List Lent
  frame : Option Frame
  /-- The next block to be allocated. -/
  memory : BlockId
  log : List BlockEvent
  calls : List (UserCall Callback)
  failed : List HandleId

/-- The blocks that libuv has for a request. -/
def Pending.blocks (request : Pending Callback) : List BlockId :=
  request.object :: request.buffer.toList

/-- `owner.reset(static_cast<...>(request->data))` -/
def Pending.owner (request : Pending Callback) : List BlockId :=
  match request.data with
  | none => []
  | some object => object :: request.buffer.toList

namespace Sockets

def initial : Sockets Callback where
  heap := Heap.loopInit
  members _ _ := none
  pending := []
  lent := []
  frame := none
  memory := 0
  log := []
  calls := []
  failed := []

variable (sockets : Sockets Callback)

section Calls

/-- From `MOE_UV_NEW` to the end of a call. What libuv refuses is released while the
exception leaves the call, and otherwise `data` takes the object over. -/
def submit (operation : Operation) (copied : Bool) (callback : Option Callback) (code : Int) :
    Outcome × Sockets Callback :=
  let object := sockets.memory
  let buffer := if copied then some (sockets.memory + 1) else none
  let blocks := object :: buffer.toList
  let sockets := { sockets with memory := sockets.memory + blocks.length }
  if code < 0 then
    (.threw (uvThrow code), { sockets with
      log := sockets.log ++ blocks.map .refused ++ blocks.map (.released · .call) })
  else
    (.returned, { sockets with
      log := sockets.log ++ blocks.map .accepted
      pending := sockets.pending ++ [⟨operation, object, buffer, some object, callback⟩] })

/-- `MOE_UV_GET_HANDLE`, and what the call does with the handle. -/
def withHandle (self : Pointer) (body : HandleId → Outcome × Sockets Callback) :
    Except Fault (Outcome × Sockets Callback) := do
  let wrapper ← sockets.heap.wrapper self
  if ← sockets.heap.isClosing wrapper then
    pure (.threw (.invalidCall "Handle is already disposed"), sockets)
  else
    match wrapper.handle with
    | none => throw .nullHandle
    | some handle => pure (body handle)

/-- `Stream::Shutdown`. -/
def shutdown (self : Pointer) (code : Int) :=
  sockets.withHandle self fun handle => sockets.submit (.shutdown handle) false none code

/-- `Stream::Write`. -/
def write (self : Pointer) (size : Nat) (code : Int) :=
  sockets.withHandle self fun handle =>
    if size = 0 then (.returned, sockets) else sockets.submit (.write handle) true none code

/-- `Stream::WriteNoCopy`. -/
def writeNoCopy (self : Pointer) (size : Nat) (callback : Option Callback) (code : Int) :=
  sockets.withHandle self fun handle =>
    if size = 0 then (.threw (.badArgument "Buffer is empty"), sockets)
    else sockets.submit (.write handle) false callback code

/-- `UdpSocket::Send`. -/
def send (self : Pointer) (size : Nat) (code : Int) :=
  sockets.withHandle self fun handle =>
    if size = 0 then (.returned, sockets) else sockets.submit (.send handle) true none code

/-- `UdpSocket::SendNoCopy`. -/
def sendNoCopy (self : Pointer) (size : Nat) (callback : Option Callback) (code : Int) :=
  sockets.withHandle self fun handle =>
    if size = 0 then (.threw (.badArgument "Buffer is empty"), sockets)
    else sockets.submit (.send handle) false callback code

/-- `TcpSocket::Connect`. -/
def tcpConnect (self : Pointer) (code : Int) :=
  sockets.withHandle self fun handle => sockets.submit (.tcpConnect handle) false none code

/-- `Pipe::Connect`; `uv_pipe_connect` returns nothing. -/
def pipeConnect (self : Pointer) :=
  sockets.withHandle self fun handle => sockets.submit (.pipeConnect handle) false none 0

/-- `Dns::Resolve` and `Dns::ResolveAll`, which differ in the member that holds the
callback. -/
def resolve (callback : Option Callback) (code : Int) :=
  sockets.submit .getAddrInfo false callback code

/-- `Dns::ReverseResolve`. -/
def reverseResolve (callback : Option Callback) (code : Int) :=
  sockets.submit .getNameInfo false callback code

/-- `Stream::OnUVAllocBuffer` and `UdpSocket::OnUVAllocBuffer`. -/
def onUVAllocBuffer (handle : HandleId) (granted : Bool) : Sockets Callback :=
  if granted then
    { sockets with
      memory := sockets.memory + 1
      log := sockets.log ++ [.accepted sockets.memory]
      lent := sockets.lent ++ [⟨handle, some sockets.memory⟩] }
  else { sockets with lent := sockets.lent ++ [⟨handle, none⟩] }

end Calls

section Parts

/-- A handler returns, and its unique pointers release what they own. -/
def leave (owned : List BlockId) (failed : Option HandleId) : Sockets Callback :=
  { sockets with
    frame := none
    log := sockets.log ++ owned.map (.released · .handler)
    failed := failed.toList ++ sockets.failed }

/-- A handler calls a callback and waits for it. -/
def await (callback : Callback) (argument : Option Int) (frame : Frame) : Sockets Callback :=
  { sockets with
    frame := some frame
    calls := sockets.calls ++ [⟨callback, argument⟩] }

/-- A handler is about to call a method of a wrapper on account of a handle. It is a
fault if no wrapper with that handle is there, even where another one is. -/
def invoke (self : Pointer) (handle : HandleId) : Except Fault Unit := do
  let wrapper ← sockets.heap.wrapper self
  if wrapper.handle = some handle then pure () else throw (.danglingWrapper self)

/-- `if (GetSelf(handle) == self) self->Close();` at the end of a handler. -/
def closeIfOwner (owned : List BlockId) (handle : HandleId) (self : Pointer) :
    Except Fault (Sockets Callback) := do
  if (← sockets.heap.getSelf handle) = some self then do
    sockets.invoke self handle
    let (_, heap) ← sockets.heap.close self
    pure ({ sockets with heap := heap }.leave owned (some handle))
  else pure (sockets.leave owned (some handle))

/-- `self->OnError(status);` and what follows it. -/
def onError (owned : List BlockId) (handle : HandleId) (self : Pointer) (status : Int)
    (point : Point) : Except Fault (Sockets Callback) := do
  sockets.invoke self handle
  match sockets.members self .onError with
  | none => sockets.closeIfOwner owned handle self
  | some callback => pure (sockets.await callback (some status) ⟨owned, point⟩)

/-- A member that is the last one to be called. -/
def notify (member : Member) (owned : List BlockId) (handle : HandleId) (self : Pointer)
    (argument : Option Int) : Except Fault (Sockets Callback) := do
  sockets.invoke self handle
  match sockets.members self member with
  | none => pure (sockets.leave owned none)
  | some callback => pure (sockets.await callback argument ⟨owned, .done⟩)

/-- The handle whose error a handler is called for. -/
def errorOf (handle : HandleId) (failing : Bool) : Option HandleId :=
  if failing then some handle else none

/-- The handlers that report the status zero to one member and any other to
`OnError`. -/
def onStatus (member : Member) (owned : List BlockId) (handle : HandleId) (status : Int) :
    Except Fault (Sockets Callback) := do
  match ← sockets.heap.getSelf handle with
  | none => pure (sockets.leave owned (errorOf handle (status ≠ 0)))
  | some self =>
    if status ≠ 0 then sockets.onError owned handle self status (.error handle self)
    else sockets.notify member owned handle self none

/-- The rest of `OnUVWrite` and `OnUVSend` after the callback of the request, when
that failed. -/
def afterCompletion (owned : List BlockId) (handle : HandleId) (self : Pointer) (status : Int) :
    Except Fault (Sockets Callback) := do
  if (← sockets.heap.getSelf handle) = some self then
    sockets.onError owned handle self status (.error handle self)
  else pure (sockets.leave owned (some handle))

/-- The handlers of requests that have a callback of their own. -/
def onCompletion (callback : Option Callback) (owned : List BlockId) (handle : HandleId)
    (status : Int) : Except Fault (Sockets Callback) := do
  match ← sockets.heap.getSelf handle with
  | none => pure (sockets.leave owned (errorOf handle (status ≠ 0)))
  | some self =>
    if status ≠ 0 then
      match callback with
      | none => sockets.afterCompletion owned handle self status
      | some callback => pure (sockets.await callback (some status)
          ⟨owned, .completion handle self status⟩)
    else
      match callback with
      | none => pure (sockets.leave owned none)
      | some callback => pure (sockets.await callback (some 0) ⟨owned, .done⟩)

/-- The handlers of the DNS queries, which only have the callback of the request. -/
def onQuery (callback : Option Callback) (owned : List BlockId) (status : Int) :
    Sockets Callback :=
  match callback with
  | none => sockets.leave owned none
  | some callback => sockets.await callback (some status) ⟨owned, .done⟩

end Parts

section Handlers

/-- `Stream::OnUVShutdown`. -/
def onUVShutdown (request : Pending Callback) (handle : HandleId) (status : Int) :=
  sockets.onStatus .onShutdown request.owner handle status

/-- `Stream::OnUVWrite`. -/
def onUVWrite (request : Pending Callback) (handle : HandleId) (status : Int) :=
  sockets.onCompletion request.callback request.owner handle status

/-- `UdpSocket::OnUVSend`. -/
def onUVSend (request : Pending Callback) (handle : HandleId) (status : Int) :=
  sockets.onCompletion request.callback request.owner handle status

/-- `Pipe::OnUVConnect`. -/
def pipeOnUVConnect (request : Pending Callback) (handle : HandleId) (status : Int) :=
  sockets.onStatus .onConnect request.owner handle status

/-- `TcpSocket::OnUVConnect`, which leaves it to the callback to look at the status. -/
def tcpOnUVConnect (request : Pending Callback) (handle : HandleId) (status : Int) :
    Except Fault (Sockets Callback) := do
  match ← sockets.heap.getSelf handle with
  | none => pure (sockets.leave request.owner none)
  | some self => sockets.notify .onConnect request.owner handle self (some status)

/-- `TcpSocket::OnUVConnection`. -/
def onUVConnection (handle : HandleId) (status : Int) :=
  sockets.onStatus .onConnection [] handle status

/-- `Stream::OnUVRead`. The buffer finds an owner only after the check for the
wrapper, and the `try` block reaches to the end of the error handling. -/
def onUVRead (handle : HandleId) (base : Option BlockId) (nread : Int) :
    Except Fault (Sockets Callback) := do
  match ← sockets.heap.getSelf handle with
  | none => pure (sockets.leave [] (errorOf handle (nread < 0 ∧ nread ≠ UV_EOF)))
  | some self =>
    let owned := base.toList
    if nread < 0 then
      if nread = UV_EOF then sockets.notify .onEof owned handle self none
      else sockets.onError owned handle self nread (.errorInTry handle self)
    else if nread > 0 then sockets.notify .onData owned handle self (some nread)
    else pure (sockets.leave owned none)

/-- `UV_UDP_PARTIAL` -/
def UV_UDP_PARTIAL : Nat := 2

/-- `UdpSocket::OnUVRecv`. The buffer finds an owner only after the check for the
wrapper; packets that cannot be handled are dropped. -/
def onUVRecv (handle : HandleId) (base : Option BlockId) (nread : Int) (family : BitVec 16)
    (flags : Nat) : Except Fault (Sockets Callback) := do
  match ← sockets.heap.getSelf handle with
  | none => pure (sockets.leave [] (errorOf handle (nread < 0)))
  | some self =>
    let owned := base.toList
    if nread < 0 then sockets.onError owned handle self nread (.error handle self)
    else if nread > 0 then
      if flags = UV_UDP_PARTIAL ∨ ¬ (family = AF_INET ∨ family = AF_INET6) then
        pure (sockets.leave owned none)
      else sockets.notify .onData owned handle self (some nread)
    else pure (sockets.leave owned none)

/-- `UVGetAddrInfoReq::Callback`, with the status that it reports. -/
def uvGetAddrInfoReqCallback (request : Pending Callback) (status : Int) : Sockets Callback :=
  sockets.onQuery request.callback request.owner status

/-- `UVGetNameInfoReq::Callback`. -/
def uvGetNameInfoReqCallback (request : Pending Callback) (status : Int) : Sockets Callback :=
  sockets.onQuery request.callback request.owner status

/-- libuv completes a request. -/
def complete (request : Pending Callback) (status : Int) : Except Fault (Sockets Callback) :=
  match request.operation with
  | .shutdown handle => sockets.onUVShutdown request handle status
  | .write handle => sockets.onUVWrite request handle status
  | .send handle => sockets.onUVSend request handle status
  | .pipeConnect handle => sockets.pipeOnUVConnect request handle status
  | .tcpConnect handle => sockets.tcpOnUVConnect request handle status
  | .getAddrInfo => pure (sockets.uvGetAddrInfoReqCallback request status)
  | .getNameInfo => pure (sockets.uvGetNameInfoReqCallback request status)

/-- A handler goes on after its callback, which returned or threw. All exceptions are
caught, most of them right after the callback. -/
def resume (frame : Frame) (threw : Bool) : Except Fault (Sockets Callback) :=
  match frame.point with
  | .done => pure (sockets.leave frame.owned none)
  | .completion handle self status => sockets.afterCompletion frame.owned handle self status
  | .error handle self => sockets.closeIfOwner frame.owned handle self
  | .errorInTry handle self =>
    if threw then pure (sockets.leave frame.owned (some handle))
    else sockets.closeIfOwner frame.owned handle self

end Handlers

end Sockets

/-- The callbacks of the wrappers after an operation. A moved `std::function` is taken
to be empty. -/
def Action.carry (members : Pointer → Members Callback) : Action → Pointer → Members Callback
  | .construct self _ => Function.update members self fun _ => none
  | .moveConstruct self org =>
    Function.update (Function.update members self (members org)) org fun _ => none
  | .moveAssign self org =>
    if self = org then members
    else Function.update (Function.update members self (members org)) org fun _ => none
  | _ => members

/-- The calls of the program that hand libuv a request. -/
inductive Call (Callback : Type) where
  | shutdown (self : Pointer) (code : Int)
  | write (self : Pointer) (size : Nat) (code : Int)
  | writeNoCopy (self : Pointer) (size : Nat) (callback : Option Callback) (code : Int)
  | send (self : Pointer) (size : Nat) (code : Int)
  | sendNoCopy (self : Pointer) (size : Nat) (callback : Option Callback) (code : Int)
  | tcpConnect (self : Pointer) (code : Int)
  | pipeConnect (self : Pointer)
  | resolve (callback : Option Callback) (code : Int)
  | reverseResolve (callback : Option Callback) (code : Int)

def Call.run (sockets : Sockets Callback) :
    Call Callback → Except Fault (Outcome × Sockets Callback)
  | .shutdown self code => sockets.shutdown self code
  | .write self size code => sockets.write self size code
  | .writeNoCopy self size callback code => sockets.writeNoCopy self size callback code
  | .send self size code => sockets.send self size code
  | .sendNoCopy self size callback code => sockets.sendNoCopy self size callback code
  | .tcpConnect self code => sockets.tcpConnect self code
  | .pipeConnect self => sockets.pipeConnect self
  | .resolve callback code => pure (sockets.resolve callback code)
  | .reverseResolve callback code => pure (sockets.reverseResolve callback code)

/-- The wrapper that a call is made on. -/
def Call.self : Call Callback → Option Pointer
  | .shutdown self _ | .write self _ _ | .writeNoCopy self _ _ _ | .send self _ _
  | .sendNoCopy self _ _ _ | .tcpConnect self _ | .pipeConnect self => some self
  | .resolve _ _ | .reverseResolve _ _ => none

/-- The steps of the program and of libuv. -/
inductive SocketAction (Callback : Type) where
  | operate (action : Action)
  | setCallback (self : Pointer) (member : Member) (callback : Option Callback)
  | submit (call : Call Callback)
  | allocBuffer (handle : HandleId) (granted : Bool)
  | complete (index : Nat) (status : Int)
  | read (index : Nat) (nread : Int)
  | receive (index : Nat) (nread : Int) (family : BitVec 16) (flags : Nat)
  | connection (handle : HandleId) (status : Int)
  | resume (threw : Bool)

def SocketAction.run (sockets : Sockets Callback) :
    SocketAction Callback → Except Fault (Sockets Callback)
  | .operate action => do
    let heap ← action.run sockets.heap
    pure { sockets with heap := heap, members := action.carry sockets.members }
  | .setCallback self member callback =>
    pure { sockets with
      members := Function.update sockets.members self
        (Function.update (sockets.members self) member callback) }
  | .submit call => do
    let (_, sockets) ← call.run sockets
    pure sockets
  | .allocBuffer handle granted => pure (sockets.onUVAllocBuffer handle granted)
  | .complete index status =>
    match sockets.pending[index]? with
    | none => pure sockets
    | some request =>
      { sockets with pending := sockets.pending.eraseIdx index }.complete request status
  | .read index nread =>
    match sockets.lent[index]? with
    | none => pure sockets
    | some buf =>
      { sockets with lent := sockets.lent.eraseIdx index }.onUVRead buf.handle buf.base nread
  | .receive index nread family flags =>
    match sockets.lent[index]? with
    | none => pure sockets
    | some buf =>
      { sockets with lent := sockets.lent.eraseIdx index }.onUVRecv buf.handle buf.base nread
        family flags
  | .connection handle status => sockets.onUVConnection handle status
  | .resume threw =>
    match sockets.frame with
    | none => pure sockets
    | some frame => sockets.resume frame threw

/-- A handle that libuv may call back for. -/
def Heap.serves (heap : Heap) (id : HandleId) : Bool :=
  (heap.blocks id).any fun block => block.pooled && decide (block.phase ≠ .closed)

/-- A handle that libuv may read for: nobody has begun to close it, since `uv_close` stops
the reading. -/
def Heap.reads (heap : Heap) (id : HandleId) : Bool :=
  (heap.blocks id).any fun block => block.pooled && decide (block.phase = .opened)

/-- The buffer that a step of libuv returns. -/
def SocketAction.buffer : SocketAction Callback → Option Nat
  | .read index _ | .receive index _ _ _ => some index
  | _ => none

/-- libuv runs one handler at a time, completes every request of a handle before it
delivers the close of that handle, and asks for buffers for open handles only. -/
def SocketAction.Permitted (sockets : Sockets Callback) : SocketAction Callback → Prop
  | .operate action => action.Enabled sockets.heap ∧
      ∀ id ∈ action.delivered, sockets.frame = none ∧
        ∀ request ∈ sockets.pending, request.operation.handle ≠ some id
  | .setCallback self _ _ => (sockets.heap.wrappers self).isSome = true
  | .submit call => ∀ self ∈ call.self, (sockets.heap.wrappers self).isSome = true
  | .allocBuffer handle _ => sockets.frame = none ∧ sockets.heap.reads handle = true
  | .complete index _ => sockets.frame = none ∧ index < sockets.pending.length
  | .read index _ | .receive index _ _ _ => sockets.frame = none ∧ index < sockets.lent.length
  | .connection handle _ => sockets.frame = none ∧ sockets.heap.serves handle = true
  | .resume _ => sockets.frame ≠ none

/-- In libuv, the function that asks for a buffer is the one that returns it, with `read_cb`
or `recv_cb`, and it calls nothing else of the program in between. -/
def SocketAction.Enabled (sockets : Sockets Callback) (action : SocketAction Callback) : Prop :=
  (sockets.lent = [] ∨ action.buffer ≠ none) ∧ action.Permitted sockets

def socketSystem : System (Sockets Callback) (SocketAction Callback) Fault where
  enabled sockets action := action.Enabled sockets
  step sockets action := action.run sockets

instance SocketAction.decidablePermitted (sockets : Sockets Callback) :
    (action : SocketAction Callback) → Decidable (action.Permitted sockets)
  | .operate action => inferInstanceAs (Decidable (handleSystem.enabled sockets.heap action ∧
      ∀ id ∈ action.delivered, sockets.frame = none ∧
        ∀ request ∈ sockets.pending, request.operation.handle ≠ some id))
  | .setCallback self _ _ => inferInstanceAs
      (Decidable ((sockets.heap.wrappers self).isSome = true))
  | .submit call => inferInstanceAs
      (Decidable (∀ self ∈ call.self, (sockets.heap.wrappers self).isSome = true))
  | .allocBuffer handle _ => inferInstanceAs
      (Decidable (sockets.frame = none ∧ sockets.heap.reads handle = true))
  | .complete index _ => inferInstanceAs
      (Decidable (sockets.frame = none ∧ index < sockets.pending.length))
  | .read index _ | .receive index _ _ _ => inferInstanceAs
      (Decidable (sockets.frame = none ∧ index < sockets.lent.length))
  | .connection handle _ => inferInstanceAs
      (Decidable (sockets.frame = none ∧ sockets.heap.serves handle = true))
  | .resume _ => inferInstanceAs (Decidable (sockets.frame ≠ none))

instance SocketAction.decidableEnabled (sockets : Sockets Callback)
    (action : SocketAction Callback) : Decidable (socketSystem.enabled sockets action) :=
  inferInstanceAs (Decidable ((sockets.lent = [] ∨ action.buffer ≠ none) ∧
    action.Permitted sockets))

end MoeUV
