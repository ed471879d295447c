import MoeUV.Failure
import MoeUV.Handle.Holding

/-!
# Sending without a copy

`Stream::WriteNoCopy` and `UdpSocket::SendNoCopy` hand libuv a request that
carries the caller's callback and refers to the caller's buffer. The request
belongs to the handle, not to the wrapper, and libuv completes it exactly once:
at some time while the handle is open or, at the latest, just before it calls
the close callback. Then the completion handler of the request runs.

The handler calls back into the program up to two times. During a callback the
program may do whatever it can do elsewhere, but libuv delivers nothing else; the
handler goes on when the callback returns. Exceptions of the callbacks are caught.

Each request remembers the status that libuv delivered and those its callback was
given, and the handles that lost their wrapper are recorded. No operation reads
these.
-/

namespace MoeUV

open Foundation.Execution

variable {Callback : Type}

/-- `uv_write_t` or `uv_udp_send_t`. -/
inductive RequestKind where
  | write
  | send
deriving DecidableEq

/-- `UVWriteRequest` and `UVSendRequest`. -/
structure Request (Callback : Type) where
  kind : RequestKind
  handle : HandleId
  /-- `OnWrite` and `OnSend`. -/
  callback : Option Callback
  completed : Option Int
  invoked : List Int

/-- The callback that a completion handler waits for. -/
inductive HandlerPoint where
  | completion
  | error
deriving DecidableEq

/-- A completion handler between two of its statements. -/
structure Handler where
  handle : HandleId
  self : Pointer
  status : Int
  point : HandlerPoint

/-- The loop, the requests in the order of their calls, and the handler that the
loop thread is in. -/
structure Traffic (Callback : Type) where
  heap : Heap
  requests : List (Request Callback)
  handler : Option Handler
  /-- The handles whose holders were destroyed or assigned over. -/
  disowned : List HandleId

namespace Traffic

def initial : Traffic Callback := ⟨Heap.loopInit, [], none, []⟩

variable (traffic : Traffic Callback)

section Calls

/-- The calls differ in the kind of their requests only. The return code of libuv
is negative when it refuses the request. -/
def submit (kind : RequestKind) (self : Pointer) (size : Nat) (callback : Option Callback)
    (code : Int) : Except Fault (Outcome × Traffic Callback) := do
  let wrapper ← traffic.heap.wrapper self
  if ← traffic.heap.isClosing wrapper then
    pure (.threw (.invalidCall "Handle is already disposed"), traffic)
  else
    match wrapper.handle with
    | none => throw .nullHandle
    | some handle =>
      if size = 0 then pure (.threw (.badArgument "Buffer is empty"), traffic)
      else if code < 0 then pure (.threw (uvThrow code), traffic)
      else pure (.returned, { traffic with
        requests := traffic.requests ++ [⟨kind, handle, callback, none, []⟩] })

/-- `Stream::WriteNoCopy`. -/
def writeNoCopy (self : Pointer) (size : Nat) (callback : Option Callback) (code : Int) :
    Except Fault (Outcome × Traffic Callback) := traffic.submit .write self size callback code

/-- `UdpSocket::SendNoCopy`. -/
def sendNoCopy (self : Pointer) (size : Nat) (callback : Option Callback) (code : Int) :
    Except Fault (Outcome × Traffic Callback) := traffic.submit .send self size callback code

end Calls

section Handlers

/-- A completion handler up to its first callback: `MOE_UV_GET_SELF` returns when
the handle has no wrapper. -/
def onCompletion (index : Nat) (request : Request Callback) (status : Int) :
    Except Fault (Traffic Callback) := do
  match ← traffic.heap.getSelf request.handle with
  | none => pure { traffic with
      requests := traffic.requests.set index { request with completed := some status } }
  | some self =>
    let invoked := if request.callback.isSome then request.invoked ++ [status] else request.invoked
    pure { traffic with
      requests := traffic.requests.set index
        { request with completed := some status, invoked := invoked }
      handler := some ⟨request.handle, self, status, .completion⟩ }

/-- `Stream::OnUVWrite`. -/
def onUVWrite (index : Nat) (request : Request Callback) (status : Int) :
    Except Fault (Traffic Callback) := traffic.onCompletion index request status

/-- `UdpSocket::OnUVSend`. -/
def onUVSend (index : Nat) (request : Request Callback) (status : Int) :
    Except Fault (Traffic Callback) := traffic.onCompletion index request status

/-- The rest of a completion handler after the callback it waited for. Callbacks
may have taken the handle away from the wrapper, so this is checked again. -/
def resume (handler : Handler) : Except Fault (Traffic Callback) :=
  match handler.point with
  | .completion =>
    if handler.status = 0 then pure { traffic with handler := none }
    else do
      if (← traffic.heap.getSelf handler.handle) = some handler.self then
        pure { traffic with handler := some { handler with point := .error } }
      else pure { traffic with handler := none }
  | .error => do
    if (← traffic.heap.getSelf handler.handle) = some handler.self then do
      let (_, heap) ← traffic.heap.close handler.self
      pure { traffic with heap := heap, handler := none }
    else pure { traffic with handler := none }

end Handlers

end Traffic

/-- The steps of the program and of libuv. -/
inductive TrafficAction (Callback : Type) where
  | operate (action : Action)
  | writeNoCopy (self : Pointer) (size : Nat) (callback : Option Callback) (code : Int)
  | sendNoCopy (self : Pointer) (size : Nat) (callback : Option Callback) (code : Int)
  | complete (index : Nat) (status : Int)
  | resume

def TrafficAction.run (traffic : Traffic Callback) :
    TrafficAction Callback → Except Fault (Traffic Callback)
  | .operate action => do
    let heap ← action.run traffic.heap
    pure { traffic with
      heap := heap
      disowned := (action.disowned traffic.heap).toList ++ traffic.disowned }
  | .writeNoCopy self size callback code => do
    let (_, traffic) ← traffic.writeNoCopy self size callback code
    pure traffic
  | .sendNoCopy self size callback code => do
    let (_, traffic) ← traffic.sendNoCopy self size callback code
    pure traffic
  | .complete index status =>
    match traffic.requests[index]? with
    | none => pure traffic
    | some request =>
      match request.kind with
      | .write => traffic.onUVWrite index request status
      | .send => traffic.onUVSend index request status
  | .resume =>
    match traffic.handler with
    | none => pure traffic
    | some handler => traffic.resume handler

/-- libuv calls back into one handler at a time, completes each request once, and
delivers the close of a handle after the completions of its requests. -/
def TrafficAction.Enabled (traffic : Traffic Callback) : TrafficAction Callback → Prop
  | .operate action => action.Enabled traffic.heap ∧
      ∀ id ∈ action.delivered, traffic.handler.isNone = true ∧
        ∀ request ∈ traffic.requests, request.handle = id → request.completed ≠ none
  | .writeNoCopy self _ _ _ | .sendNoCopy self _ _ _ =>
    (traffic.heap.wrappers self).isSome = true
  | .complete index _ =>
    traffic.handler.isNone = true ∧ traffic.requests[index]?.map Request.completed = some none
  | .resume => traffic.handler.isSome = true

def trafficSystem : System (Traffic Callback) (TrafficAction Callback) Fault where
  enabled traffic action := action.Enabled traffic
  step traffic action := action.run traffic

instance (traffic : Traffic Callback) : (action : TrafficAction Callback) →
    Decidable (trafficSystem.enabled traffic action)
  | .operate action => inferInstanceAs (Decidable (handleSystem.enabled traffic.heap action ∧
      ∀ id ∈ action.delivered, traffic.handler.isNone = true ∧
        ∀ request ∈ traffic.requests, request.handle = id → request.completed ≠ none))
  | .writeNoCopy self _ _ _ | .sendNoCopy self _ _ _ =>
    inferInstanceAs (Decidable ((traffic.heap.wrappers self).isSome = true))
  | .complete index _ => inferInstanceAs (Decidable (traffic.handler.isNone = true ∧
      traffic.requests[index]?.map Request.completed = some none))
  | .resume => inferInstanceAs (Decidable (traffic.handler.isSome = true))

/-- A completion for a caller that waits for it finds the handle with its wrapper:
that was neither destroyed nor assigned over since the call. -/
def TrafficAction.FindsOwner (traffic : Traffic Callback) : TrafficAction Callback → Prop
  | .complete index _ => ∀ request ∈ traffic.requests[index]?, request.callback.isSome = true →
      request.handle ∉ traffic.disowned
  | _ => True

instance (traffic : Traffic Callback) : (action : TrafficAction Callback) →
    Decidable (action.FindsOwner traffic)
  | .complete index _ => inferInstanceAs (Decidable (∀ request ∈ traffic.requests[index]?,
      request.callback.isSome = true → request.handle ∉ traffic.disowned))
  | .operate _ | .writeNoCopy _ _ _ _ | .sendNoCopy _ _ _ _ | .resume =>
    inferInstanceAs (Decidable True)

end MoeUV
