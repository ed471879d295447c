import MoeUV.Completion.Sockets

/-!
# The wrapper classes

Nine classes derive from `AsyncHandle`, two of them by way of `Stream`. Each has members
of its own beside the handle: callbacks, and for a timer its times and for an event
handle its type. Each level writes its own move constructor and move assignment.

A method either sets a member or does its work on the handle, unless that is closing. A
handler of libuv calls some callbacks and may close the handle in the end, as long as
the wrapper it found at its entry owns the handle.
-/

namespace MoeUV.Transparency

def UV_EALREADY : Int := -114

/-- What a call gives back to the program. -/
inductive Answer where
  | nothing
  | boolean (value : Bool)
  | threw (failure : Failure)
deriving DecidableEq

/-- What a callback is called with. -/
inductive Argument where
  | number (value : Int)
  | bytes (content : List (BitVec 8))
deriving DecidableEq

inductive EventType where
  | prepare
  | idle
  | check
deriving DecidableEq

/-- The calls of libuv, with all they get but the handle. -/
inductive UvCall (Callback : Type) where
  | timerStart (timeout interval : BitVec 64)
  | timerStop
  | eventStart (type : EventType)
  | eventStop (type : EventType)
  | signalStart (signum : Int)
  | signalStop
  | fsEventStart (path : List (BitVec 8)) (flags : BitVec 32)
  | fsEventStop
  | pollStart (events : Int)
  | pollStop
  | asyncSend
  | readStart
  | readStop
  | udpRecvStart
  | udpRecvStop
  | udpSend (address data : List (BitVec 8)) (onSend : Option Callback)
  | shutdown
  | write (data : List (BitVec 8)) (onWrite : Option Callback)
  | pipeConnect (name : List (BitVec 8))
  | tcpConnect (address : List (BitVec 8))
  | listen (backlog : BitVec 32)
deriving DecidableEq

/-- What a method does on a handle that is not closing: it may return early, or call
libuv and look at the return code. -/
inductive Work (Callback : Type) where
  | skip (answer : Answer)
  | uv (call : UvCall Callback) (answer : Int → Answer)

/-- A method sets a member, or it returns or throws if the handle is closing and does its
work otherwise. -/
inductive Method (Members Callback : Type) where
  | assign (members : Members)
  | ask (closing : Answer) (work : Work Callback)

/-- A statement of a handler. -/
inductive Act (Members Callback : Type) where
  | call (callback : Members → Option Callback) (arguments : List Argument)
  | close

/-- A class over `AsyncHandle`. A move gives the members of the destination and those
that are left in the source. -/
structure WrapperClass (Callback : Type) where
  Members : Type
  Call : Type
  Event : Type
  moveConstruct : Members → Members × Members
  moveAssign : Members → Members → Members × Members
  method : Call → Members → Method Members Callback
  handler : Event → List (Act Members Callback)

variable {Callback : Type}

section Answers

/-- `MOE_UV_GET_HANDLE`. -/
def disposed : Answer := .threw (.invalidCall "Handle is already disposed")

/-- `MOE_UV_CHECK`. -/
def check (code : Int) : Answer := if code < 0 then .threw (uvThrow code) else .nothing

/-- `return ... == 0;` -/
def isZero (code : Int) : Answer := .boolean (decide (code = 0))

/-- `StartRead`, for which a read that goes on already is no error. -/
def checkStart (code : Int) : Answer := if code = UV_EALREADY then .nothing else check code

end Answers

structure Timer (Callback : Type) where
  firstTime : BitVec 64
  interval : BitVec 64
  onTime : Option Callback

namespace Timer

inductive Call (Callback : Type) where
  | start
  | stop
  | setFirstTime (t : BitVec 64)
  | setInterval (interval : BitVec 64)
  | setOnTimeCallback (cb : Option Callback)

def moveConstruct (org : Timer Callback) : Timer Callback × Timer Callback :=
  (⟨org.firstTime, org.interval, org.onTime⟩, { org with onTime := none })

def moveAssign (_ rhs : Timer Callback) : Timer Callback × Timer Callback :=
  (⟨rhs.firstTime, rhs.interval, rhs.onTime⟩, { rhs with onTime := none })

def start (timer : Timer Callback) : Method (Timer Callback) Callback :=
  .ask (.boolean false) (.uv (.timerStart timer.firstTime timer.interval) fun _ => .boolean true)

def stop : Method (Timer Callback) Callback := .ask .nothing (.uv .timerStop fun _ => .nothing)

def method : Call Callback → Timer Callback → Method (Timer Callback) Callback
  | .start, timer => timer.start
  | .stop, _ => stop
  | .setFirstTime t, timer => .assign { timer with firstTime := t }
  | .setInterval interval, timer => .assign { timer with interval := interval }
  | .setOnTimeCallback cb, timer => .assign { timer with onTime := cb }

def onUVTimer : List (Act (Timer Callback) Callback) := [.call Timer.onTime []]

def wrapperClass (Callback : Type) : WrapperClass Callback where
  Members := Timer Callback
  Call := Call Callback
  Event := Unit
  moveConstruct := moveConstruct
  moveAssign := moveAssign
  method := method
  handler _ := onUVTimer

end Timer

structure EventHandle (Callback : Type) where
  eventType : EventType
  onEvent : Option Callback

namespace EventHandle

inductive Call (Callback : Type) where
  | start
  | stop
  | setOnEventCallback (cb : Option Callback)

def moveConstruct (org : EventHandle Callback) : EventHandle Callback × EventHandle Callback :=
  (⟨org.eventType, org.onEvent⟩, { org with onEvent := none })

def moveAssign (_ rhs : EventHandle Callback) : EventHandle Callback × EventHandle Callback :=
  (⟨rhs.eventType, rhs.onEvent⟩, { rhs with onEvent := none })

def start (handle : EventHandle Callback) : Method (EventHandle Callback) Callback :=
  .ask disposed (.uv (.eventStart handle.eventType) check)

def stop (handle : EventHandle Callback) : Method (EventHandle Callback) Callback :=
  .ask (.boolean false) (.uv (.eventStop handle.eventType) isZero)

def method : Call Callback → EventHandle Callback → Method (EventHandle Callback) Callback
  | .start, handle => handle.start
  | .stop, handle => handle.stop
  | .setOnEventCallback cb, handle => .assign { handle with onEvent := cb }

/-- `OnUVPrepare`, `OnUVIdle` and `OnUVCheck`. -/
def onUVEvent : List (Act (EventHandle Callback) Callback) := [.call EventHandle.onEvent []]

def wrapperClass (Callback : Type) : WrapperClass Callback where
  Members := EventHandle Callback
  Call := Call Callback
  Event := EventType
  moveConstruct := moveConstruct
  moveAssign := moveAssign
  method := method
  handler _ := onUVEvent

end EventHandle

structure Signal (Callback : Type) where
  onSignal : Option Callback

namespace Signal

inductive Call (Callback : Type) where
  | start (signum : Int)
  | stop
  | setOnSignalCallback (cb : Option Callback)

def moveConstruct (org : Signal Callback) : Signal Callback × Signal Callback :=
  (⟨org.onSignal⟩, ⟨none⟩)

def moveAssign (_ rhs : Signal Callback) : Signal Callback × Signal Callback :=
  (⟨rhs.onSignal⟩, ⟨none⟩)

def method : Call Callback → Signal Callback → Method (Signal Callback) Callback
  | .start signum, _ => .ask disposed (.uv (.signalStart signum) check)
  | .stop, _ => .ask (.boolean false) (.uv .signalStop isZero)
  | .setOnSignalCallback cb, _ => .assign ⟨cb⟩

def onUVSignal (signum : Int) : List (Act (Signal Callback) Callback) :=
  [.call Signal.onSignal [.number signum]]

def wrapperClass (Callback : Type) : WrapperClass Callback where
  Members := Signal Callback
  Call := Call Callback
  Event := Int
  moveConstruct := moveConstruct
  moveAssign := moveAssign
  method := method
  handler := onUVSignal

end Signal

structure FsEvent (Callback : Type) where
  onEvent : Option Callback

namespace FsEvent

inductive Call (Callback : Type) where
  | start (path : List (BitVec 8)) (flags : BitVec 32)
  | stop
  | setOnEventCallback (cb : Option Callback)

structure Report where
  filename : List (BitVec 8)
  events : Int
  status : Int

def moveConstruct (org : FsEvent Callback) : FsEvent Callback × FsEvent Callback :=
  (⟨org.onEvent⟩, ⟨none⟩)

def moveAssign (_ rhs : FsEvent Callback) : FsEvent Callback × FsEvent Callback :=
  (⟨rhs.onEvent⟩, ⟨none⟩)

def method : Call Callback → FsEvent Callback → Method (FsEvent Callback) Callback
  | .start path flags, _ => .ask disposed (.uv (.fsEventStart path flags) check)
  | .stop, _ => .ask (.boolean false) (.uv .fsEventStop isZero)
  | .setOnEventCallback cb, _ => .assign ⟨cb⟩

def onUVEvent (report : Report) : List (Act (FsEvent Callback) Callback) :=
  [.call FsEvent.onEvent [.bytes report.filename, .number report.events, .number report.status]]

def wrapperClass (Callback : Type) : WrapperClass Callback where
  Members := FsEvent Callback
  Call := Call Callback
  Event := Report
  moveConstruct := moveConstruct
  moveAssign := moveAssign
  method := method
  handler := onUVEvent

end FsEvent

structure Poll (Callback : Type) where
  onEvent : Option Callback

namespace Poll

inductive Call (Callback : Type) where
  | start (events : Int)
  | stop
  | setOnEventCallback (cb : Option Callback)

structure Report where
  status : Int
  events : Int

def moveConstruct (org : Poll Callback) : Poll Callback × Poll Callback :=
  (⟨org.onEvent⟩, ⟨none⟩)

def moveAssign (_ rhs : Poll Callback) : Poll Callback × Poll Callback :=
  (⟨rhs.onEvent⟩, ⟨none⟩)

def method : Call Callback → Poll Callback → Method (Poll Callback) Callback
  | .start events, _ => .ask disposed (.uv (.pollStart events) check)
  | .stop, _ => .ask (.boolean false) (.uv .pollStop isZero)
  | .setOnEventCallback cb, _ => .assign ⟨cb⟩

def onUVEvent (report : Report) : List (Act (Poll Callback) Callback) :=
  [.call Poll.onEvent [.number report.status, .number report.events]]

def wrapperClass (Callback : Type) : WrapperClass Callback where
  Members := Poll Callback
  Call := Call Callback
  Event := Report
  moveConstruct := moveConstruct
  moveAssign := moveAssign
  method := method
  handler := onUVEvent

end Poll

structure AsyncNotifier (Callback : Type) where
  onAsync : Option Callback

namespace AsyncNotifier

inductive Call (Callback : Type) where
  | notify
  | setOnAsyncCallback (cb : Option Callback)

def moveConstruct (org : AsyncNotifier Callback) :
    AsyncNotifier Callback × AsyncNotifier Callback :=
  (⟨org.onAsync⟩, ⟨none⟩)

def moveAssign (_ rhs : AsyncNotifier Callback) :
    AsyncNotifier Callback × AsyncNotifier Callback :=
  (⟨rhs.onAsync⟩, ⟨none⟩)

def method : Call Callback → AsyncNotifier Callback → Method (AsyncNotifier Callback) Callback
  | .notify, _ => .ask disposed (.uv .asyncSend check)
  | .setOnAsyncCallback cb, _ => .assign ⟨cb⟩

def onUVAsync : List (Act (AsyncNotifier Callback) Callback) := [.call AsyncNotifier.onAsync []]

def wrapperClass (Callback : Type) : WrapperClass Callback where
  Members := AsyncNotifier Callback
  Call := Call Callback
  Event := Unit
  moveConstruct := moveConstruct
  moveAssign := moveAssign
  method := method
  handler _ := onUVAsync

end AsyncNotifier

structure UdpSocket (Callback : Type) where
  onError : Option Callback
  onData : Option Callback

namespace UdpSocket

inductive Call (Callback : Type) where
  | startRead
  | stopRead
  | send (address data : List (BitVec 8))
  | sendNoCopy (address data : List (BitVec 8)) (cb : Option Callback)
  | setOnErrorCallback (cb : Option Callback)
  | setOnDataCallback (cb : Option Callback)

inductive Event (Callback : Type) where
  | send (onSend : Option Callback) (status : Int)
  | recv (data : List (BitVec 8)) (nread : Int) (addr : List (BitVec 8)) (family : BitVec 16)
    (flags : Nat)

def moveConstruct (org : UdpSocket Callback) : UdpSocket Callback × UdpSocket Callback :=
  (⟨org.onError, org.onData⟩, ⟨none, none⟩)

def moveAssign (_ rhs : UdpSocket Callback) : UdpSocket Callback × UdpSocket Callback :=
  (⟨rhs.onError, rhs.onData⟩, ⟨none, none⟩)

def method : Call Callback → UdpSocket Callback → Method (UdpSocket Callback) Callback
  | .startRead, _ => .ask disposed (.uv .udpRecvStart checkStart)
  | .stopRead, _ => .ask (.boolean true) (.uv .udpRecvStop isZero)
  | .send address data, _ => .ask disposed
      (if data.length = 0 then .skip .nothing else .uv (.udpSend address data none) check)
  | .sendNoCopy address data cb, _ => .ask disposed
      (if data.length = 0 then .skip (.threw (.badArgument "Buffer is empty"))
        else .uv (.udpSend address data cb) check)
  | .setOnErrorCallback cb, udp => .assign { udp with onError := cb }
  | .setOnDataCallback cb, udp => .assign { udp with onData := cb }

def onUVSend (onSend : Option Callback) (status : Int) : List (Act (UdpSocket Callback) Callback) :=
  if status ≠ 0 then
    [.call (fun _ => onSend) [.number status], .call UdpSocket.onError [.number status], .close]
  else [.call (fun _ => onSend) [.number 0]]

def onUVRecv (data : List (BitVec 8)) (nread : Int) (addr : List (BitVec 8)) (family : BitVec 16)
    (flags : Nat) : List (Act (UdpSocket Callback) Callback) :=
  if nread < 0 then [.call UdpSocket.onError [.number nread], .close]
  else if nread > 0 then
    if flags = Sockets.UV_UDP_PARTIAL ∨ ¬ (family = AF_INET ∨ family = AF_INET6) then []
    else [.call UdpSocket.onData [.bytes addr, .bytes (data.take nread.toNat)]]
  else []

def handler : Event Callback → List (Act (UdpSocket Callback) Callback)
  | .send onSend status => onUVSend onSend status
  | .recv data nread addr family flags => onUVRecv data nread addr family flags

def wrapperClass (Callback : Type) : WrapperClass Callback where
  Members := UdpSocket Callback
  Call := Call Callback
  Event := Event Callback
  moveConstruct := moveConstruct
  moveAssign := moveAssign
  method := method
  handler := handler

end UdpSocket

structure Stream (Callback : Type) where
  onError : Option Callback
  onShutdown : Option Callback
  onData : Option Callback
  onEof : Option Callback

namespace Stream

inductive Call (Callback : Type) where
  | startRead
  | stopRead
  | shutdown
  | write (data : List (BitVec 8))
  | writeNoCopy (data : List (BitVec 8)) (cb : Option Callback)
  | setOnErrorCallback (cb : Option Callback)
  | setOnShutdownCallback (cb : Option Callback)
  | setOnDataCallback (cb : Option Callback)
  | setOnEofCallback (cb : Option Callback)

inductive Event (Callback : Type) where
  | shutdown (status : Int)
  | write (onWrite : Option Callback) (status : Int)
  | read (data : List (BitVec 8)) (nread : Int)

def moveConstruct (org : Stream Callback) : Stream Callback × Stream Callback :=
  (⟨org.onError, org.onShutdown, org.onData, org.onEof⟩, ⟨none, none, none, none⟩)

def moveAssign (_ rhs : Stream Callback) : Stream Callback × Stream Callback :=
  (⟨rhs.onError, rhs.onShutdown, rhs.onData, rhs.onEof⟩, ⟨none, none, none, none⟩)

def method : Call Callback → Stream Callback → Method (Stream Callback) Callback
  | .startRead, _ => .ask disposed (.uv .readStart checkStart)
  | .stopRead, _ => .ask (.boolean true) (.uv .readStop isZero)
  | .shutdown, _ => .ask disposed (.uv .shutdown check)
  | .write data, _ => .ask disposed
      (if data.length = 0 then .skip .nothing else .uv (.write data none) check)
  | .writeNoCopy data cb, _ => .ask disposed
      (if data.length = 0 then .skip (.threw (.badArgument "Buffer is empty"))
        else .uv (.write data cb) check)
  | .setOnErrorCallback cb, stream => .assign { stream with onError := cb }
  | .setOnShutdownCallback cb, stream => .assign { stream with onShutdown := cb }
  | .setOnDataCallback cb, stream => .assign { stream with onData := cb }
  | .setOnEofCallback cb, stream => .assign { stream with onEof := cb }

def onUVShutdown (status : Int) : List (Act (Stream Callback) Callback) :=
  if status ≠ 0 then [.call Stream.onError [.number status], .close]
  else [.call Stream.onShutdown []]

def onUVWrite (onWrite : Option Callback) (status : Int) : List (Act (Stream Callback) Callback) :=
  if status ≠ 0 then
    [.call (fun _ => onWrite) [.number status], .call Stream.onError [.number status], .close]
  else [.call (fun _ => onWrite) [.number 0]]

def onUVRead (data : List (BitVec 8)) (nread : Int) : List (Act (Stream Callback) Callback) :=
  if nread < 0 then
    if nread = UV_EOF then [.call Stream.onEof []]
    else [.call Stream.onError [.number nread], .close]
  else if nread > 0 then [.call Stream.onData [.bytes (data.take nread.toNat)]]
  else []

def handler : Event Callback → List (Act (Stream Callback) Callback)
  | .shutdown status => onUVShutdown status
  | .write onWrite status => onUVWrite onWrite status
  | .read data nread => onUVRead data nread

end Stream

section Derived

variable {Members : Type}

/-- A method of the base class, called on an object of a derived class. -/
def Method.lift (replace : Stream Callback → Members) :
    Method (Stream Callback) Callback → Method Members Callback
  | .assign stream => .assign (replace stream)
  | .ask closing work => .ask closing work

/-- A handler of the base class, for an object of a derived class. -/
def Act.lift (base : Members → Stream Callback) :
    Act (Stream Callback) Callback → Act Members Callback
  | .call callback arguments => .call (callback ∘ base) arguments
  | .close => .close

end Derived

structure Pipe (Callback : Type) where
  stream : Stream Callback
  onConnect : Option Callback

namespace Pipe

inductive Call (Callback : Type) where
  | stream (call : Stream.Call Callback)
  | connect (name : List (BitVec 8))
  | setOnConnectCallback (cb : Option Callback)

inductive Event (Callback : Type) where
  | stream (event : Stream.Event Callback)
  | connect (status : Int)

def moveConstruct (org : Pipe Callback) : Pipe Callback × Pipe Callback :=
  (⟨org.stream.moveConstruct.1, org.onConnect⟩, ⟨org.stream.moveConstruct.2, none⟩)

def moveAssign (pipe rhs : Pipe Callback) : Pipe Callback × Pipe Callback :=
  (⟨(pipe.stream.moveAssign rhs.stream).1, rhs.onConnect⟩,
    ⟨(pipe.stream.moveAssign rhs.stream).2, none⟩)

/-- `uv_pipe_connect` returns nothing. -/
def method : Call Callback → Pipe Callback → Method (Pipe Callback) Callback
  | .stream call, pipe =>
    (pipe.stream.method call).lift fun stream => { pipe with stream := stream }
  | .connect name, _ => .ask disposed (.uv (.pipeConnect name) fun _ => .nothing)
  | .setOnConnectCallback cb, pipe => .assign { pipe with onConnect := cb }

def onUVConnect (status : Int) : List (Act (Pipe Callback) Callback) :=
  if status ≠ 0 then [.call (·.stream.onError) [.number status], .close]
  else [.call Pipe.onConnect []]

def handler : Event Callback → List (Act (Pipe Callback) Callback)
  | .stream event => (Stream.handler event).map (.lift Pipe.stream)
  | .connect status => onUVConnect status

def wrapperClass (Callback : Type) : WrapperClass Callback where
  Members := Pipe Callback
  Call := Call Callback
  Event := Event Callback
  moveConstruct := moveConstruct
  moveAssign := moveAssign
  method := method
  handler := handler

end Pipe

structure TcpSocket (Callback : Type) where
  stream : Stream Callback
  onConnect : Option Callback
  onConnection : Option Callback

namespace TcpSocket

inductive Call (Callback : Type) where
  | stream (call : Stream.Call Callback)
  | connect (addr : List (BitVec 8))
  | listen (backlog : BitVec 32)
  | setOnConnectCallback (cb : Option Callback)
  | setOnConnectionCallback (cb : Option Callback)

inductive Event (Callback : Type) where
  | stream (event : Stream.Event Callback)
  | connect (status : Int)
  | connection (status : Int)

def moveConstruct (org : TcpSocket Callback) : TcpSocket Callback × TcpSocket Callback :=
  (⟨org.stream.moveConstruct.1, org.onConnect, org.onConnection⟩,
    ⟨org.stream.moveConstruct.2, none, none⟩)

def moveAssign (tcp rhs : TcpSocket Callback) : TcpSocket Callback × TcpSocket Callback :=
  (⟨(tcp.stream.moveAssign rhs.stream).1, rhs.onConnect, rhs.onConnection⟩,
    ⟨(tcp.stream.moveAssign rhs.stream).2, none, none⟩)

def method : Call Callback → TcpSocket Callback → Method (TcpSocket Callback) Callback
  | .stream call, tcp =>
    (tcp.stream.method call).lift fun stream => { tcp with stream := stream }
  | .connect addr, _ => .ask disposed (.uv (.tcpConnect addr) check)
  | .listen backlog, _ => .ask disposed (.uv (.listen backlog) check)
  | .setOnConnectCallback cb, tcp => .assign { tcp with onConnect := cb }
  | .setOnConnectionCallback cb, tcp => .assign { tcp with onConnection := cb }

def onUVConnect (status : Int) : List (Act (TcpSocket Callback) Callback) :=
  [.call TcpSocket.onConnect [.number status]]

def onUVConnection (status : Int) : List (Act (TcpSocket Callback) Callback) :=
  if status ≠ 0 then [.call (·.stream.onError) [.number status], .close]
  else [.call TcpSocket.onConnection []]

def handler : Event Callback → List (Act (TcpSocket Callback) Callback)
  | .stream event => (Stream.handler event).map (.lift TcpSocket.stream)
  | .connect status => onUVConnect status
  | .connection status => onUVConnection status

def wrapperClass (Callback : Type) : WrapperClass Callback where
  Members := TcpSocket Callback
  Call := Call Callback
  Event := Event Callback
  moveConstruct := moveConstruct
  moveAssign := moveAssign
  method := method
  handler := handler

end TcpSocket

/-- The classes that a program can have an object of. -/
inductive Kind where
  | timer
  | eventHandle
  | signal
  | fsEvent
  | poll
  | asyncNotifier
  | udpSocket
  | pipe
  | tcpSocket
deriving DecidableEq

def Kind.wrapperClass (Callback : Type) : Kind → WrapperClass Callback
  | .timer => Timer.wrapperClass Callback
  | .eventHandle => EventHandle.wrapperClass Callback
  | .signal => Signal.wrapperClass Callback
  | .fsEvent => FsEvent.wrapperClass Callback
  | .poll => Poll.wrapperClass Callback
  | .asyncNotifier => AsyncNotifier.wrapperClass Callback
  | .udpSocket => UdpSocket.wrapperClass Callback
  | .pipe => Pipe.wrapperClass Callback
  | .tcpSocket => TcpSocket.wrapperClass Callback

/-- A move leaves nothing behind that its destination needs. -/
structure WrapperClass.CarriesOver (wrapperClass : WrapperClass Callback) : Prop where
  constructed : ∀ org, (wrapperClass.moveConstruct org).1 = org
  assigned : ∀ self rhs, (wrapperClass.moveAssign self rhs).1 = rhs

/-- Every member of every class is carried over, on every level. -/
theorem Kind.carriesOver (Callback : Type) (kind : Kind) :
    (kind.wrapperClass Callback).CarriesOver := by
  cases kind with
  | _ => exact ⟨fun _ => rfl, fun _ _ => rfl⟩

end MoeUV.Transparency
