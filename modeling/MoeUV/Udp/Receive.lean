import MoeUV.Completion.Sockets
import MoeUV.EndPoint.Record
import Mathlib.Data.List.Forall2

/-!
# Receiving datagrams

libuv hands every receive event to the socket as four values. A negative count
is an error; a count of zero without an address means that there is nothing to
read; with an address, any count is a datagram of that many bytes, truncated if
the flag says so. The handler tells these apart by nested tests, reads the
address, and passes the payload on.

A live socket owes its user every datagram that is not truncated and comes from
a sender of a known family, in order and with its bytes, and nothing else. The
handler keeps this promise for every datagram but the empty one, which its test
takes for nothing to read.
-/

namespace MoeUV

open Foundation.Memory Foundation.Execution Sockets

/-- The address of a datagram: a complete structure of its family, or an address
of a family that the socket does not know. -/
inductive Sender where
  | inet (addr : SockaddrIn) (family : addr.family = AF_INET)
  | inet6 (addr : SockaddrIn6) (family : addr.family = AF_INET6)
  | other (family : BitVec 16) (notInet : family ≠ AF_INET) (notInet6 : family ≠ AF_INET6)

/-- `addr->sa_family`. -/
def Sender.saFamily : Sender → BitVec 16
  | .inet addr _ => addr.family
  | .inet6 addr _ => addr.family
  | .other family _ _ => family

/-- The family, the address and the port of a sender. -/
def Sender.record? : Sender → Option EndPointRecord
  | .inet addr _ => some ⟨.ipv4 (ntohl addr.addr), ntohs addr.port⟩
  | .inet6 addr _ => some ⟨.ipv6 (ipv6Pieces addr.addr.read), ntohs addr.port⟩
  | .other _ _ _ => none

/-- A receive event of libuv. -/
inductive ReceiveEvent where
  | error (status : Int) (negative : status < 0)
  | nothing
  | datagram (sender : Sender) (payload : List Octet) (truncated : Bool)

/-- The values that libuv passes to the receive callback; `base` is the memory
behind `buf->base`. -/
structure ReceiveArguments where
  nread : Int
  base : List Octet
  addr : Option Sender
  flags : Nat

/-- The values that stand for an event. The payload is at the beginning of the
buffer, which goes on with what the memory held. -/
def ReceiveEvent.arguments (memory : List Octet) : ReceiveEvent → ReceiveArguments
  | .error status _ => ⟨status, memory, none, 0⟩
  | .nothing => ⟨0, memory, none, 0⟩
  | .datagram sender payload truncated =>
    ⟨payload.length, payload ++ memory.drop payload.length, some sender,
      if truncated then UV_UDP_PARTIAL else 0⟩

/-- What the handler does, in its order. -/
inductive UdpEvent where
  | onError (error : Int)
  | onData (remote : EndPoint) (data : List Octet)
  | logError (exception : ThrownException)
  | close
deriving DecidableEq

/-- The address read although it is null, or bytes read behind the buffer. -/
inductive ReceiveFault where
  | nullAddress
  | beyondBuffer
deriving DecidableEq

/-- The user callbacks of a socket, which may be empty. They return or throw, and
leave the socket open. -/
structure UdpCallbacks where
  onError : Option (Int → Except ThrownException Unit)
  onData : Option (EndPoint → List Octet → Except ThrownException Unit)

section Code

variable (callbacks : UdpCallbacks)

/-- The error logged by `MOE_UV_CATCH_ALL_END`, if there is one. -/
def caught : Except ThrownException Unit → List UdpEvent
  | .ok _ => []
  | .error exception => [.logError exception]

/-- `UdpSocket::OnError`, called where exceptions are caught. -/
def callOnError (error : Int) : List UdpEvent :=
  .onError error ::
    match callbacks.onError with
    | none => []
    | some user => caught (user error)

/-- `UdpSocket::OnData`, called where exceptions are caught. -/
def callOnData (remote : EndPoint) (data : List Octet) : List UdpEvent :=
  .onData remote data ::
    match callbacks.onData with
    | none => []
    | some user => caught (user remote data)

/-- `BytesView(buffer.get(), nread)`. -/
def bytesView (base : List Octet) (nread : Nat) : Except ReceiveFault (List Octet) :=
  if nread ≤ base.length then .ok (base.take nread) else .error .beyondBuffer

/-- The endpoint of a sender, built in uninitialized memory. -/
def remoteOf (uninitialized : SockaddrStorage) : Sender → EndPoint
  | .inet addr _ => .ofSockaddrIn uninitialized addr
  | .inet6 addr _ => .ofSockaddrIn6 uninitialized addr
  | .other _ _ _ => .ofDefault uninitialized

/-- `UdpSocket::OnUVRecv` of a live socket. -/
def udpOnUVRecv (uninitialized : SockaddrStorage) (arguments : ReceiveArguments) :
    Except ReceiveFault (List UdpEvent) := do
  if arguments.nread < 0 then pure (callOnError callbacks arguments.nread ++ [.close])
  else if arguments.nread > 0 then
    if arguments.flags = UV_UDP_PARTIAL then pure []
    else
      match arguments.addr with
      | none => .error .nullAddress
      | some sender =>
        if ¬ (sender.saFamily = AF_INET ∨ sender.saFamily = AF_INET6) then pure []
        else
          let data ← bytesView arguments.base arguments.nread.toNat
          pure (callOnData callbacks (remoteOf uninitialized sender) data)
  else pure []

/-- The memory that the temporaries and the receive buffers of a run are made
of, by the events that are left. -/
structure ReceiveMemory where
  temporary : List ReceiveEvent → SockaddrStorage
  buffer : List ReceiveEvent → List Octet

/-- The events one after the other; a closed socket receives no further event. -/
def receiveAll (memory : ReceiveMemory) : List ReceiveEvent → Except ReceiveFault (List UdpEvent)
  | [] => pure []
  | event :: rest => do
    let done ← udpOnUVRecv callbacks (memory.temporary (event :: rest))
      (event.arguments (memory.buffer (event :: rest)))
    if .close ∈ done then pure done
    else
      let later ← receiveAll memory rest
      pure (done ++ later)

end Code

section Specification

/-- The events of a live socket: after an error it is closed. -/
def Live : List ReceiveEvent → Prop
  | [] => True
  | .error _ _ :: rest => rest = []
  | _ :: rest => Live rest

/-- The datagram that the user is owed for an event. -/
def ReceiveEvent.owed? : ReceiveEvent → Option (EndPointRecord × List Octet)
  | .datagram sender payload false => sender.record?.map (·, payload)
  | _ => none

/-- The arguments of a call of `OnData`. -/
def UdpEvent.data? : UdpEvent → Option (EndPoint × List Octet)
  | .onData remote data => some (remote, data)
  | _ => none

/-- The endpoint shows the family, the address and the port of the sender, and
the bytes are those of the datagram. -/
def Delivers (call : EndPoint × List Octet) (owed : EndPointRecord × List Octet) : Prop :=
  Agrees call.1 owed.1 ∧ call.2 = owed.2

/-- The calls of `OnData` deliver the datagrams owed, in order, and no address is
read that is not there. -/
def DeliversAll (callbacks : UdpCallbacks) (memory : ReceiveMemory) (events : List ReceiveEvent) :
    Prop :=
  ∃ trace, receiveAll callbacks memory events = .ok trace ∧
    List.Forall₂ Delivers (trace.filterMap UdpEvent.data?) (events.filterMap ReceiveEvent.owed?)

/-- An empty datagram that is owed to the user. -/
def ReceiveEvent.EmptyDatagram (event : ReceiveEvent) : Prop :=
  ∃ record, event.owed? = some (record, [])

end Specification

section Handler

variable (callbacks : UdpCallbacks) (uninitialized : SockaddrStorage)

/-- The calls of `OnData` in a trace. -/
def dataCalls (trace : List UdpEvent) : List (EndPoint × List Octet) :=
  trace.filterMap UdpEvent.data?

/-- What is thrown in a callback is no call of OnData. -/
theorem dataCalls_caught (ended : Except ThrownException Unit) : dataCalls (caught ended) = [] := by
  cases ended with
  | ok _ => rfl
  | error exception => rfl

/-- The calls of two records are those of both. -/
theorem dataCalls_append (trace later : List UdpEvent) :
    dataCalls (trace ++ later) = dataCalls trace ++ dataCalls later := List.filterMap_append

/-- `OnError` is no call of OnData. -/
theorem dataCalls_callOnError (error : Int) : dataCalls (callOnError callbacks error) = [] := by
  unfold callOnError
  cases callbacks.onError with
  | none => rfl
  | some user => exact dataCalls_caught (user error)

/-- `OnData` is called once, with what was received. -/
theorem dataCalls_callOnData (remote : EndPoint) (data : List Octet) :
    dataCalls (callOnData callbacks remote data) = [(remote, data)] := by
  unfold callOnData
  cases callbacks.onData with
  | none => rfl
  | some user => exact congrArg (List.cons (remote, data)) (dataCalls_caught (user remote data))

/-- It does not close the socket, even if it throws. -/
theorem open_callOnData (remote : EndPoint) (data : List Octet) :
    .close ∉ callOnData callbacks remote data := by
  cases installed : callbacks.onData with
  | none => simp [callOnData, installed]
  | some user =>
    cases ended : user remote data with
    | ok _ => simp [callOnData, installed, caught, ended]
    | error exception => simp [callOnData, installed, caught, ended]

/-- A sender of a known family has a record, and the endpoint shows it. -/
theorem remoteOf_agrees {sender : Sender} {record : EndPointRecord}
    (known : sender.record? = some record) :
    Agrees (remoteOf uninitialized sender) record ∧
      (sender.saFamily = AF_INET ∨ sender.saFamily = AF_INET6) := by
  cases sender with
  | inet addr family =>
    cases known
    exact ⟨agrees_copyIn uninitialized addr family, Or.inl family⟩
  | inet6 addr family =>
    cases known
    exact ⟨agrees_copyIn6 uninitialized addr family, Or.inr family⟩
  | other family notInet notInet6 => cases known

/-- A sender that is no endpoint has a family of its own. -/
theorem foreign_of_unknown {sender : Sender} (unknown : sender.record? = none) :
    ¬ (sender.saFamily = AF_INET ∨ sender.saFamily = AF_INET6) := by
  cases sender with
  | inet addr family => cases unknown
  | inet6 addr family => cases unknown
  | other family notInet notInet6 => exact not_or.mpr ⟨notInet, notInet6⟩

/-- A datagram of the given event that the handler takes for nothing to read. -/
theorem udpOnUVRecv_empty (sender : Sender) (truncated : Bool) (memory : List Octet) :
    udpOnUVRecv callbacks uninitialized
      ((ReceiveEvent.datagram sender [] truncated).arguments memory) = .ok [] := by
  rw [udpOnUVRecv, if_neg (by simp [ReceiveEvent.arguments]),
    if_neg (by simp [ReceiveEvent.arguments])]
  rfl

/-- A datagram that did not fit is dropped in silence. -/
theorem udpOnUVRecv_truncated (sender : Sender) (payload memory : List Octet) :
    udpOnUVRecv callbacks uninitialized
      ((ReceiveEvent.datagram sender payload true).arguments memory) = .ok [] := by
  have flagged :
      ((ReceiveEvent.datagram sender payload true).arguments memory).flags = UV_UDP_PARTIAL := rfl
  rw [udpOnUVRecv, if_neg (by simp [ReceiveEvent.arguments]), if_pos flagged, ite_self]
  rfl

/-- The address of a datagram with a payload is read, and the payload is the
beginning of the buffer. -/
theorem udpOnUVRecv_payload (sender : Sender) {payload : List Octet} (present : payload ≠ [])
    (memory : List Octet) :
    udpOnUVRecv callbacks uninitialized
        ((ReceiveEvent.datagram sender payload false).arguments memory) =
      if ¬ (sender.saFamily = AF_INET ∨ sender.saFamily = AF_INET6) then .ok []
      else .ok (callOnData callbacks (remoteOf uninitialized sender) payload) := by
  have positive : 0 < payload.length := List.length_pos_iff.mpr present
  have view : bytesView (payload ++ memory.drop payload.length) payload.length = .ok payload := by
    rw [bytesView, if_pos (by simp), List.take_left]
  have count : ((payload.length : Int)).toNat = payload.length := Int.toNat_natCast _
  have whole :
      ((ReceiveEvent.datagram sender payload false).arguments memory).flags ≠ UV_UDP_PARTIAL :=
    Nat.zero_ne_add_one 1
  rw [udpOnUVRecv, if_neg (by simp [ReceiveEvent.arguments]),
    if_pos (by simpa [ReceiveEvent.arguments] using positive), if_neg whole]
  simp only [ReceiveEvent.arguments, count, view, ok_bind, pure_eq_ok]

/-- An error is reported and closes the socket. -/
theorem udpOnUVRecv_error {status : Int} (negative : status < 0) (memory : List Octet) :
    udpOnUVRecv callbacks uninitialized
        ((ReceiveEvent.error status negative).arguments memory) =
      .ok (callOnError callbacks status ++ [.close]) := by
  have failed : ((ReceiveEvent.error status negative).arguments memory).nread < 0 := negative
  rw [udpOnUVRecv, if_pos failed]
  rfl

/-- The handler as it is modelled with the ownership of its buffer takes the same branch: it
drops the packet, calls `OnData` or calls `OnError`. -/
theorem onUVRecv_agrees {Callback : Type} {sockets : Sockets Callback} {handle : HandleId}
    {self : Pointer} (found : sockets.heap.getSelf handle = .ok (some self))
    (buffer : Option BlockId) {arguments : ReceiveArguments} {sender : Sender}
    (addr : arguments.addr = some sender) (held : arguments.nread ≤ arguments.base.length) :
    ∃ done, udpOnUVRecv callbacks uninitialized arguments = .ok done ∧
      ((done = [] ∧
          sockets.onUVRecv handle buffer arguments.nread sender.saFamily arguments.flags =
            .ok (sockets.leave buffer.toList none)) ∨
        ((∃ remote data, done = callOnData callbacks remote data) ∧
          sockets.onUVRecv handle buffer arguments.nread sender.saFamily arguments.flags =
            sockets.notify .onData buffer.toList handle self (some arguments.nread)) ∨
        (done = callOnError callbacks arguments.nread ++ [.close] ∧
          sockets.onUVRecv handle buffer arguments.nread sender.saFamily arguments.flags =
            sockets.onError buffer.toList handle self arguments.nread (.error handle self))) := by
  rw [udpOnUVRecv, Sockets.onUVRecv, found, ok_bind, addr]
  dsimp only
  by_cases failed : arguments.nread < 0
  · rw [if_pos failed, if_pos failed]
    exact ⟨_, rfl, Or.inr (Or.inr ⟨rfl, rfl⟩)⟩
  rw [if_neg failed, if_neg failed]
  by_cases some : arguments.nread > 0
  · rw [if_pos some, if_pos some]
    by_cases truncated : arguments.flags = UV_UDP_PARTIAL
    · rw [if_pos truncated, if_pos (Or.inl truncated)]
      exact ⟨_, rfl, Or.inl ⟨rfl, rfl⟩⟩
    · rw [if_neg truncated]
      by_cases known : sender.saFamily = AF_INET ∨ sender.saFamily = AF_INET6
      · have view : bytesView arguments.base arguments.nread.toNat =
            .ok (arguments.base.take arguments.nread.toNat) := if_pos (by omega)
        rw [if_neg (not_not.mpr known), if_neg (by simp [truncated, known]), view]
        exact ⟨_, rfl, Or.inr (Or.inl ⟨⟨_, _, rfl⟩, rfl⟩)⟩
      · rw [if_pos known, if_pos (Or.inr known)]
        exact ⟨_, rfl, Or.inl ⟨rfl, rfl⟩⟩
  · rw [if_neg some, if_neg some]
    exact ⟨_, rfl, Or.inl ⟨rfl, rfl⟩⟩

/-- What the handler makes of an event: a socket is closed by an error and by
nothing else, and there is one call of `OnData` for what is owed, unless that is
an empty datagram. -/
structure Handled (event : ReceiveEvent) (done : List UdpEvent) : Prop where
  closing : .close ∈ done ↔ ∃ status negative, event = .error status negative
  unowed : event.owed? = none ∨ event.EmptyDatagram → dataCalls done = []
  delivered : ∀ record payload, event.owed? = some (record, payload) → payload ≠ [] →
    ∃ remote, dataCalls done = [(remote, payload)] ∧ Agrees remote record

/-- An event that the handler passes over in silence, as nothing but an empty
datagram is owed for it. -/
theorem handled_silently {event : ReceiveEvent}
    (stays : ∀ status negative, event ≠ .error status negative)
    (unowed : event.owed? = none ∨ event.EmptyDatagram) : Handled event [] := by
  constructor
  · refine iff_of_false List.not_mem_nil ?_
    rintro ⟨status, negative, failed⟩
    exact stays status negative failed
  · intro _
    rfl
  · intro record payload owed present
    rcases unowed with nothing | ⟨other, empty⟩
    · rw [nothing] at owed
      cases owed
    · rw [empty] at owed
      exact absurd (Prod.mk.inj (Option.some.inj owed)).2.symm present

/-- A datagram with a payload from a sender of a known family. -/
theorem handled_payload {sender : Sender} {record : EndPointRecord} {payload : List Octet}
    (known : sender.record? = some record) (present : payload ≠ []) :
    Handled (.datagram sender payload false)
      (callOnData callbacks (remoteOf uninitialized sender) payload) := by
  have owed : (ReceiveEvent.datagram sender payload false).owed? = some (record, payload) := by
    simp [ReceiveEvent.owed?, known]
  constructor
  · exact iff_of_false (open_callOnData callbacks _ _) fun ⟨_, _, failed⟩ => by cases failed
  · rintro (nothing | ⟨other, empty⟩)
    · rw [owed] at nothing
      cases nothing
    · rw [owed] at empty
      exact absurd (Prod.mk.inj (Option.some.inj empty)).2 present
  · intro other bytes same _
    rw [owed] at same
    obtain ⟨rfl, rfl⟩ := Prod.mk.inj (Option.some.inj same)
    exact ⟨_, dataCalls_callOnData callbacks _ _, (remoteOf_agrees uninitialized known).1⟩

/-- Every event is handled without a fault, as its kind says. The cases are an error, nothing to
read, an empty datagram and one that is not empty. -/
theorem udpOnUVRecv_handled (event : ReceiveEvent) (memory : List Octet) :
    ∃ done, udpOnUVRecv callbacks uninitialized (event.arguments memory) = .ok done ∧
      Handled event done := by
  cases event with
  | error status negative =>
    refine ⟨_, udpOnUVRecv_error callbacks uninitialized negative memory, ?_, ?_, ?_⟩
    · exact iff_of_true (by simp) ⟨status, negative, rfl⟩
    · intro _
      rw [dataCalls_append, dataCalls_callOnError]
      rfl
    · intro record payload owed
      cases owed
  | nothing => exact ⟨[], rfl, handled_silently nofun (Or.inl rfl)⟩
  | datagram sender payload truncated =>
    by_cases empty : payload = []
    · subst empty
      refine ⟨[], udpOnUVRecv_empty callbacks uninitialized sender truncated memory,
        handled_silently nofun ?_⟩
      cases truncated with
      | true => exact Or.inl rfl
      | false =>
        cases known : sender.record? with
        | none => exact Or.inl (by simp [ReceiveEvent.owed?, known])
        | some record => exact Or.inr ⟨record, by simp [ReceiveEvent.owed?, known]⟩
    · cases truncated with
      | true =>
        exact ⟨[], udpOnUVRecv_truncated callbacks uninitialized sender payload memory,
          handled_silently nofun (Or.inl rfl)⟩
      | false =>
        have passed := udpOnUVRecv_payload callbacks uninitialized sender empty memory
        cases known : sender.record? with
        | none =>
          rw [if_pos (foreign_of_unknown known)] at passed
          exact ⟨[], passed, handled_silently nofun (Or.inl (by simp [ReceiveEvent.owed?, known]))⟩
        | some record =>
          rw [if_neg (not_not_intro (remoteOf_agrees uninitialized known).2)] at passed
          exact ⟨_, passed, handled_payload callbacks uninitialized known empty⟩

/-- One event more on both sides: the calls still do not outnumber what is owed,
and they deliver it exactly when they did before and the event is no empty
datagram. -/
theorem Handled.calls {event : ReceiveEvent} {done : List UdpEvent} (handled : Handled event done)
    {calls : List (EndPoint × List Octet)} {owed : List (EndPointRecord × List Octet)}
    (fewer : calls.length ≤ owed.length) :
    (dataCalls done ++ calls).length ≤ (event.owed?.toList ++ owed).length ∧
      (List.Forall₂ Delivers (dataCalls done ++ calls) (event.owed?.toList ++ owed) ↔
        ¬ event.EmptyDatagram ∧ List.Forall₂ Delivers calls owed) := by
  cases own : event.owed? with
  | none =>
    have fits : ¬ event.EmptyDatagram := by
      rintro ⟨record, empty⟩
      rw [own] at empty
      cases empty
    rw [handled.unowed (Or.inl own), and_iff_right fits]
    exact ⟨fewer, Iff.rfl⟩
  | some pair =>
    obtain ⟨record, payload⟩ := pair
    by_cases empty : payload = []
    · have lost : event.EmptyDatagram := ⟨record, by rw [own, empty]⟩
      rw [handled.unowed (Or.inr lost)]
      refine ⟨Nat.le_succ_of_le fewer, iff_of_false ?_ (fun fine => fine.1 lost)⟩
      -- The call for the empty datagram is missing, so there are too few.
      intro paired
      have same := paired.length_eq
      simp only [Option.toList_some, List.nil_append, List.cons_append, List.length_cons] at same
      omega
    · have fits : ¬ event.EmptyDatagram := by
        rintro ⟨other, missing⟩
        rw [own] at missing
        exact empty (Prod.mk.inj (Option.some.inj missing)).2
      obtain ⟨remote, called, shown⟩ := handled.delivered record payload own empty
      rw [called, and_iff_right fits]
      exact ⟨Nat.succ_le_succ fewer, List.forall₂_cons.trans (and_iff_right ⟨shown, rfl⟩)⟩

end Handler

section Runs

variable (callbacks : UdpCallbacks) (memory : ReceiveMemory)

/-- A socket that stays open stays so for the events that follow. -/
theorem live_rest {event : ReceiveEvent} {rest : List ReceiveEvent} (live : Live (event :: rest)) :
    Live rest := by
  cases event with
  | error status negative =>
    cases live
    trivial
  | nothing => exact live
  | datagram sender payload truncated => exact live

/-- What follows an event that leaves the socket open is received, too. -/
theorem receiveAll_append {event : ReceiveEvent} {rest : List ReceiveEvent}
    {done later : List UdpEvent}
    (handled : udpOnUVRecv callbacks (memory.temporary (event :: rest))
      (event.arguments (memory.buffer (event :: rest))) = .ok done)
    (stays : .close ∉ done) (received : receiveAll callbacks memory rest = .ok later) :
    receiveAll callbacks memory (event :: rest) = .ok (done ++ later) := by
  rw [receiveAll, handled, ok_bind, if_neg stays, received]
  rfl

/-- Over a run, the calls never outnumber what is owed, and they deliver it exactly
when no empty datagram is among it. -/
theorem receiveAll_calls (events : List ReceiveEvent) (live : Live events) :
    ∃ trace, receiveAll callbacks memory events = .ok trace ∧
      (dataCalls trace).length ≤ (events.filterMap ReceiveEvent.owed?).length ∧
      (List.Forall₂ Delivers (dataCalls trace) (events.filterMap ReceiveEvent.owed?) ↔
        ∀ event ∈ events, ¬ event.EmptyDatagram) := by
  induction events with
  | nil => exact ⟨[], rfl, Nat.le_refl 0, iff_of_true .nil (List.forall_mem_nil _)⟩
  | cons event rest inductionHypothesis =>
    obtain ⟨done, ran, handled⟩ := udpOnUVRecv_handled callbacks
      (memory.temporary (event :: rest)) event (memory.buffer (event :: rest))
    obtain ⟨later, received, fewer, exactly⟩ := inductionHypothesis (live_rest live)
    have owed : (event :: rest).filterMap ReceiveEvent.owed? =
        event.owed?.toList ++ rest.filterMap ReceiveEvent.owed? := by
      cases own : event.owed? with
      | none => rw [List.filterMap_cons_none own]; rfl
      | some pair => rw [List.filterMap_cons_some own]; rfl
    obtain ⟨bounded, more⟩ := handled.calls fewer
    rw [exactly] at more
    rw [owed, List.forall_mem_cons]
    by_cases closes : .close ∈ done
    · -- An error is the last event, so nothing is left to receive.
      obtain ⟨status, negative, rfl⟩ := handled.closing.mp closes
      cases live
      cases received
      have silence : dataCalls done ++ dataCalls [] = dataCalls done := List.append_nil _
      rw [silence] at bounded more
      refine ⟨done, ?_, bounded, more⟩
      rw [receiveAll, ran, ok_bind, if_pos closes]
      rfl
    · refine ⟨done ++ later, receiveAll_append callbacks memory ran closes received, ?_⟩
      rw [dataCalls_append]
      exact ⟨bounded, more⟩

/-- Every datagram is delivered once, in order and with its bytes, if and only
if no datagram that is owed is empty. -/
theorem delivers_iff (events : List ReceiveEvent) (live : Live events) :
    DeliversAll callbacks memory events ↔ ∀ event ∈ events, ¬ event.EmptyDatagram := by
  obtain ⟨trace, received, _, exactly⟩ := receiveAll_calls callbacks memory events live
  rw [← exactly]
  constructor
  · rintro ⟨other, same, delivered⟩
    rw [received] at same
    cases same
    exact delivered
  · intro delivered
    exact ⟨trace, received, delivered⟩

end Runs

section Examples

/-- A callback that throws out of every call, and memory of zeros. -/
def throwingCallbacks : UdpCallbacks :=
  ⟨some fun _ => .error .unknown, some fun _ _ => .error .unknown⟩

def zeroedMemory : ReceiveMemory :=
  ⟨fun _ => ⟨List.replicate 128 0, rfl⟩, fun _ => List.replicate 4 0⟩

def loopbackDatagram (payload : List Octet) : ReceiveEvent :=
  .datagram (.inet (sockaddrIn 0x7F000001 80) rfl) payload false

/-- A datagram, nothing to read, another datagram, and an error. -/
theorem delivers_loopback :
    DeliversAll throwingCallbacks zeroedMemory
      [loopbackDatagram [65], .nothing, loopbackDatagram [66, 67], .error (-104) (by decide)] := by
  refine (delivers_iff throwingCallbacks zeroedMemory _ (by exact rfl)).mpr ?_
  intro event present
  simp only [List.mem_cons, List.not_mem_nil, or_false] at present
  obtain rfl | rfl | rfl | rfl := present
  all_goals
    rintro ⟨record, owed⟩
    cases owed

/-- The empty datagram of a sender on the loopback device is not delivered. -/
theorem delivers_false_empty :
    Live [loopbackDatagram []] ∧
      ¬ DeliversAll throwingCallbacks zeroedMemory [loopbackDatagram []] := by
  refine ⟨trivial, ?_⟩
  rintro ⟨trace, received, delivered⟩
  cases received
  exact absurd delivered.length_eq (by decide)

end Examples

end MoeUV
