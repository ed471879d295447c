import MoeUV.Failure
import MoeUV.Handle.Safety

/-!
# Creating handles

A factory takes a block from the pool, has libuv initialise it and wraps it. When
a libuv call fails, the exception unwinds through the `UniquePooledObject` that
still owns the block, which frees it. That is right only as long as libuv has
not linked the block into its handle queue. The initialisers that can fail do so
before linking. `uv_accept` runs on a client that `uv_tcp_init` has already
linked, and `uv_spawn` links its handle before anything can fail; neither undoes
it, so their failures leave a freed block in the queue.
-/

namespace MoeUV

open Foundation.Execution

/-- A libuv call on the new block: its return code and what it leaves. -/
abbrev UvCall := HandleId → Heap → Except Fault (Int × Heap)

/-- The initialisers that either fail before linking the handle or succeed.
`uv_async_init` also starts it. -/
def uvInit (active : Bool) (code : Int) : UvCall := fun id heap =>
  if code < 0 then pure (code, heap)
  else do
    let heap ← heap.uvHandleInit id active
    pure (code, heap)

/-- `uv_tcp_init`, which cannot fail. -/
def uvTcpInit : UvCall := fun id heap => do
  let heap ← heap.uvHandleInit id false
  pure (0, heap)

/-- `uv_accept` into an initialised client, which stays linked in any case. -/
def uvAccept (code : Int) : UvCall := fun id heap => do
  let _ ← heap.deref id
  pure (code, heap)

/-- `uv_spawn` links the handle first and starts it only when all went well. -/
def uvSpawn (code : Int) : UvCall := fun id heap => do
  let heap ← heap.uvHandleInit id (decide (0 ≤ code))
  pure (code, heap)

namespace Heap

variable (heap : Heap) (self : Pointer)

/-- The checked libuv calls of a factory, then the wrapper's constructor. A
failed call unwinds through the owner of the block. -/
def initialise (id : HandleId) : List UvCall → Heap → Except Fault (Outcome × Heap)
  | [], heap => do
    let heap ← heap.wrap self id
    pure (.returned, heap)
  | call :: rest, heap => do
    let (ret, heap) ← call id heap
    if ret < 0 then
      let heap ← heap.poolFree id
      pure (.threw (uvThrow ret), heap)
    else initialise id rest heap

/-- `MOE_UV_NEW` and the calls on the new block. -/
def create (calls : List UvCall) : Except Fault (Outcome × Heap) :=
  initialise self heap.alloc.1 calls heap.alloc.2

/-- `Timer::Create`. -/
def timerCreate (timerInit : Int) := heap.create self [uvInit false timerInit]

/-- The types of `EventHandle`, whose initialisers behave alike. -/
inductive EventType where
  | prepare
  | idle
  | check
deriving DecidableEq

/-- `EventHandle::Create`. -/
def eventHandleCreate (type : EventType) (eventInit : Int) :=
  match type with
  | .prepare => heap.create self [uvInit false eventInit]
  | .idle => heap.create self [uvInit false eventInit]
  | .check => heap.create self [uvInit false eventInit]

/-- `Signal::Create`. -/
def signalCreate (signalInit : Int) := heap.create self [uvInit false signalInit]

/-- `FsEvent::Create`. -/
def fsEventCreate (fsEventInit : Int) := heap.create self [uvInit false fsEventInit]

/-- `Poll::Create`. -/
def pollCreate (pollInit : Int) := heap.create self [uvInit false pollInit]

/-- `AsyncNotifier::Create`. -/
def asyncNotifierCreate (asyncInit : Int) := heap.create self [uvInit true asyncInit]

/-- `Pipe::Create`. -/
def pipeCreate (pipeInit : Int) := heap.create self [uvInit false pipeInit]

/-- `UdpSocket::Create()`. -/
def udpSocketCreate (udpInit : Int) := heap.create self [uvInit false udpInit]

/-- `UdpSocket::Create(bind, ..)`: a failed bind destroys the finished wrapper. -/
def udpSocketCreateBound (udpInit udpBind : Int) : Except Fault (Outcome × Heap) := do
  let (outcome, heap) ← heap.udpSocketCreate self udpInit
  match outcome with
  | .threw failure => pure (.threw failure, heap)
  | .returned => do
    let wrapper ← heap.wrapper self
    if ← heap.isClosing wrapper then
      let heap ← heap.destroy self
      pure (.threw (.invalidCall "Handle is already disposed"), heap)
    else if udpBind < 0 then
      let heap ← heap.destroy self
      pure (.threw (uvThrow udpBind), heap)
    else pure (.returned, heap)

/-- `TcpSocket::Create`. -/
def tcpSocketCreate := heap.create self [uvTcpInit]

/-- `TcpSocket::Accept` on a listening socket. -/
def tcpSocketAccept (listener : Pointer) (accept : Int) : Except Fault (Outcome × Heap) := do
  let wrapper ← heap.wrapper listener
  if ← heap.isClosing wrapper then
    pure (.threw (.invalidCall "Handle is already disposed"), heap)
  else heap.create self [uvTcpInit, uvAccept accept]

/-- `SubProcess::Spawn`. -/
def subProcessSpawn (spawn : Int) := heap.create self [uvSpawn spawn]

end Heap

/-- The factories with the return codes of their libuv calls. -/
inductive Factory where
  | timer (timerInit : Int)
  | eventHandle (type : Heap.EventType) (eventInit : Int)
  | signal (signalInit : Int)
  | fsEvent (fsEventInit : Int)
  | poll (pollInit : Int)
  | asyncNotifier (asyncInit : Int)
  | pipe (pipeInit : Int)
  | udpSocket (udpInit : Int)
  | udpSocketBound (udpInit udpBind : Int)
  | tcpSocket
  | tcpSocketAccept (listener : Pointer) (accept : Int)
  | subProcess (spawn : Int)

def Factory.run (heap : Heap) (self : Pointer) : Factory → Except Fault (Outcome × Heap)
  | .timer timerInit => heap.timerCreate self timerInit
  | .eventHandle type eventInit => heap.eventHandleCreate self type eventInit
  | .signal signalInit => heap.signalCreate self signalInit
  | .fsEvent fsEventInit => heap.fsEventCreate self fsEventInit
  | .poll pollInit => heap.pollCreate self pollInit
  | .asyncNotifier asyncInit => heap.asyncNotifierCreate self asyncInit
  | .pipe pipeInit => heap.pipeCreate self pipeInit
  | .udpSocket udpInit => heap.udpSocketCreate self udpInit
  | .udpSocketBound udpInit udpBind => heap.udpSocketCreateBound self udpInit udpBind
  | .tcpSocket => heap.tcpSocketCreate self
  | .tcpSocketAccept listener accept => heap.tcpSocketAccept self listener accept
  | .subProcess spawn => heap.subProcessSpawn self spawn

/-- The result goes to memory without a wrapper, and only a live socket accepts. -/
def Factory.Enabled (heap : Heap) (self : Pointer) : Factory → Prop
  | .tcpSocketAccept listener _ =>
    heap.wrappers self = none ∧ (heap.wrappers listener).isSome = true
  | _ => heap.wrappers self = none

/-- The two calls that fail after linking do not fail. An accept that never gets
there does not count. -/
def Factory.LinksLast (heap : Heap) : Factory → Prop
  | .tcpSocketAccept listener accept =>
    (∀ wrapper ∈ heap.wrappers listener, heap.isClosing wrapper = .ok true) ∨ 0 ≤ accept
  | .subProcess spawn => 0 ≤ spawn
  | _ => True

/-- A live wrapper owns an allocated block of the queue. -/
def OwnsRegistered (heap : Heap) (self : Pointer) : Prop :=
  ∃ wrapper id, heap.wrappers self = some wrapper ∧ wrapper.handle = some id ∧ id ∈ heap.queue ∧
    (heap.blocks id).isSome = true

variable {heap next : Heap} {self : Pointer}

/-- A block freed before libuv saw it leaves no trace but its number. -/
theorem Coherent.allocFree (coherent : Coherent heap) :
    Coherent (heap.alloc.2.free heap.fresh) := by
  have unborn := coherent.linked.unborn
  have blocks : (heap.alloc.2.free heap.fresh).blocks = heap.blocks := by
    funext other
    by_cases same : other = heap.fresh
    · simp [same, unborn]
    · simp [same, Heap.alloc]
  constructor
  · have owned := coherent.owned
    rw [Owned, ← blocks] at owned
    exact owned
  · intro other
    refine (coherent.linked other).congr ?_ Iff.rfl Iff.rfl ?_
    · rw [Heap.progress, blocks, Heap.progress]
    · intro beyond
      exact Nat.le_of_succ_le beyond
  · exact coherent.distinct

/-- The heap with a new block that libuv has linked and no wrapper owns yet. -/
def Heap.linkNew (heap : Heap) (active : Bool) : Heap :=
  { heap.setBlock heap.fresh ⟨true, false, 0, .opened, .null, active, true⟩ with
    fresh := heap.fresh + 1
    queue := heap.queue ++ [heap.fresh] }

/-- A block that was just allocated is initialised without a fault. -/
theorem uvHandleInit_alloc (heap : Heap) (active : Bool) :
    heap.alloc.2.uvHandleInit heap.fresh active = .ok (heap.linkNew active) := by
  simp [Heap.alloc, Heap.uvHandleInit, Heap.deref, Heap.setBlock, Heap.linkNew, ok_bind,
    pure_eq_ok]

/-- Wrapping a linked block completes a construction. -/
theorem wrap_linkNew (heap : Heap) (self : Pointer) (active : Bool) :
    (heap.linkNew active).wrap self heap.fresh = heap.construct self active := by
  rw [Heap.construct]
  change _ = (heap.alloc.2.uvHandleInit heap.fresh active >>= fun heap' =>
    heap'.wrap self heap.fresh)
  rw [uvHandleInit_alloc, ok_bind]

/-- Freeing a linked block instead leaves it dangling in the queue. -/
theorem poolFree_linkNew (heap : Heap) (active : Bool) :
    (heap.linkNew active).poolFree heap.fresh = .ok ((heap.linkNew active).free heap.fresh) :=
  Heap.poolFree_ok ((heap.setBlock_blocks heap.fresh heap.fresh _).trans (if_pos rfl)) rfl

section Initialise

variable {call : UvCall} {rest : List UvCall} {id : HandleId} {ret : Int} {freed : Heap}

/-- A call that does not fail is followed by the rest. -/
theorem initialise_continues (called : call id heap = .ok (ret, next)) (succeeded : 0 ≤ ret) :
    Heap.initialise self id (call :: rest) heap = Heap.initialise self id rest next := by
  have notFailed : ¬ ret < 0 := Int.not_lt.mpr succeeded
  simp only [Heap.initialise, called, ok_bind, notFailed, if_false]

/-- A call that fails frees the block in the state the call has left. -/
theorem initialise_throws (called : call id heap = .ok (ret, next)) (failed : ret < 0)
    (free : next.poolFree id = .ok freed) :
    Heap.initialise self id (call :: rest) heap = .ok (.threw (uvThrow ret), freed) := by
  simp only [Heap.initialise, called, ok_bind, failed, if_true, free]
  rfl

/-- When nothing failed, the linked block is wrapped. -/
theorem initialise_finishes (active : Bool) (constructed : heap.construct self active = .ok next) :
    Heap.initialise self heap.fresh [] (heap.linkNew active) = .ok (.returned, next) := by
  rw [← wrap_linkNew] at constructed
  simp only [Heap.initialise, constructed, ok_bind]
  rfl

end Initialise

section Calls

variable (heap : Heap)

/-- A handle whose initialisation succeeds is in the queue of the loop, -/
theorem uvInit_linked (active : Bool) {code : Int} (succeeded : 0 ≤ code) :
    uvInit active code heap.alloc.1 heap.alloc.2 = .ok (code, heap.linkNew active) := by
  have notFailed : ¬ code < 0 := Int.not_lt.mpr succeeded
  have linked : heap.alloc.2.uvHandleInit heap.alloc.1 active = .ok (heap.linkNew active) :=
    uvHandleInit_alloc heap active
  simp only [uvInit, notFailed, if_false, linked, ok_bind]
  rfl

/-- and one whose initialisation fails is not. -/
theorem uvInit_refused (active : Bool) {code : Int} (failed : code < 0) :
    uvInit active code heap.alloc.1 heap.alloc.2 = .ok (code, heap.alloc.2) := by
  simp only [uvInit, failed, if_true]
  rfl

/-- `uv_tcp_init` without a socket cannot fail. -/
theorem uvTcpInit_linked : uvTcpInit heap.alloc.1 heap.alloc.2 = .ok (0, heap.linkNew false) := by
  have linked : heap.alloc.2.uvHandleInit heap.alloc.1 false = .ok (heap.linkNew false) :=
    uvHandleInit_alloc heap false
  simp only [uvTcpInit, linked, ok_bind]
  rfl

/-- Accepting changes nothing in the queue, whether it fails or not, -/
theorem uvAccept_linked (active : Bool) (code : Int) :
    uvAccept code heap.fresh (heap.linkNew active) = .ok (code, heap.linkNew active) := by
  have allocated := (heap.setBlock_blocks heap.fresh heap.fresh
    ⟨true, false, 0, .opened, .null, active, true⟩).trans (if_pos rfl)
  have present : (heap.linkNew active).deref heap.fresh = .ok _ := Heap.deref_ok allocated
  simp only [uvAccept, present, ok_bind]
  rfl

/-- and `uv_spawn` puts the handle there even if it fails. -/
theorem uvSpawn_linked (code : Int) :
    uvSpawn code heap.alloc.1 heap.alloc.2 = .ok (code, heap.linkNew (decide (0 ≤ code))) := by
  have linked : heap.alloc.2.uvHandleInit heap.alloc.1 (decide (0 ≤ code)) =
      .ok (heap.linkNew (decide (0 ≤ code))) := uvHandleInit_alloc heap _
  simp only [uvSpawn, linked, ok_bind]
  rfl

end Calls

section Clean

/-- A wrapper whose handle is not closed owns a block of the queue. -/
theorem Coherent.registered (coherent : Coherent heap) {wrapper : Wrapper} {id : HandleId}
    (live : heap.wrappers self = some wrapper) (holds : wrapper.handle = some id)
    (notClosed : wrapper.handleClosed = false) : OwnsRegistered heap self := by
  obtain ⟨block, allocated, _, _, _, agrees⟩ := coherent.owned.holds live holds
  have open_ : block.phase ≠ .closed := by
    intro closed
    rw [agrees.mpr closed] at notClosed
    cases notClosed
  exact ⟨wrapper, id, live, holds, (coherent.linked.mem_queue allocated).mpr open_,
    by rw [allocated]; rfl⟩

/-- `IsClosing` on a live wrapper does not fault. -/
theorem Coherent.isClosing_total (coherent : Coherent heap) {wrapper : Wrapper}
    (live : heap.wrappers self = some wrapper) :
    ∃ answer, heap.isClosing wrapper = .ok answer := by
  cases holds : wrapper.handle with
  | none => exact ⟨true, by simp only [Heap.isClosing, holds]⟩
  | some id =>
    obtain ⟨block, allocated, _⟩ := coherent.owned.holds live holds
    by_cases closed : wrapper.handleClosed = true
    · exact ⟨true, by simp only [Heap.isClosing, holds, closed, if_true]⟩
    · refine ⟨decide (block.phase ≠ .opened), ?_⟩
      simp only [Heap.isClosing, holds, if_neg closed, Heap.uvIsClosing_ok allocated]

/-- A construction leaves an owned, registered block. -/
theorem construct_registers (coherent : Coherent heap) (vacant : heap.wrappers self = none)
    (active : Bool) :
    ∃ next, heap.construct self active = .ok next ∧ Coherent next ∧ OwnsRegistered next self ∧
      next.wrappers self = some ⟨some heap.fresh, false⟩ := by
  obtain ⟨next, constructed, move, _⟩ := construct_move vacant active
  have after := coherent.move move
  have live : next.wrappers self = some ⟨some heap.fresh, false⟩ := by
    rw [← wrap_linkNew, Heap.wrap] at constructed
    obtain ⟨tagged, _, placed⟩ := bind_ok_iff.mp constructed
    rw [← Except.ok.inj placed]
    exact (tagged.putWrapper_wrappers self self _).trans (if_pos rfl)
  exact ⟨next, constructed, after, after.registered live rfl rfl, live⟩

/-- The result of a factory call that leaves the loop in order. -/
def Clean (self : Pointer) (result : Except Fault (Outcome × Heap)) : Prop :=
  ∃ outcome next, result = .ok (outcome, next) ∧ Coherent next ∧
    (outcome = .returned → OwnsRegistered next self)

/-- The result of a factory call that leaves a freed block in the queue. -/
def Dangles (result : Except Fault (Outcome × Heap)) : Prop :=
  ∃ failure next id, result = .ok (.threw failure, next) ∧ id ∈ next.queue ∧ next.blocks id = none

/-- Calls that link the block and all succeed. -/
theorem create_clean (coherent : Coherent heap) (vacant : heap.wrappers self = none)
    {calls : List UvCall} (active : Bool)
    (succeed : heap.create self calls =
      Heap.initialise self heap.fresh [] (heap.linkNew active)) :
    Clean self (heap.create self calls) := by
  obtain ⟨next, constructed, after, registered, _⟩ := construct_registers coherent vacant active
  refine ⟨.returned, next, ?_, after, fun _ => registered⟩
  rw [succeed, initialise_finishes active constructed]

/-- Calls that link the block, one of which then fails. -/
theorem create_dangles {calls : List UvCall} {failure : Failure} (active : Bool)
    (fails : heap.create self calls =
      .ok (.threw failure, (heap.linkNew active).free heap.fresh)) :
    Dangles (heap.create self calls) :=
  ⟨failure, _, heap.fresh, fails, by simp [Heap.linkNew], by simp⟩

/-- One initialiser that links the block only when it succeeds. -/
theorem create_uvInit_clean (coherent : Coherent heap) (vacant : heap.wrappers self = none)
    (active : Bool) (code : Int) : Clean self (heap.create self [uvInit active code]) := by
  by_cases failed : code < 0
  · have allocated := (heap.setBlock_blocks heap.fresh heap.fresh
      ⟨true, false, 0, .opened, .null, false, false⟩).trans (if_pos rfl)
    have freed : heap.alloc.2.poolFree heap.alloc.1 = .ok (heap.alloc.2.free heap.fresh) :=
      Heap.poolFree_ok allocated rfl
    refine ⟨.threw (uvThrow code), _, ?_, coherent.allocFree, nofun⟩
    exact initialise_throws (uvInit_refused heap active failed) failed freed
  · have succeeded : 0 ≤ code := Int.not_lt.mp failed
    exact create_clean coherent vacant active
      (initialise_continues (uvInit_linked heap active succeeded) succeeded)

/-- `TcpSocket::Create` leaves nothing behind that is half made. -/
theorem tcpSocketCreate_clean (coherent : Coherent heap) (vacant : heap.wrappers self = none) :
    Clean self (heap.tcpSocketCreate self) :=
  create_clean coherent vacant false
    (initialise_continues (uvTcpInit_linked heap) (Int.le_refl 0))

/-- The client of a failed accept has been linked and is freed. -/
theorem accept_clean_or_dangles (coherent : Coherent heap) (vacant : heap.wrappers self = none)
    (accept : Int) :
    (0 ≤ accept → Clean self (heap.create self [uvTcpInit, uvAccept accept])) ∧
      (accept < 0 → Dangles (heap.create self [uvTcpInit, uvAccept accept])) := by
  have linked : heap.create self [uvTcpInit, uvAccept accept] =
      Heap.initialise self heap.fresh [uvAccept accept] (heap.linkNew false) :=
    initialise_continues (uvTcpInit_linked heap) (Int.le_refl 0)
  constructor
  · intro succeeded
    exact create_clean coherent vacant false
      (linked.trans (initialise_continues (uvAccept_linked heap false accept) succeeded))
  · intro failed
    exact create_dangles false
      (linked.trans (initialise_throws (uvAccept_linked heap false accept) failed
        (poolFree_linkNew heap false)))

/-- The process handle of a failed spawn has been linked and is freed. -/
theorem spawn_clean_or_dangles (coherent : Coherent heap) (vacant : heap.wrappers self = none)
    (spawn : Int) :
    (0 ≤ spawn → Clean self (heap.subProcessSpawn self spawn)) ∧
      (spawn < 0 → Dangles (heap.subProcessSpawn self spawn)) := by
  constructor
  · intro succeeded
    exact create_clean coherent vacant (decide (0 ≤ spawn))
      (initialise_continues (uvSpawn_linked heap spawn) succeeded)
  · intro failed
    exact create_dangles (decide (0 ≤ spawn))
      (initialise_throws (uvSpawn_linked heap spawn) failed (poolFree_linkNew heap _))

/-- A failed bind closes the new socket, which stays allocated until then. The wrapper is
destroyed on the way out, which closes its handle, and the block is released by its close
callback. -/
theorem udpSocketCreateBound_clean (coherent : Coherent heap)
    (vacant : heap.wrappers self = none) (udpInit udpBind : Int) :
    Clean self (heap.udpSocketCreateBound self udpInit udpBind) := by
  obtain ⟨outcome, next, created, after, registered⟩ :=
    create_uvInit_clean coherent vacant false udpInit
  have first : heap.udpSocketCreate self udpInit = .ok (outcome, next) := created
  cases outcome with
  | threw failure =>
    refine ⟨.threw failure, next, ?_, after, nofun⟩
    simp only [Heap.udpSocketCreateBound, first, ok_bind]
    rfl
  | returned =>
    obtain ⟨wrapper, id, live, holds, _⟩ := registered rfl
    obtain ⟨destroyed, ran, moves⟩ := destroy_moves after live
    obtain ⟨answer, asked⟩ := after.isClosing_total live
    cases answer with
    | true =>
      refine ⟨.threw (.invalidCall "Handle is already disposed"), destroyed, ?_,
        after.moves (moves_of_user moves), nofun⟩
      simp only [Heap.udpSocketCreateBound, first, ok_bind, Heap.wrapper_ok live, asked, if_true,
        ran]
      rfl
    | false =>
      by_cases failed : udpBind < 0
      · refine ⟨.threw (uvThrow udpBind), destroyed, ?_, after.moves (moves_of_user moves), nofun⟩
        simp only [Heap.udpSocketCreateBound, first, ok_bind, Heap.wrapper_ok live, asked,
          Bool.false_eq_true, if_false, failed, if_true, ran]
        rfl
      · refine ⟨.returned, next, ?_, after, registered⟩
        simp only [Heap.udpSocketCreateBound, first, ok_bind, Heap.wrapper_ok live, asked,
          Bool.false_eq_true, if_false, failed]
        rfl

/-- Every factory call is clean, except that a failed accept or spawn dangles. All factories
allocate, initialise and give the block to a wrapper; an initialiser that fails before it has
put the block into the queue leaves nothing behind. -/
theorem Factory.run_clean (coherent : Coherent heap) {factory : Factory}
    (enabled : factory.Enabled heap self) (linksLast : factory.LinksLast heap) :
    Clean self (factory.run heap self) := by
  cases factory with
  | timer timerInit => exact create_uvInit_clean coherent enabled false timerInit
  | eventHandle type eventInit =>
    cases type with
    | prepare => exact create_uvInit_clean coherent enabled false eventInit
    | idle => exact create_uvInit_clean coherent enabled false eventInit
    | check => exact create_uvInit_clean coherent enabled false eventInit
  | signal signalInit => exact create_uvInit_clean coherent enabled false signalInit
  | fsEvent fsEventInit => exact create_uvInit_clean coherent enabled false fsEventInit
  | poll pollInit => exact create_uvInit_clean coherent enabled false pollInit
  | asyncNotifier asyncInit => exact create_uvInit_clean coherent enabled true asyncInit
  | pipe pipeInit => exact create_uvInit_clean coherent enabled false pipeInit
  | udpSocket udpInit => exact create_uvInit_clean coherent enabled false udpInit
  | udpSocketBound udpInit udpBind =>
    exact udpSocketCreateBound_clean coherent enabled udpInit udpBind
  | tcpSocket => exact tcpSocketCreate_clean coherent enabled
  | tcpSocketAccept listener accept =>
    obtain ⟨vacant, present⟩ := enabled
    obtain ⟨wrapper, live⟩ := Option.isSome_iff_exists.mp present
    obtain ⟨answer, asked⟩ := coherent.isClosing_total live
    cases answer with
    | true =>
      refine ⟨.threw (.invalidCall "Handle is already disposed"), heap, ?_, coherent, nofun⟩
      simp only [Factory.run, Heap.tcpSocketAccept, Heap.wrapper_ok live, ok_bind, asked, if_true]
      rfl
    | false =>
      have succeeded : 0 ≤ accept := by
        rcases linksLast with closing | succeeded
        · have closed := closing wrapper live
          rw [asked] at closed
          cases closed
        · exact succeeded
      have clean := (accept_clean_or_dangles coherent vacant accept).1 succeeded
      simpa only [Factory.run, Heap.tcpSocketAccept, Heap.wrapper_ok live, ok_bind, asked,
        Bool.false_eq_true, if_false] using clean
  | subProcess spawn => exact (spawn_clean_or_dangles coherent enabled spawn).1 linksLast

/-- A function that links a handle first and fails then frees the block while it is in the queue.
-/
theorem Factory.run_dangles (coherent : Coherent heap) {factory : Factory}
    (enabled : factory.Enabled heap self) (linksFirst : ¬ factory.LinksLast heap) :
    Dangles (factory.run heap self) := by
  cases factory with
  | tcpSocketAccept listener accept =>
    obtain ⟨vacant, present⟩ := enabled
    obtain ⟨notClosing, failed⟩ := not_or.mp linksFirst
    obtain ⟨wrapper, live⟩ := Option.isSome_iff_exists.mp present
    obtain ⟨answer, asked⟩ := coherent.isClosing_total live
    cases answer with
    | true =>
      refine absurd ?_ notClosing
      intro other live'
      obtain rfl : wrapper = other := Option.some.inj (live.symm.trans live')
      exact asked
    | false =>
      have dangles := (accept_clean_or_dangles coherent vacant accept).2 (Int.not_le.mp failed)
      simpa only [Factory.run, Heap.tcpSocketAccept, Heap.wrapper_ok live, ok_bind, asked,
        Bool.false_eq_true, if_false] using dangles
  | subProcess spawn =>
    exact (spawn_clean_or_dangles coherent enabled spawn).2 (Int.not_le.mp linksFirst)
  | _ => exact absurd trivial linksFirst

end Clean

section Runs

/-- A creation that the last step made. -/
structure Creation where
  self : Pointer
  outcome : Outcome

/-- The steps of a run that also calls factories. -/
inductive LoopAction where
  | handle (action : Action)
  | create (factory : Factory) (self : Pointer)

def LoopAction.run (heap : Heap) : LoopAction → Except Fault (Heap × Option Creation)
  | .handle action => do
    let heap ← action.run heap
    pure (heap, none)
  | .create factory self => do
    let (outcome, heap) ← factory.run heap self
    pure (heap, some ⟨self, outcome⟩)

def LoopAction.Enabled (heap : Heap) : LoopAction → Prop
  | .handle action => action.Enabled heap
  | .create factory self => factory.Enabled heap self

def LoopAction.LinksLast (heap : Heap) : LoopAction → Prop
  | .handle _ => True
  | .create factory _ => factory.LinksLast heap

def creationSystem : System (Heap × Option Creation) LoopAction Fault where
  enabled state action := action.Enabled state.1
  step state action := action.run state.1

instance (heap : Heap) (self : Pointer) : (factory : Factory) →
    Decidable (factory.Enabled heap self)
  | .tcpSocketAccept listener _ => inferInstanceAs
      (Decidable (heap.wrappers self = none ∧ (heap.wrappers listener).isSome = true))
  | .timer _ | .eventHandle _ _ | .signal _ | .fsEvent _ | .poll _ | .asyncNotifier _ | .pipe _
  | .udpSocket _ | .udpSocketBound _ _ | .tcpSocket | .subProcess _ =>
    inferInstanceAs (Decidable (heap.wrappers self = none))

instance (heap : Heap) : (factory : Factory) → Decidable (factory.LinksLast heap)
  | .tcpSocketAccept listener accept => inferInstanceAs (Decidable
      ((∀ wrapper ∈ heap.wrappers listener, heap.isClosing wrapper = .ok true) ∨ 0 ≤ accept))
  | .subProcess spawn => inferInstanceAs (Decidable (0 ≤ spawn))
  | .timer _ | .eventHandle _ _ | .signal _ | .fsEvent _ | .poll _ | .asyncNotifier _ | .pipe _
  | .udpSocket _ | .udpSocketBound _ _ | .tcpSocket => inferInstanceAs (Decidable True)

instance (state : Heap × Option Creation) : (action : LoopAction) →
    Decidable (creationSystem.enabled state action)
  | .handle action => inferInstanceAs (Decidable (handleSystem.enabled state.1 action))
  | .create factory self => inferInstanceAs (Decidable (factory.Enabled state.1 self))

instance (heap : Heap) : (action : LoopAction) → Decidable (action.LinksLast heap)
  | .handle _ => inferInstanceAs (Decidable True)
  | .create factory _ => inferInstanceAs (Decidable (factory.LinksLast heap))

/-- No freed block is in the handle queue, and a creation that returned gave its
wrapper a block of the queue. -/
structure QueueSound (state : Heap × Option Creation) : Prop where
  allocated : ∀ id ∈ state.1.queue, (state.1.blocks id).isSome = true
  returned : ∀ creation, state.2 = some creation → creation.outcome = .returned →
    OwnsRegistered state.1 creation.self

/-- In a coherent loop each handle of the queue has its block. -/
theorem Coherent.queue_allocated (coherent : Coherent heap) :
    ∀ id ∈ heap.queue, (heap.blocks id).isSome = true := by
  intro id member
  obtain ⟨block, allocated, _⟩ := coherent.linked.allocated member
  rw [allocated]
  rfl

/-- Wrapper operations keep the heap coherent, leaking or not. -/
theorem Coherent.run (coherent : Coherent heap) {action : Action}
    (enabled : action.Enabled heap) : ∃ next, action.run heap = .ok next ∧ Coherent next := by
  by_cases reclaims : action.Reclaims heap
  · obtain ⟨next, ran, moves⟩ := coherent.run_moves enabled reclaims
    exact ⟨next, ran, coherent.moves moves⟩
  · obtain ⟨middle, next, ran, leak, moves⟩ := coherent.run_leaks enabled reclaims
    exact ⟨next, ran, (coherent.leak leak).moves (moves_of_user moves)⟩

/-- A step that links last keeps the heap coherent and the queue sound. -/
theorem LoopAction.run_sound (coherent : Coherent heap) {action : LoopAction}
    (enabled : action.Enabled heap) (linksLast : action.LinksLast heap) :
    ∃ next, action.run heap = .ok next ∧ Coherent next.1 ∧ QueueSound next := by
  cases action with
  | handle action =>
    obtain ⟨next, ran, after⟩ := coherent.run enabled
    exact ⟨(next, none), by simp only [LoopAction.run, ran]; rfl, after, after.queue_allocated,
      nofun⟩
  | create factory self =>
    obtain ⟨outcome, next, ran, after, registered⟩ := factory.run_clean coherent enabled linksLast
    refine ⟨(next, some ⟨self, outcome⟩), by simp only [LoopAction.run, ran]; rfl, after,
      after.queue_allocated, ?_⟩
    rintro creation ⟨⟩ returned
    exact registered returned

/-- Any other step leaves a freed block in the queue. -/
theorem LoopAction.run_unsound (coherent : Coherent heap) {action : LoopAction}
    (enabled : action.Enabled heap) (linksFirst : ¬ action.LinksLast heap) :
    ∃ next, action.run heap = .ok next ∧ ¬ QueueSound next := by
  cases action with
  | handle action => exact absurd trivial linksFirst
  | create factory self =>
    obtain ⟨failure, next, id, ran, member, freed⟩ :=
      factory.run_dangles coherent enabled linksFirst
    refine ⟨(next, some ⟨self, .threw failure⟩), by simp only [LoopAction.run, ran]; rfl, ?_⟩
    intro sound
    have present := sound.allocated id member
    rw [freed] at present
    cases present

/-- From every coherent loop and for every run of operations and creations with
any return codes: the queue stays sound exactly when no `uv_accept` on an open
listener and no `uv_spawn` of the run fails. -/
theorem queue_sound_iff (start : Heap) (coherent : Coherent start) (actions : List LoopAction)
    (legal : creationSystem.Legal (start, none) actions) :
    creationSystem.Throughout QueueSound (start, none) actions ↔
      creationSystem.Guarded (fun state action => action.LinksLast state.1) (start, none)
        actions := by
  refine creationSystem.throughout_iff_guarded (fun state => Coherent state.1) QueueSound _ ?_ ?_
    coherent ⟨coherent.queue_allocated, nofun⟩ legal
  · intro state action coherent _ enabled
    constructor
    · intro linksLast
      obtain ⟨next, ran, _, sound⟩ := action.run_sound coherent enabled linksLast
      exact ⟨next, ran, sound⟩
    · rintro ⟨next, ran, sound⟩
      by_contra linksFirst
      obtain ⟨other, ran', unsound⟩ := action.run_unsound coherent enabled linksFirst
      obtain rfl : next = other := Except.ok.inj (ran.symm.trans ran')
      exact unsound sound
  · intro state action next coherent _ enabled linksLast stepped
    obtain ⟨other, ran, after, _⟩ := action.run_sound coherent enabled linksLast
    obtain rfl : other = next := Except.ok.inj (ran.symm.trans stepped)
    exact after

/-- A timer whose initialiser fails, a bind that fails, and an accept and a spawn
that succeed. -/
theorem queue_sound_failures :
    creationSystem.Throughout QueueSound (Heap.loopInit, none)
      [.create (.timer (-12)) wrapperA, .create (.udpSocketBound 0 (-98)) wrapperA,
        .create .tcpSocket wrapperA, .create (.tcpSocketAccept wrapperA 0) wrapperB,
        .handle (.destroy wrapperB), .create (.subProcess 0) wrapperB,
        .handle .forceCloseAllHandle] :=
  (queue_sound_iff Heap.loopInit loopInit_consistent.coherent _
    (creationSystem.legal_of_check (by decide))).mpr (creationSystem.guarded_of_check (by decide))

/-- An accept that finds no pending connection (`UV_EAGAIN`) and a spawn of a
missing program (`UV_ENOENT`) each leave their freed block in the queue. -/
theorem queue_sound_false_accept_spawn :
    let accept := [.create .tcpSocket wrapperA, .create (.tcpSocketAccept wrapperA (-11)) wrapperB]
    let spawn := [.create (.subProcess (-2)) wrapperA]
    (creationSystem.Legal (Heap.loopInit, none) accept ∧
      ¬ creationSystem.Throughout QueueSound (Heap.loopInit, none) accept) ∧
    (creationSystem.Legal (Heap.loopInit, none) spawn ∧
      ¬ creationSystem.Throughout QueueSound (Heap.loopInit, none) spawn) := by
  intro accept spawn
  have dangles (actions : List LoopAction) (id : HandleId)
      (ended : (creationSystem.exec (Heap.loopInit, none) actions).map
        (fun state => (decide (id ∈ state.1.queue), state.1.blocks id)) = .ok (true, none)) :
      ¬ creationSystem.Throughout QueueSound (Heap.loopInit, none) actions := by
    intro throughout
    obtain ⟨final, executed⟩ := throughout.1
    have sound : QueueSound final := System.Throughout.final creationSystem throughout executed
    rw [executed] at ended
    obtain ⟨member, freed⟩ := Prod.mk.inj (Except.ok.inj ended)
    have present := sound.allocated id (of_decide_eq_true member)
    rw [freed] at present
    cases present
  exact ⟨⟨creationSystem.legal_of_check (by decide), dangles accept 3 rfl⟩,
    ⟨creationSystem.legal_of_check (by decide), dangles spawn 2 rfl⟩⟩

end Runs

end MoeUV
