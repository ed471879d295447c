import MoeUV.Completion.Sockets

/-!
# What a handler does between two callbacks

libuv calls back for a handle only as long as its close has not been delivered, so a
handler always finds the block of its handle, before and after the callbacks of the
program. What `data` names is then the live owner of the handle, whatever the program
did with the wrapper that the handler was called for.

Between two callbacks a handler only closes the handle, if anything. It either returns
and releases what it owns, or waits for the next callback and keeps it. One lemma for
each part of the handlers says so, and those of the handlers are put together from them.
-/

namespace MoeUV

open Foundation.Execution

variable {Callback : Type}

/-- libuv may still call back for the handle. -/
def Served (heap : Heap) (id : HandleId) : Prop := Unclosed heap id ∧ Pooled heap id

/-- The handle and the wrapper that a waiting handler was called for. -/
def Point.site : Point → Option (HandleId × Pointer)
  | .done => none
  | .completion handle self _ | .error handle self | .errorInTry handle self =>
    some (handle, self)

section Serving

variable {heap next : Heap} {id : HandleId} {self : Pointer}

/-- Whether a handle is still to be served can be computed. -/
theorem serves_iff : heap.serves id = true ↔ Served heap id := by
  cases present : heap.blocks id with
  | none => simp [Heap.serves, present, Served, Unclosed]
  | some block => simp [Heap.serves, present, Served, Unclosed, Pooled, and_comm]

/-- What is open and from the pool. -/
theorem reads_iff : heap.reads id = true ↔
    ∃ block, heap.blocks id = some block ∧ block.pooled = true ∧ block.phase = .opened := by
  simp [Heap.reads, Option.any_eq_true]

/-- libuv may call back for a handle that it reads for. -/
theorem served_of_reads (reads : heap.reads id = true) : Served heap id := by
  obtain ⟨block, present, pooled, opened⟩ := reads_iff.mp reads
  refine ⟨⟨block, present, by simp [opened]⟩, ?_⟩
  intro found present'
  exact Option.some.inj (present.symm.trans present') ▸ pooled

/-- A handle that is served was allocated. -/
theorem Served.born (served : Served heap id) (linked : Linked heap) : id < heap.fresh := by
  obtain ⟨⟨block, present, _⟩, _⟩ := served
  exact linked.born present

/-- What the program does by itself takes no handle out of service. -/
theorem Served.moves (served : Served heap id) (coherent : Coherent heap)
    (moves : UserMoves heap next) : Served next id :=
  ⟨served.1.userMoves coherent moves,
    served.2.evolves (.of_moves (moves_of_user moves)) (served.born coherent.linked)⟩

/-- A served handle keeps being served through every operation but the delivery of its
own close. -/
theorem Served.run (served : Served heap id) (coherent : Coherent heap) {action : Action}
    (enabled : action.Enabled heap) (ran : action.run heap = .ok next)
    (other : id ∉ action.delivered) : Served next id := by
  obtain ⟨reached, ran', _, _, kept⟩ := coherent.run_unclosed enabled
  obtain rfl : next = reached := Except.ok.inj (ran.symm.trans ran')
  refine ⟨kept id ?_ served.1, ?_⟩
  · rintro rfl
    exact other rfl
  · exact served.2.evolves (coherent.run_evolves enabled ran) (served.born coherent.linked)

/-- The owner of a handle is still the wrapper, or nobody can be called any more. -/
def Heap.StillOwns (heap : Heap) (self : Pointer) (id : HandleId) : Prop :=
  ∀ block, heap.blocks id = some block → block.phase = .opened →
    dataToHandle block.data = some self

/-- A served handle without an owner is not open. -/
theorem Served.shut_of_unnamed (served : Served heap id) (owned : Owned heap) {block : Block}
    (present : heap.blocks id = some block) (unnamed : dataToHandle block.data = none) :
    Shut heap id := by
  intro found present' opened
  obtain rfl : block = found := Option.some.inj (present.symm.trans present')
  have held := (owned.getSelf_isSome present).mpr (served.2.held owned present opened)
  rw [unnamed] at held
  cases held

end Serving

/-- What a handler has done when it returns or waits for its next callback. Where it
returns from an error, the handle is shut under the given condition only. -/
structure Segment (sockets next : Sockets Callback) (owned : List BlockId)
    (handle : Option HandleId) (settles : Prop) : Prop where
  moves : UserMoves sockets.heap next.heap
  members : next.members = sockets.members
  pending : next.pending = sockets.pending
  lent : next.lent = sockets.lent
  memory : next.memory = sockets.memory
  ends : (next.frame = none ∧ next.log = sockets.log ++ owned.map (.released · .handler)) ∨
    ∃ point, next.frame = some ⟨owned, point⟩ ∧ next.log = sockets.log ∧
      ∀ site ∈ point.site, handle = some site.1
  failed : (next.failed = sockets.failed ∧ settles) ∨
    ∃ id, handle = some id ∧ next.failed = id :: sockets.failed ∧ (Shut next.heap id ↔ settles)

variable {sockets next : Sockets Callback} {owned : List BlockId} {handle : HandleId}
  {self : Pointer}

section Parts

/-- A handler that returns without an error. -/
theorem leave_segment (handle : Option HandleId) :
    Segment sockets (sockets.leave owned none) owned handle True :=
  ⟨.refl, rfl, rfl, rfl, rfl, Or.inl ⟨rfl, rfl⟩, Or.inl ⟨rfl, trivial⟩⟩

/-- A handler that returns from an error and leaves the handle as it is. -/
theorem leave_failed_segment {settles : Prop} (shut : Shut sockets.heap handle ↔ settles) :
    Segment sockets (sockets.leave owned (some handle)) owned (some handle) settles :=
  ⟨.refl, rfl, rfl, rfl, rfl, Or.inl ⟨rfl, rfl⟩, Or.inr ⟨handle, rfl, rfl, shut⟩⟩

/-- A handler that finds the handle with another wrapper, or with none, returns. -/
theorem leave_unowned_segment {block : Block}
    (present : sockets.heap.blocks handle = some block)
    (unowned : dataToHandle block.data ≠ some self) :
    Segment sockets (sockets.leave owned (some handle)) owned (some handle)
      (sockets.heap.StillOwns self handle) := by
  refine leave_failed_segment ⟨?_, ?_⟩
  · intro shut found present' opened
    exact absurd opened (shut found present')
  · intro still found present' opened
    have names := still found present' opened
    exact unowned (Option.some.inj (present.symm.trans present') ▸ names)

/-- A handler that waits for a callback. -/
theorem await_segment {settles : Prop} (settled : settles) (callback : Callback)
    (argument : Option Int) (point : Point) {handle : Option HandleId}
    (site : ∀ site ∈ point.site, handle = some site.1) :
    Segment sockets (sockets.await callback argument ⟨owned, point⟩) owned handle settles :=
  ⟨.refl, rfl, rfl, rfl, rfl, Or.inr ⟨point, rfl, rfl, site⟩, Or.inl ⟨rfl, settled⟩⟩

/-- The wrapper that `data` names is there and holds the handle. -/
theorem invoke_named (owned : Owned sockets.heap) {block : Block}
    (present : sockets.heap.blocks handle = some block)
    (named : dataToHandle block.data = some self) :
    sockets.invoke self handle = .ok () := by
  obtain ⟨wrapper, live, holds⟩ := owned.named_by present named
  simp only [Sockets.invoke, Heap.wrapper_ok live, ok_bind, if_pos holds]
  rfl

/-- After a handler was called for a handle, its last act closes the handle, unless the
handle has another owner by then. -/
theorem closeIfOwner_segment (coherent : Coherent sockets.heap)
    (served : Served sockets.heap handle) (owned : List BlockId) (self : Pointer) :
    ∃ next, sockets.closeIfOwner owned handle self = .ok next ∧
      Segment sockets next owned (some handle) (sockets.heap.StillOwns self handle) := by
  obtain ⟨block, present, _⟩ := served.1
  by_cases named : dataToHandle block.data = some self
  · obtain ⟨wrapper, live, holds⟩ := coherent.owned.named_by present named
    obtain ⟨result, heap, changed, closed, moves, _, present', phase⟩ :=
      close_held coherent live holds present
    refine ⟨{ sockets with heap := heap }.leave owned (some handle), ?_,
      moves, rfl, rfl, rfl, rfl, Or.inl ⟨rfl, rfl⟩, Or.inr ⟨handle, rfl, rfl, ?_⟩⟩
    · simp only [Sockets.closeIfOwner, getSelf_ok present, ok_bind, if_pos named,
        invoke_named coherent.owned present named, closed]
      rfl
    · refine iff_of_true ?_ ?_
      · intro after present'' opened
        obtain rfl : changed = after := Option.some.inj (present'.symm.trans present'')
        rw [phase] at opened
        split at opened <;> cases opened
      · intro found present'' _
        exact Option.some.inj (present.symm.trans present'') ▸ named
  · refine ⟨_, ?_, leave_unowned_segment present named⟩
    simp only [Sockets.closeIfOwner, getSelf_ok present, ok_bind, if_neg named]
    rfl

/-- `OnError` is called on the owner, and either nothing is registered and the handle is
closed at once, or the handler waits. -/
theorem onError_segment (coherent : Coherent sockets.heap) (served : Served sockets.heap handle)
    {block : Block} (present : sockets.heap.blocks handle = some block)
    (named : dataToHandle block.data = some self) (owned : List BlockId) (status : Int)
    (point : Point) (site : point.site = some (handle, self)) :
    ∃ next, sockets.onError owned handle self status point = .ok next ∧
      Segment sockets next owned (some handle) (sockets.heap.StillOwns self handle) := by
  have called := invoke_named coherent.owned present named
  cases registered : sockets.members self .onError with
  | none =>
    obtain ⟨next, closed, segment⟩ := closeIfOwner_segment coherent served owned self
    refine ⟨next, ?_, segment⟩
    simp only [Sockets.onError, called, ok_bind, registered, closed]
  | some callback =>
    refine ⟨_, ?_, await_segment ?_ callback (some status) point ?_⟩
    · simp only [Sockets.onError, called, ok_bind, registered]
      rfl
    · intro found present' _
      exact Option.some.inj (present.symm.trans present') ▸ named
    · intro found member
      rw [site] at member
      cases member
      rfl

/-- A member that is the last one to be called. -/
theorem notify_segment (coherent : Coherent sockets.heap) {block : Block}
    (present : sockets.heap.blocks handle = some block)
    (named : dataToHandle block.data = some self) (member : Member) (owned : List BlockId)
    (argument : Option Int) :
    ∃ next, sockets.notify member owned handle self argument = .ok next ∧
      Segment sockets next owned (some handle) True := by
  have called := invoke_named coherent.owned present named
  cases registered : sockets.members self member with
  | none =>
    refine ⟨_, ?_, leave_segment (some handle)⟩
    simp only [Sockets.notify, called, ok_bind, registered]
    rfl
  | some callback =>
    refine ⟨_, ?_, await_segment trivial callback argument .done nofun⟩
    simp only [Sockets.notify, called, ok_bind, registered]
    rfl

/-- The wrapper that `data` names owns the handle. -/
theorem stillOwns_of_named {heap : Heap} {block : Block} (present : heap.blocks handle = some block)
    (named : dataToHandle block.data = some self) : heap.StillOwns self handle := by
  intro found present' _
  exact Option.some.inj (present.symm.trans present') ▸ named

/-- A segment settles what is the same by another name. -/
theorem Segment.congr {settles other : Prop} {handle : Option HandleId}
    (segment : Segment sockets next owned handle settles) (same : settles ↔ other) :
    Segment sockets next owned handle other := by
  obtain rfl : settles = other := propext same
  exact segment

/-- The first callback after an error is always `OnError` of the owner, if none came
before it. -/
theorem onError_entry (coherent : Coherent sockets.heap) (served : Served sockets.heap handle)
    {block : Block} (present : sockets.heap.blocks handle = some block)
    (named : dataToHandle block.data = some self) (owned : List BlockId) (status : Int)
    (point : Point) (site : point.site = some (handle, self)) :
    ∃ next, sockets.onError owned handle self status point = .ok next ∧
      Segment sockets next owned (some handle) True := by
  obtain ⟨next, ran, segment⟩ :=
    onError_segment coherent served present named owned status point site
  exact ⟨next, ran, segment.congr (iff_of_true (stillOwns_of_named present named) trivial)⟩

/-- A handler that finds no wrapper returns. -/
theorem leave_unnamed_segment (settled : Shut sockets.heap handle) (failing : Bool) :
    Segment sockets (sockets.leave owned (Sockets.errorOf handle failing)) owned (some handle)
      True := by
  cases failing with
  | false => exact leave_segment (some handle)
  | true => exact leave_failed_segment (iff_of_true settled trivial)

end Parts

section Handlers

/-- `MOE_UV_GET_SELF` finds a wrapper. -/
def Heap.dispatches (heap : Heap) (id : HandleId) : Bool :=
  (heap.blocks id).any fun block => (dataToHandle block.data).isSome

/-- A handle is dispatched to the wrapper that its data names. -/
theorem dispatches_of_named {heap : Heap} {id : HandleId} {block : Block}
    {wrapper : Option Pointer} (present : heap.blocks id = some block)
    (named : dataToHandle block.data = wrapper) : heap.dispatches id = wrapper.isSome := by
  rw [Heap.dispatches, present, Option.any_some, named]

/-- A handle that libuv reads for has a wrapper: destroying the wrapper, or assigning over
it, would have begun to close the handle. -/
theorem dispatches_of_reads {heap : Heap} {id : HandleId} (owned : Owned heap)
    (reads : heap.reads id = true) : heap.dispatches id = true := by
  obtain ⟨block, present, _, opened⟩ := reads_iff.mp reads
  have held := (served_of_reads reads).2.held owned present opened
  rw [dispatches_of_named present rfl]
  exact (owned.getSelf_isSome present).mpr held

variable (coherent : Coherent sockets.heap) (served : Served sockets.heap handle)

include coherent served

/-- A callback of a member function gives its blocks back, whatever the member does. -/
theorem onStatus_segment (member : Member) (owned : List BlockId) (status : Int) :
    ∃ next, sockets.onStatus member owned handle status = .ok next ∧
      Segment sockets next owned (some handle) True := by
  obtain ⟨block, present, _⟩ := served.1
  cases named : dataToHandle block.data with
  | none =>
    have shut := served.shut_of_unnamed coherent.owned present named
    refine ⟨_, ?_, leave_unnamed_segment shut (status ≠ 0)⟩
    simp only [Sockets.onStatus, getSelf_ok present, ok_bind, named]
    rfl
  | some self =>
    by_cases failed : status ≠ 0
    · obtain ⟨next, ran, segment⟩ :=
        onError_entry coherent served present named owned status (.error handle self) rfl
      refine ⟨next, ?_, segment⟩
      simp only [Sockets.onStatus, getSelf_ok present, ok_bind, named, if_pos failed, ran]
    · obtain ⟨next, ran, segment⟩ := notify_segment coherent present named member owned none
      refine ⟨next, ?_, segment⟩
      simp only [Sockets.onStatus, getSelf_ok present, ok_bind, named, if_neg failed, ran]

/-- After the callback of the request, the wrapper is called if it still owns the
handle. -/
theorem afterCompletion_segment (owned : List BlockId) (self : Pointer) (status : Int) :
    ∃ next, sockets.afterCompletion owned handle self status = .ok next ∧
      Segment sockets next owned (some handle) (sockets.heap.StillOwns self handle) := by
  obtain ⟨block, present, _⟩ := served.1
  by_cases named : dataToHandle block.data = some self
  · obtain ⟨next, ran, segment⟩ :=
      onError_segment coherent served present named owned status (.error handle self) rfl
    refine ⟨next, ?_, segment⟩
    simp only [Sockets.afterCompletion, getSelf_ok present, ok_bind, if_pos named, ran]
  · refine ⟨_, ?_, leave_unowned_segment present named⟩
    simp only [Sockets.afterCompletion, getSelf_ok present, ok_bind, if_neg named]
    rfl

/-- So does one of a stored function. Without a wrapper the status is dropped. With one, the
stored function is called if there is one, and `afterCompletion` reports the error of a failed
request. -/
theorem onCompletion_segment (callback : Option Callback) (owned : List BlockId) (status : Int) :
    ∃ next, sockets.onCompletion callback owned handle status = .ok next ∧
      Segment sockets next owned (some handle) True := by
  obtain ⟨block, present, _⟩ := served.1
  cases named : dataToHandle block.data with
  | none =>
    have shut := served.shut_of_unnamed coherent.owned present named
    refine ⟨_, ?_, leave_unnamed_segment shut (status ≠ 0)⟩
    simp only [Sockets.onCompletion, getSelf_ok present, ok_bind, named]
    rfl
  | some self =>
    by_cases failed : status ≠ 0
    · cases callback with
      | none =>
        obtain ⟨next, ran, segment⟩ :=
          afterCompletion_segment coherent served owned self status
        refine ⟨next, ?_, segment.congr (iff_of_true (stillOwns_of_named present named) trivial)⟩
        simp only [Sockets.onCompletion, getSelf_ok present, ok_bind, named, if_pos failed, ran]
      | some callback =>
        refine ⟨_, ?_, await_segment trivial callback (some status)
          (.completion handle self status) (by rintro site ⟨⟩; rfl)⟩
        simp only [Sockets.onCompletion, getSelf_ok present, ok_bind, named, if_pos failed]
        rfl
    · cases callback with
      | none =>
        refine ⟨_, ?_, leave_segment (some handle)⟩
        simp only [Sockets.onCompletion, getSelf_ok present, ok_bind, named, if_neg failed]
        rfl
      | some callback =>
        refine ⟨_, ?_, await_segment trivial callback (some 0) .done nofun⟩
        simp only [Sockets.onCompletion, getSelf_ok present, ok_bind, named, if_neg failed]
        rfl

/-- The callback of a connection gives back the request. -/
theorem tcpOnUVConnect_segment {request : Pending Callback} (status : Int) :
    ∃ next, sockets.tcpOnUVConnect request handle status = .ok next ∧
      Segment sockets next request.owner (some handle) True := by
  obtain ⟨block, present, _⟩ := served.1
  cases named : dataToHandle block.data with
  | none =>
    refine ⟨_, ?_, leave_segment (some handle)⟩
    simp only [Sockets.tcpOnUVConnect, getSelf_ok present, ok_bind, named]
    rfl
  | some self =>
    obtain ⟨next, ran, segment⟩ :=
      notify_segment coherent present named .onConnect request.owner (some status)
    refine ⟨next, ?_, segment⟩
    simp only [Sockets.tcpOnUVConnect, getSelf_ok present, ok_bind, named, ran]

/-- The buffer gets an owner only if the handle has one. If `data` is null, the handler returns
before the buffer is wrapped, so the buffer stays where it was; otherwise the length decides
which callback is made, and the buffer is given back behind it. -/
theorem onUVRead_segment (base : Option BlockId) (nread : Int) :
    ∃ next, sockets.onUVRead handle base nread = .ok next ∧
      Segment sockets next (if sockets.heap.dispatches handle then base.toList else [])
        (some handle) True := by
  obtain ⟨block, present, _⟩ := served.1
  cases named : dataToHandle block.data with
  | none =>
    have shut := served.shut_of_unnamed coherent.owned present named
    have lost : sockets.heap.dispatches handle = false := dispatches_of_named present named
    rw [lost]
    refine ⟨_, ?_, leave_unnamed_segment shut (nread < 0 ∧ nread ≠ UV_EOF)⟩
    simp only [Sockets.onUVRead, getSelf_ok present, ok_bind, named]
    rfl
  | some self =>
    have found : sockets.heap.dispatches handle = true := dispatches_of_named present named
    rw [found, if_pos rfl]
    have entered : sockets.onUVRead handle base nread =
        if nread < 0 then
          if nread = UV_EOF then sockets.notify .onEof base.toList handle self none
          else sockets.onError base.toList handle self nread (.errorInTry handle self)
        else if nread > 0 then sockets.notify .onData base.toList handle self (some nread)
        else pure (sockets.leave base.toList none) := by
      simp only [Sockets.onUVRead, getSelf_ok present, ok_bind, named]
    rw [entered]
    by_cases failed : nread < 0
    · rw [if_pos failed]
      by_cases finished : nread = UV_EOF
      · rw [if_pos finished]
        exact notify_segment coherent present named .onEof base.toList none
      · rw [if_neg finished]
        exact onError_entry coherent served present named base.toList nread
          (.errorInTry handle self) rfl
    · rw [if_neg failed]
      by_cases filled : nread > 0
      · rw [if_pos filled]
        exact notify_segment coherent present named .onData base.toList (some nread)
      · rw [if_neg filled]
        exact ⟨_, rfl, leave_segment (some handle)⟩

/-- The callback of a datagram gives back the buffer, if the handle still has its wrapper. As
for a stream, the handler returns before the buffer is wrapped if there is no wrapper. A
datagram that was cut, or of another family, is dropped. -/
theorem onUVRecv_segment (base : Option BlockId) (nread : Int) (family : BitVec 16)
    (flags : Nat) :
    ∃ next, sockets.onUVRecv handle base nread family flags = .ok next ∧
      Segment sockets next (if sockets.heap.dispatches handle then base.toList else [])
        (some handle) True := by
  obtain ⟨block, present, _⟩ := served.1
  cases named : dataToHandle block.data with
  | none =>
    have shut := served.shut_of_unnamed coherent.owned present named
    have lost : sockets.heap.dispatches handle = false := dispatches_of_named present named
    rw [lost]
    refine ⟨_, ?_, leave_unnamed_segment shut (nread < 0)⟩
    simp only [Sockets.onUVRecv, getSelf_ok present, ok_bind, named]
    rfl
  | some self =>
    have found : sockets.heap.dispatches handle = true := dispatches_of_named present named
    rw [found, if_pos rfl]
    have entered : sockets.onUVRecv handle base nread family flags =
        if nread < 0 then
          sockets.onError base.toList handle self nread (.error handle self)
        else if nread > 0 then
          if flags = Sockets.UV_UDP_PARTIAL ∨ ¬ (family = AF_INET ∨ family = AF_INET6) then
            pure (sockets.leave base.toList none)
          else sockets.notify .onData base.toList handle self (some nread)
        else pure (sockets.leave base.toList none) := by
      simp only [Sockets.onUVRecv, getSelf_ok present, ok_bind, named]
    rw [entered]
    by_cases failed : nread < 0
    · rw [if_pos failed]
      exact onError_entry coherent served present named base.toList nread (.error handle self) rfl
    · rw [if_neg failed]
      by_cases filled : nread > 0
      · rw [if_pos filled]
        split
        · exact ⟨_, rfl, leave_segment (some handle)⟩
        · exact notify_segment coherent present named .onData base.toList (some nread)
      · rw [if_neg filled]
        exact ⟨_, rfl, leave_segment (some handle)⟩

end Handlers

section Steps

/-- Where a waiting handler goes on, it leaves the handle shut under this condition. -/
def Sockets.Settles (sockets : Sockets Callback) (frame : Frame) (threw : Bool) : Prop :=
  match frame.point with
  | .done => True
  | .completion handle self _ | .error handle self => sockets.heap.StillOwns self handle
  | .errorInTry handle self =>
    if threw then Shut sockets.heap handle else sockets.heap.StillOwns self handle

/-- The DNS handlers have no handle. -/
theorem onQuery_segment (callback : Option Callback) (owned : List BlockId) (status : Int) :
    Segment sockets (sockets.onQuery callback owned status) owned none True := by
  cases callback with
  | none => exact leave_segment none
  | some callback => exact await_segment trivial callback (some status) .done nofun

/-- A completed request belongs to its handler. Each kind of request has its own handler, which
gets the status and owns the blocks of the request. -/
theorem complete_segment (coherent : Coherent sockets.heap) (request : Pending Callback)
    (served : ∀ id ∈ request.operation.handle, Served sockets.heap id) (status : Int) :
    ∃ next, sockets.complete request status = .ok next ∧
      Segment sockets next request.owner request.operation.handle True := by
  cases operation : request.operation with
  | shutdown handle =>
    have served := served handle (by rw [operation]; rfl)
    simp only [Sockets.complete, operation, Operation.handle]
    exact onStatus_segment coherent served .onShutdown request.owner status
  | write handle =>
    have served := served handle (by rw [operation]; rfl)
    simp only [Sockets.complete, operation, Operation.handle]
    exact onCompletion_segment coherent served request.callback request.owner status
  | send handle =>
    have served := served handle (by rw [operation]; rfl)
    simp only [Sockets.complete, operation, Operation.handle]
    exact onCompletion_segment coherent served request.callback request.owner status
  | pipeConnect handle =>
    have served := served handle (by rw [operation]; rfl)
    simp only [Sockets.complete, operation, Operation.handle]
    exact onStatus_segment coherent served .onConnect request.owner status
  | tcpConnect handle =>
    have served := served handle (by rw [operation]; rfl)
    simp only [Sockets.complete, operation, Operation.handle]
    exact tcpOnUVConnect_segment coherent served status
  | getAddrInfo =>
    simp only [Sockets.complete, operation, Operation.handle]
    exact ⟨_, rfl, onQuery_segment request.callback request.owner status⟩
  | getNameInfo =>
    simp only [Sockets.complete, operation, Operation.handle]
    exact ⟨_, rfl, onQuery_segment request.callback request.owner status⟩

/-- A handler that goes on keeps what it owned. What is left to do depends on the place where
the handler waited: nothing, the report of an error, or the close behind it, which `OnUVRead`
skips when the callback has thrown. -/
theorem resume_segment (coherent : Coherent sockets.heap) (frame : Frame)
    (served : ∀ site ∈ frame.point.site, Served sockets.heap site.1) (threw : Bool) :
    ∃ next, sockets.resume frame threw = .ok next ∧
      Segment sockets next frame.owned (frame.point.site.map Prod.fst)
        (sockets.Settles frame threw) := by
  cases point : frame.point with
  | done =>
    simp only [Sockets.resume, Sockets.Settles, point]
    exact ⟨_, rfl, leave_segment _⟩
  | completion handle self status =>
    have served := served (handle, self) (by rw [point]; rfl)
    simp only [Sockets.resume, Sockets.Settles, point]
    exact afterCompletion_segment coherent served frame.owned self status
  | error handle self =>
    have served := served (handle, self) (by rw [point]; rfl)
    simp only [Sockets.resume, Sockets.Settles, point]
    exact closeIfOwner_segment coherent served frame.owned self
  | errorInTry handle self =>
    have served := served (handle, self) (by rw [point]; rfl)
    simp only [Sockets.resume, Sockets.Settles, point]
    cases threw with
    | true => exact ⟨_, rfl, leave_failed_segment Iff.rfl⟩
    | false => exact closeIfOwner_segment coherent served frame.owned self

end Steps

end MoeUV
