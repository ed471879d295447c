import MoeUV.Completion.Segments

/-!
# What the handlers rely on

The wrappers, the handles, the requests and the buffers of the sockets stay in step,
whatever the program and libuv do: whoever waits to be called back is served. It follows
that no handler ever touches a wrapper that is gone, or one that has been given another
handle, and that every handler finds the block of its handle.
-/

namespace MoeUV

open Foundation.Execution

variable {Callback : Type}

/-- What holds between two steps: the wrappers and handles are coherent, the requests
and buffers that libuv has belong to served handles, and each request carries its own
object. -/
structure Sound (sockets : Sockets Callback) : Prop where
  coherent : Coherent sockets.heap
  pending : ∀ request ∈ sockets.pending, request.data = some request.object ∧
    ∀ id ∈ request.operation.handle, Served sockets.heap id
  lent : ∀ buf ∈ sockets.lent, Served sockets.heap buf.handle
  running : ∀ frame, sockets.frame = some frame → ∀ site ∈ frame.point.site,
    Served sockets.heap site.1

variable {sockets next : Sockets Callback} {owned : List BlockId} {handle : HandleId}
  {self : Pointer}

section Steps

/-- A handler leaves a sound state behind. -/
theorem Segment.sound {handle : Option HandleId} {settles : Prop} (sound : Sound sockets)
    (served : ∀ id ∈ handle, Served sockets.heap id)
    (segment : Segment sockets next owned handle settles) : Sound next := by
  have kept {id : HandleId} (served : Served sockets.heap id) : Served next.heap id :=
    served.moves sound.coherent segment.moves
  refine ⟨sound.coherent.moves (moves_of_user segment.moves), ?_, ?_, ?_⟩
  · intro request member
    obtain ⟨own, served⟩ := sound.pending request (segment.pending ▸ member)
    exact ⟨own, fun id member => kept (served id member)⟩
  · intro buf member
    exact kept (sound.lent buf (segment.lent ▸ member))
  · intro frame current site member
    rcases segment.ends with ⟨ended, _⟩ | ⟨point, waiting, _, sites⟩
    · rw [ended] at current
      cases current
    · rw [waiting] at current
      cases current
      exact kept (served site.1 (sites site member))

/-- A step that runs a handler. -/
def SocketAction.handles : SocketAction Callback → Bool
  | .complete _ _ | .read _ _ | .receive _ _ _ _ | .connection _ _ | .resume _ => true
  | .operate _ | .setCallback _ _ _ | .submit _ | .allocBuffer _ _ => false

/-- What a step does. -/
inductive Effect (sockets : Sockets Callback) : SocketAction Callback → Sockets Callback → Prop
  /-- Nothing but what happens to wrappers and handles. -/
  | beside {action : SocketAction Callback} {next : Sockets Callback}
      (outside : action.handles = false)
      (evolves : Evolves sockets.heap next.heap) (fresh : sockets.heap.fresh ≤ next.heap.fresh)
      (pending : next.pending = sockets.pending) (lent : next.lent = sockets.lent)
      (frame : next.frame = sockets.frame) (memory : next.memory = sockets.memory)
      (log : next.log = sockets.log) (failed : next.failed = sockets.failed) :
      Effect sockets action next
  | submitted {call : Call Callback} (operation : Operation) (copied : Bool)
      (callback : Option Callback) (code : Int) :
      Effect sockets (.submit call) (sockets.submit operation copied callback code).2
  | lent (handle : HandleId) (granted : Bool) :
      Effect sockets (.allocBuffer handle granted) (sockets.onUVAllocBuffer handle granted)
  | completed {index : Nat} {status : Int} {next : Sockets Callback} (request : Pending Callback)
      (present : sockets.pending[index]? = some request) (idle : sockets.frame = none)
      (own : request.data = some request.object)
      (segment : Segment { sockets with pending := sockets.pending.eraseIdx index } next
        request.owner request.operation.handle True) :
      Effect sockets (.complete index status) next
  | returned {action : SocketAction Callback} {index : Nat} {next : Sockets Callback} (buf : Lent)
      (kind : action.buffer = some index) (present : sockets.lent[index]? = some buf)
      (idle : sockets.frame = none)
      (segment : Segment { sockets with lent := sockets.lent.eraseIdx index } next
        (if sockets.heap.dispatches buf.handle then buf.base.toList else []) (some buf.handle)
        True) : Effect sockets action next
  | connected {handle : HandleId} {status : Int} {next : Sockets Callback}
      (idle : sockets.frame = none) (segment : Segment sockets next [] (some handle) True) :
      Effect sockets (.connection handle status) next
  | resumed {threw : Bool} {next : Sockets Callback} (frame : Frame)
      (current : sockets.frame = some frame)
      (segment : Segment sockets next frame.owned (frame.point.site.map Prod.fst)
        (sockets.Settles frame threw)) : Effect sockets (.resume threw) next

/-- A call reaches libuv with the handle of its wrapper, or it returns or throws before. The
wrapper has no handle, or its handle is closing, and the call throws; or the handle is open, and
then it is one that libuv may call back for. -/
theorem withHandle_effect (sound : Sound sockets) {self : Pointer}
    (live : (sockets.heap.wrappers self).isSome = true)
    (body : HandleId → Outcome × Sockets Callback) :
    ∃ outcome next, sockets.withHandle self body = .ok (outcome, next) ∧
      (next = sockets ∨ ∃ handle, Served sockets.heap handle ∧ next = (body handle).2) := by
  obtain ⟨wrapper, live⟩ := Option.isSome_iff_exists.mp live
  cases holds : wrapper.handle with
  | none =>
    refine ⟨.threw (.invalidCall "Handle is already disposed"), sockets, ?_, Or.inl rfl⟩
    simp only [Sockets.withHandle, Heap.wrapper_ok live, ok_bind, Heap.isClosing, holds]
    rfl
  | some handle =>
    obtain ⟨block, present, _, pooled, _⟩ := sound.coherent.owned.holds live holds
    have answer := isClosing_held sound.coherent live holds present
    by_cases opened : block.phase = .opened
    · have served : Served sockets.heap handle := by
        refine ⟨⟨block, present, by simp [opened]⟩, ?_⟩
        intro found present'
        exact Option.some.inj (present.symm.trans present') ▸ pooled
      refine ⟨(body handle).1, (body handle).2, ?_, Or.inr ⟨handle, served, rfl⟩⟩
      simp only [Sockets.withHandle, Heap.wrapper_ok live, ok_bind, answer, opened, holds, ne_eq,
        not_true_eq_false, decide_false, Bool.false_eq_true, if_false]
      rfl
    · refine ⟨.threw (.invalidCall "Handle is already disposed"), sockets, ?_, Or.inl rfl⟩
      simp only [Sockets.withHandle, Heap.wrapper_ok live, ok_bind, answer, opened, ne_eq,
        not_false_eq_true, decide_true, if_true]
      rfl

/-- Every call submits one request at most, on a served handle if any. Calls on a wrapper go
through its handle; a resolution has none. What varies between them is which checks come before,
and whether an empty buffer is reported at once. -/
theorem call_effect (sound : Sound sockets) (call : Call Callback)
    (live : ∀ self ∈ call.self, (sockets.heap.wrappers self).isSome = true) :
    ∃ outcome next, call.run sockets = .ok (outcome, next) ∧
      (next = sockets ∨ ∃ operation copied callback code,
        (∀ id ∈ operation.handle, Served sockets.heap id) ∧
          next = (sockets.submit operation copied callback code).2) := by
  have onHandle (self : Pointer) (called : self ∈ call.self) (operation : HandleId → Operation)
      (site : ∀ handle, (operation handle).handle = some handle) (copied : Bool)
      (callback : Option Callback) (code : Int) (empty : Bool) (early : Outcome) :
      ∃ outcome next,
        sockets.withHandle self (fun handle =>
          if empty then (early, sockets)
          else sockets.submit (operation handle) copied callback code) = .ok (outcome, next) ∧
        (next = sockets ∨ ∃ operation copied callback code,
          (∀ id ∈ operation.handle, Served sockets.heap id) ∧
            next = (sockets.submit operation copied callback code).2) := by
    obtain ⟨answer, next, ran, result⟩ := withHandle_effect sound (live self called) fun handle =>
      if empty then (early, sockets)
      else sockets.submit (operation handle) copied callback code
    refine ⟨answer, next, ran, ?_⟩
    rcases result with unchanged | ⟨handle, served, result⟩
    · exact Or.inl unchanged
    · cases empty with
      | true => exact Or.inl result
      | false =>
        refine Or.inr ⟨operation handle, copied, callback, code, ?_, result⟩
        intro id member
        rw [site] at member
        cases member
        exact served
  cases call with
  | shutdown self code =>
    exact onHandle self rfl .shutdown (fun _ => rfl) false none code false .returned
  | write self size code =>
    have := onHandle self rfl .write (fun _ => rfl) true none code (decide (size = 0)) .returned
    simpa [Call.run, Sockets.write] using this
  | writeNoCopy self size callback code =>
    have := onHandle self rfl .write (fun _ => rfl) false callback code (decide (size = 0))
      (.threw (.badArgument "Buffer is empty"))
    simpa [Call.run, Sockets.writeNoCopy] using this
  | send self size code =>
    have := onHandle self rfl .send (fun _ => rfl) true none code (decide (size = 0)) .returned
    simpa [Call.run, Sockets.send] using this
  | sendNoCopy self size callback code =>
    have := onHandle self rfl .send (fun _ => rfl) false callback code (decide (size = 0))
      (.threw (.badArgument "Buffer is empty"))
    simpa [Call.run, Sockets.sendNoCopy] using this
  | tcpConnect self code =>
    exact onHandle self rfl .tcpConnect (fun _ => rfl) false none code false .returned
  | pipeConnect self =>
    exact onHandle self rfl .pipeConnect (fun _ => rfl) false none 0 false .returned
  | resolve callback code =>
    exact ⟨_, _, rfl, Or.inr ⟨.getAddrInfo, false, callback, code, nofun, rfl⟩⟩
  | reverseResolve callback code =>
    exact ⟨_, _, rfl, Or.inr ⟨.getNameInfo, false, callback, code, nofun, rfl⟩⟩

/-- Only accepted requests reach libuv. -/
theorem Sound.submit (sound : Sound sockets) (operation : Operation)
    (served : ∀ id ∈ operation.handle, Served sockets.heap id) (copied : Bool)
    (callback : Option Callback) (code : Int) :
    Sound (sockets.submit operation copied callback code).2 := by
  by_cases refused : code < 0
  · simp only [Sockets.submit, if_pos refused]
    exact ⟨sound.coherent, sound.pending, sound.lent, sound.running⟩
  · simp only [Sockets.submit, if_neg refused]
    refine ⟨sound.coherent, ?_, sound.lent, sound.running⟩
    intro request member
    rcases List.mem_append.mp member with earlier | added
    · exact sound.pending request earlier
    · obtain rfl := List.mem_singleton.mp added
      exact ⟨rfl, served⟩

/-- Buffers are allocated for served handles. -/
theorem Sound.alloc (sound : Sound sockets) (served : Served sockets.heap handle)
    (granted : Bool) : Sound (sockets.onUVAllocBuffer handle granted) := by
  have added (base : Option BlockId) (buf : Lent)
      (member : buf ∈ sockets.lent ++ [⟨handle, base⟩]) : Served sockets.heap buf.handle := by
    rcases List.mem_append.mp member with earlier | added
    · exact sound.lent buf earlier
    · obtain rfl := List.mem_singleton.mp added
      exact served
  cases granted with
  | true => exact ⟨sound.coherent, sound.pending, added (some sockets.memory), sound.running⟩
  | false => exact ⟨sound.coherent, sound.pending, added none, sound.running⟩

/-- What the program does with wrappers and handles leaves the requests and a waiting
handler alone. It does not come between libuv's question for a buffer and the use of it. -/
theorem Sound.operate (sound : Sound sockets) {action : Action} {heap : Heap}
    (enabled : (SocketAction.operate action).Enabled sockets)
    (ran : action.run sockets.heap = .ok heap) :
    Sound { sockets with heap := heap, members := action.carry sockets.members } := by
  obtain ⟨between, permitted, quiet⟩ := enabled
  have unlent : sockets.lent = [] := between.resolve_right fun returns => returns rfl
  obtain ⟨reached, ran', coherent, _⟩ := sound.coherent.run_unclosed permitted
  obtain rfl : heap = reached := Except.ok.inj (ran.symm.trans ran')
  refine ⟨coherent, ?_, ?_, ?_⟩
  · intro request member
    obtain ⟨own, served⟩ := sound.pending request member
    refine ⟨own, fun id site => (served id site).run sound.coherent permitted ran ?_⟩
    intro delivered
    exact (quiet id delivered).2 request member site
  · intro buf member
    rw [unlent] at member
    cases member
  · intro frame current site member
    refine (sound.running frame current site member).run sound.coherent permitted ran ?_
    intro delivered
    have idle := (quiet site.1 delivered).1
    rw [current] at idle
    cases idle

/-- A buffer that libuv gives back is no longer lent. -/
theorem Sound.returnBuffer (sound : Sound sockets) (index : Nat) :
    Sound { sockets with lent := sockets.lent.eraseIdx index } :=
  ⟨sound.coherent, sound.pending,
    fun buf member => sound.lent buf (List.mem_of_mem_eraseIdx member), sound.running⟩

/-- Every step that may be taken runs into no fault, leaves a sound state, and has one of
the effects. -/
theorem Sound.run (sound : Sound sockets) {action : SocketAction Callback}
    (enabled : action.Enabled sockets) :
    ∃ next, action.run sockets = .ok next ∧ Sound next ∧ Effect sockets action next := by
  have permitted := enabled.2
  cases action with
  | operate action =>
    obtain ⟨heap, ran, _, fresh, _⟩ := sound.coherent.run_unclosed permitted.1
    refine ⟨{ sockets with heap := heap, members := action.carry sockets.members }, ?_,
      sound.operate enabled ran,
      .beside rfl (sound.coherent.run_evolves permitted.1 ran) fresh rfl rfl rfl rfl rfl rfl⟩
    simp only [SocketAction.run, ran, ok_bind]
    rfl
  | setCallback self member callback =>
    exact ⟨_, rfl, ⟨sound.coherent, sound.pending, sound.lent, sound.running⟩,
      .beside rfl (.refl sockets.heap) (Nat.le_refl _) rfl rfl rfl rfl rfl rfl⟩
  | submit call =>
    obtain ⟨outcome, next, ran, result⟩ := call_effect sound call permitted
    refine ⟨next, ?_, ?_⟩
    · simp only [SocketAction.run, ran, ok_bind]
      rfl
    · rcases result with rfl | ⟨operation, copied, callback, code, served, rfl⟩
      · exact ⟨sound, .beside rfl (.refl next.heap) (Nat.le_refl _) rfl rfl rfl rfl rfl rfl⟩
      · exact ⟨sound.submit operation served copied callback code,
          .submitted operation copied callback code⟩
  | allocBuffer handle granted =>
    have served := served_of_reads permitted.2
    exact ⟨_, rfl, sound.alloc served granted, .lent handle granted⟩
  | complete index status =>
    obtain ⟨idle, within⟩ := permitted
    have present := List.getElem?_eq_getElem within
    obtain ⟨own, served⟩ := sound.pending _ (List.mem_of_getElem? present)
    have rest : Sound { sockets with pending := sockets.pending.eraseIdx index } :=
      ⟨sound.coherent,
        fun request member => sound.pending request (List.mem_of_mem_eraseIdx member),
        sound.lent, sound.running⟩
    obtain ⟨next, ran, segment⟩ := complete_segment rest.coherent _ served status
    refine ⟨next, ?_, segment.sound rest served, .completed _ present idle own segment⟩
    simp only [SocketAction.run, present, ran]
  | read index nread =>
    obtain ⟨idle, within⟩ := permitted
    have present := List.getElem?_eq_getElem within
    have served := sound.lent _ (List.mem_of_getElem? present)
    have rest := sound.returnBuffer index
    obtain ⟨next, ran, segment⟩ := onUVRead_segment rest.coherent served _ nread
    refine ⟨next, ?_, segment.sound rest (by rintro _ ⟨⟩; exact served),
      .returned _ rfl present idle segment⟩
    simp only [SocketAction.run, present, ran]
  | receive index nread family flags =>
    obtain ⟨idle, within⟩ := permitted
    have present := List.getElem?_eq_getElem within
    have served := sound.lent _ (List.mem_of_getElem? present)
    have rest := sound.returnBuffer index
    obtain ⟨next, ran, segment⟩ := onUVRecv_segment rest.coherent served _ nread family flags
    refine ⟨next, ?_, segment.sound rest (by rintro _ ⟨⟩; exact served),
      .returned _ rfl present idle segment⟩
    simp only [SocketAction.run, present, ran]
  | connection handle status =>
    obtain ⟨idle, serves⟩ := permitted
    have served := serves_iff.mp serves
    obtain ⟨next, ran, segment⟩ := onStatus_segment sound.coherent served .onConnection [] status
    exact ⟨next, ran, segment.sound sound (by rintro _ ⟨⟩; exact served), .connected idle segment⟩
  | resume threw =>
    obtain ⟨frame, current⟩ := Option.ne_none_iff_exists'.mp permitted
    have served := sound.running frame current
    obtain ⟨next, ran, segment⟩ := resume_segment sound.coherent frame served threw
    refine ⟨next, ?_, segment.sound sound ?_, .resumed frame current segment⟩
    · simp only [SocketAction.run, current, ran]
    · intro id member
      obtain ⟨site, waiting, rfl⟩ := Option.map_eq_some_iff.mp member
      exact served site waiting

/-- A new loop, with handles and wrappers of any history. -/
theorem initial_sound : Sound (Sockets.initial : Sockets Callback) :=
  ⟨loopInit_consistent.1, nofun, nofun, nofun⟩

end Steps

section Runs

/-- A waiting handler finds the block of its handle, and if `data` names a wrapper, that
one is alive and holds this very handle. -/
def Dispatchable (sockets : Sockets Callback) : Prop :=
  ∀ frame, sockets.frame = some frame → ∀ site ∈ frame.point.site,
    ∃ block, sockets.heap.blocks site.1 = some block ∧
      ∀ self, dataToHandle block.data = some self →
        ∃ wrapper, sockets.heap.wrappers self = some wrapper ∧ wrapper.handle = some site.1

/-- Between two steps each handler that libuv may call finds what it relies on. -/
theorem Sound.dispatchable (sound : Sound sockets) : Dispatchable sockets := by
  intro frame current site waiting
  obtain ⟨block, present, _⟩ := (sound.running frame current site waiting).1
  refine ⟨block, present, ?_⟩
  intro self named
  exact sound.coherent.owned.named_by present named

/-- Over every run, no handler reads a block that is gone or calls a method of anything
but the live owner of its handle, either of which is a fault. -/
theorem handlers_dispatch {start : Sockets Callback} (sound : Sound start)
    (actions : List (SocketAction Callback)) (legal : socketSystem.Legal start actions) :
    socketSystem.Throughout Dispatchable start actions := by
  have throughout : socketSystem.Throughout Sound start actions := by
    refine socketSystem.throughout_of_safe Sound ?_ sound legal
    intro sockets action sound enabled
    obtain ⟨next, ran, kept, _⟩ := sound.run enabled
    exact ⟨next, ran, kept⟩
  exact System.Throughout.mono socketSystem (fun _ sound => sound.dispatchable) throughout

/-- The callback of a failed write destroys the wrapper and puts another one with another
handle in its place; the `OnError` of a failed connection attempt moves a wrapper. -/
theorem handlers_dispatch_reused :
    socketSystem.Throughout Dispatchable (Sockets.initial : Sockets Nat)
      [.operate (.construct wrapperA true), .setCallback wrapperA .onError (some 1),
        .submit (.writeNoCopy wrapperA 4 (some 7) 0), .complete 0 UV_ECANCELED,
        .operate (.destroy wrapperA), .operate (.construct wrapperA true), .resume true,
        .operate (.deliverClose 2), .setCallback wrapperA .onError (some 1),
        .submit (.pipeConnect wrapperA), .complete 0 UV_ECANCELED,
        .operate (.moveConstruct wrapperB wrapperA), .resume false] :=
  handlers_dispatch initial_sound _ (socketSystem.legal_of_check (by decide))

end Runs

end MoeUV
