import MoeUV.Request.NoCopy
import MoeUV.Handle.Unclosed

/-!
# Reporting completions

A pending request keeps its handle from being closed, so its completion handler
always finds the handle. Whether it finds the wrapper depends on the program: once
the wrapper is destroyed or assigned over, the handle has no owner, and the
handler returns before it calls the callback of the request. All other
completions are reported to the caller, once and with their status.
-/

namespace MoeUV

open Foundation.Execution

variable {Callback : Type}

/-- Every completion delivered to a caller that waits for it has been reported
once, with its status; and nothing else has. -/
def Reported (traffic : Traffic Callback) : Prop :=
  ∀ request ∈ traffic.requests, request.callback.isSome = true →
    request.invoked = request.completed.toList

/-- What the handlers rely on. -/
structure Attended (traffic : Traffic Callback) : Prop where
  coherent : Coherent traffic.heap
  /-- A pending request has an unclosed handle, and that has lost its holder if
  that was disowned. -/
  pending : ∀ request ∈ traffic.requests, request.completed = none →
    Unclosed traffic.heap request.handle ∧ request.invoked = [] ∧
      (request.handle ∉ traffic.disowned → Held traffic.heap request.handle)
  lost : ∀ id ∈ traffic.disowned, id < traffic.heap.fresh ∧ ¬ Held traffic.heap id
  busy : ∀ handler, traffic.handler = some handler → Unclosed traffic.heap handler.handle

variable {traffic next : Traffic Callback}

/-- Operations on the handles leave pending requests and the handler alone. Which requests lose
their caller by the operation is noted at once, so the others still have theirs. -/
theorem Attended.operate (attended : Attended traffic) {action : Action}
    (enabled : (TrafficAction.operate action : TrafficAction Callback).Enabled traffic) :
    ∃ heap, action.run traffic.heap = .ok heap ∧ Attended { traffic with
      heap := heap
      disowned := (action.disowned traffic.heap).toList ++ traffic.disowned } := by
  obtain ⟨permitted, delivery⟩ := enabled
  obtain ⟨heap, ran, coherent, fresh, kept⟩ := attended.coherent.run_unclosed permitted
  have delivered {id : HandleId} (delivers : action = .deliverClose id) :
      id ∈ action.delivered := by
    rw [delivers]
    exact rfl
  refine ⟨heap, ran, coherent, ?_, ?_, ?_⟩
  · intro request member waiting
    obtain ⟨unclosed, silent, holder⟩ := attended.pending request member waiting
    refine ⟨kept request.handle ?_ unclosed, silent, ?_⟩
    · intro delivers
      exact (delivery request.handle (delivered delivers)).2 request member rfl waiting
    · intro owned
      have before : action.disowned traffic.heap ≠ some request.handle := by
        intro disowned
        exact owned (List.mem_append_left _ (Option.mem_toList.mpr disowned))
      have held := holder fun earlier => owned (List.mem_append_right _ earlier)
      exact held.kept permitted ran before
  · intro id member
    rcases List.mem_append.mp member with now | earlier
    · have disowned : action.disowned traffic.heap = some id := Option.mem_toList.mp now
      have held : Held traffic.heap id := by
        cases action with
        | moveAssign self org => exact ⟨self, disowned⟩
        | destroy self => exact ⟨self, disowned⟩
        | _ => cases disowned
      exact ⟨Nat.lt_of_lt_of_le (attended.coherent.born held) fresh,
        not_held_of_disowned attended.coherent.owned ran disowned⟩
    · obtain ⟨born, unheld⟩ := attended.lost id earlier
      exact ⟨Nat.lt_of_lt_of_le born fresh, not_held_kept ran born unheld⟩
  · intro handler current
    refine kept handler.handle ?_ (attended.busy handler current)
    intro delivers
    have idle := (delivery handler.handle (delivered delivers)).1
    rw [Option.isNone_iff_eq_none, current] at idle
    cases idle

/-- A call adds a request on an open handle, or none. It throws before it reaches libuv, is
refused there, or becomes one more request that is pending. -/
theorem Attended.submit (attended : Attended traffic) {self : Pointer}
    (live : (traffic.heap.wrappers self).isSome = true) (kind : RequestKind) (size : Nat)
    (callback : Option Callback) (code : Int) :
    ∃ outcome next, traffic.submit kind self size callback code = .ok (outcome, next) ∧
      Attended next ∧ (Reported traffic → Reported next) := by
  obtain ⟨wrapper, live⟩ := Option.isSome_iff_exists.mp live
  have coherent := attended.coherent
  have refused (failure : Failure)
      (answer : traffic.submit kind self size callback code = .ok (.threw failure, traffic)) :
      ∃ outcome next, traffic.submit kind self size callback code = .ok (outcome, next) ∧
        Attended next ∧ (Reported traffic → Reported next) := ⟨_, _, answer, attended, id⟩
  cases holds : wrapper.handle with
  | none =>
    refine refused (.invalidCall "Handle is already disposed") ?_
    simp only [Traffic.submit, Heap.wrapper_ok live, ok_bind, Heap.isClosing, holds, if_true]
    rfl
  | some handle =>
    obtain ⟨block, present, _⟩ := coherent.owned.holds live holds
    have answer := isClosing_held coherent live holds present
    by_cases opened : block.phase = .opened
    · have open_ : decide (block.phase ≠ .opened) = false := by simp [opened]
      by_cases empty : size = 0
      · refine refused (.badArgument "Buffer is empty") ?_
        simp only [Traffic.submit, Heap.wrapper_ok live, ok_bind, answer, open_,
          Bool.false_eq_true, if_false, holds, empty, if_true]
        rfl
      · by_cases failed : code < 0
        · refine refused (uvThrow code) ?_
          simp only [Traffic.submit, Heap.wrapper_ok live, ok_bind, answer, open_,
            Bool.false_eq_true, if_false, holds, if_neg empty, if_pos failed]
          rfl
        · refine ⟨.returned, { traffic with
            requests := traffic.requests ++ [⟨kind, handle, callback, none, []⟩] }, ?_, ?_, ?_⟩
          · simp only [Traffic.submit, Heap.wrapper_ok live, ok_bind, answer, open_,
              Bool.false_eq_true, if_false, holds, if_neg empty, if_neg failed]
            rfl
          · refine ⟨coherent, ?_, attended.lost, attended.busy⟩
            intro request member waiting
            rcases List.mem_append.mp member with earlier | last
            · exact attended.pending request earlier waiting
            · obtain rfl := List.mem_singleton.mp last
              exact ⟨⟨block, present, by simp [opened]⟩, rfl,
                fun _ => ⟨self, by simp [Heap.held, live, holds]⟩⟩
          · intro reported request member waiting
            rcases List.mem_append.mp member with earlier | last
            · exact reported request earlier waiting
            · obtain rfl := List.mem_singleton.mp last
              rfl
    · refine refused (.invalidCall "Handle is already disposed") ?_
      simp only [Traffic.submit, Heap.wrapper_ok live, ok_bind, answer, decide_eq_true opened,
        if_true]
      rfl

section Completion

variable {index : Nat} {request : Request Callback}

/-- Setting one request leaves the others as they are. -/
theorem Attended.set (attended : Attended traffic) {changed : Request Callback}
    (completed : changed.completed ≠ none) (handler : Option Handler)
    (busy : ∀ current, handler = some current → Unclosed traffic.heap current.handle) :
    Attended ⟨traffic.heap, traffic.requests.set index changed, handler, traffic.disowned⟩ := by
  refine ⟨attended.coherent, ?_, attended.lost, busy⟩
  intro other member waiting
  rcases List.mem_or_eq_of_mem_set member with earlier | same
  · exact attended.pending other earlier waiting
  · exact absurd (same ▸ waiting) completed

/-- All is reported after a completion exactly when that one is. -/
theorem reported_set_iff (reported : Reported traffic) {changed : Request Callback}
    (inside : index < traffic.requests.length) (handler : Option Handler) :
    Reported ⟨traffic.heap, traffic.requests.set index changed, handler, traffic.disowned⟩ ↔
      (changed.callback.isSome = true → changed.invoked = changed.completed.toList) := by
  constructor
  · intro all
    exact all changed (List.mem_set inside changed)
  · intro this other member
    rcases List.mem_or_eq_of_mem_set member with earlier | same
    · exact reported other earlier
    · exact same ▸ this

/-- A completion handler does not fault, and reports to the caller exactly when
the handle was not disowned. -/
theorem Attended.onCompletion (attended : Attended traffic)
    (present : traffic.requests[index]? = some request) (waiting : request.completed = none)
    (status : Int) :
    ∃ next, traffic.onCompletion index request status = .ok next ∧ Attended next ∧
      (Reported traffic → (Reported next ↔
        (request.callback.isSome = true → request.handle ∉ traffic.disowned))) := by
  obtain ⟨inside, found⟩ := List.getElem?_eq_some_iff.mp present
  obtain ⟨unclosed, silent, holder⟩ :=
    attended.pending request (found ▸ List.getElem_mem inside) waiting
  obtain ⟨block, allocated, notClosed⟩ := unclosed
  have owner : (dataToHandle block.data).isSome = true ↔ request.handle ∉ traffic.disowned := by
    rw [attended.coherent.owned.getSelf_isSome allocated]
    exact ⟨fun held lost => (attended.lost _ lost).2 held, holder⟩
  cases named : dataToHandle block.data with
  | none =>
    refine ⟨{ traffic with
      requests := traffic.requests.set index { request with completed := some status } },
      ?_, ?_, ?_⟩
    · simp only [Traffic.onCompletion, getSelf_ok allocated, ok_bind, named]
      rfl
    · exact attended.set (by simp) traffic.handler attended.busy
    · intro reported
      rw [reported_set_iff reported inside, ← owner, named]
      simp [silent]
  | some self =>
    refine ⟨{ traffic with
      requests := traffic.requests.set index { request with
        completed := some status
        invoked := if request.callback.isSome then request.invoked ++ [status]
          else request.invoked }
      handler := some ⟨request.handle, self, status, .completion⟩ }, ?_, ?_, ?_⟩
    · simp only [Traffic.onCompletion, getSelf_ok allocated, ok_bind, named]
      rfl
    · refine attended.set (by simp) _ ?_
      rintro current ⟨⟩
      exact ⟨block, allocated, notClosed⟩
    · intro reported
      rw [reported_set_iff reported inside, ← owner, named]
      simp +contextual [silent]

/-- The rest of a handler only closes the wrapper, if it still owns the handle. The callback may
have moved or destroyed the wrapper, so its handle is asked again who owns it. -/
theorem Attended.resume (attended : Attended traffic) {handler : Handler}
    (current : traffic.handler = some handler) :
    ∃ next, traffic.resume handler = .ok next ∧ Attended next ∧
      next.requests = traffic.requests := by
  obtain ⟨block, allocated, notClosed⟩ := attended.busy handler current
  have idle : Attended { traffic with handler := none } :=
    ⟨attended.coherent, attended.pending, attended.lost, nofun⟩
  have asked := getSelf_ok allocated
  cases point : handler.point with
  | completion =>
    by_cases succeeded : handler.status = 0
    · exact ⟨_, by simp only [Traffic.resume, point, if_pos succeeded]; rfl, idle, rfl⟩
    · by_cases same : dataToHandle block.data = some handler.self
      · refine ⟨{ traffic with handler := some { handler with point := .error } }, ?_, ?_, rfl⟩
        · simp only [Traffic.resume, point, if_neg succeeded, asked, ok_bind, if_pos same]
          rfl
        · refine ⟨attended.coherent, attended.pending, attended.lost, ?_⟩
          rintro other ⟨⟩
          exact ⟨block, allocated, notClosed⟩
      · refine ⟨_, ?_, idle, rfl⟩
        simp only [Traffic.resume, point, if_neg succeeded, asked, ok_bind, if_neg same]
        rfl
  | error =>
    by_cases same : dataToHandle block.data = some handler.self
    · obtain ⟨wrapper, live, _⟩ := attended.coherent.owned.named_by allocated same
      obtain ⟨result, heap, closed, moves⟩ := close_moves attended.coherent live
      refine ⟨{ traffic with heap := heap, handler := none }, ?_, ?_, rfl⟩
      · simp only [Traffic.resume, point, asked, ok_bind, if_pos same, closed]
        rfl
      · have same (other : Pointer) : heap.held other = traffic.heap.held other :=
          held_of_wrappers (close_wrappers closed)
        have unchanged (id : HandleId) : Held heap id ↔ Held traffic.heap id :=
          exists_congr fun other => by rw [same]
        refine ⟨attended.coherent.moves (moves_of_user moves), ?_, ?_, nofun⟩
        · intro request member waiting
          obtain ⟨unclosed, silent, holder⟩ := attended.pending request member waiting
          exact ⟨unclosed.userMoves attended.coherent moves, silent,
            fun owned => (unchanged _).mpr (holder owned)⟩
        · intro id member
          obtain ⟨born, unheld⟩ := attended.lost id member
          exact ⟨Nat.lt_of_lt_of_le born (fresh_le_of_moves (moves_of_user moves)),
            mt (unchanged id).mp unheld⟩
    · refine ⟨_, ?_, idle, rfl⟩
      simp only [Traffic.resume, point, asked, ok_bind, if_neg same]
      rfl

end Completion

section Runs

variable {action : TrafficAction Callback}

/-- No step faults. A step keeps all completions reported exactly when it is not
the completion of a request whose handle was disowned. -/
theorem Attended.run (attended : Attended traffic) (enabled : action.Enabled traffic) :
    ∃ next, action.run traffic = .ok next ∧ Attended next ∧
      (Reported traffic → (Reported next ↔ action.FindsOwner traffic)) := by
  cases action with
  | operate action =>
    obtain ⟨heap, ran, kept⟩ := attended.operate enabled
    refine ⟨_, by simp only [TrafficAction.run, ran]; rfl, kept, ?_⟩
    intro reported
    exact iff_of_true reported trivial
  | writeNoCopy self size callback code =>
    obtain ⟨outcome, next, called, kept, reports⟩ :=
      attended.submit enabled .write size callback code
    refine ⟨next, by simp only [TrafficAction.run, Traffic.writeNoCopy, called]; rfl, kept, ?_⟩
    intro reported
    exact iff_of_true (reports reported) trivial
  | sendNoCopy self size callback code =>
    obtain ⟨outcome, next, called, kept, reports⟩ :=
      attended.submit enabled .send size callback code
    refine ⟨next, by simp only [TrafficAction.run, Traffic.sendNoCopy, called]; rfl, kept, ?_⟩
    intro reported
    exact iff_of_true (reports reported) trivial
  | complete index status =>
    obtain ⟨request, present, waiting⟩ := Option.map_eq_some_iff.mp enabled.2
    obtain ⟨next, handled, kept, reports⟩ := attended.onCompletion present waiting status
    refine ⟨next, ?_, kept, ?_⟩
    · simp only [TrafficAction.run, present]
      cases request.kind <;> exact handled
    · intro reported
      rw [reports reported]
      simp only [TrafficAction.FindsOwner, present, Option.mem_some_iff, forall_eq']
  | resume =>
    obtain ⟨handler, current⟩ := Option.isSome_iff_exists.mp enabled
    obtain ⟨next, resumed, kept, same⟩ := attended.resume current
    refine ⟨next, by simp only [TrafficAction.run, current, resumed], kept, ?_⟩
    intro reported
    refine iff_of_true ?_ trivial
    intro request member
    exact reported request (same ▸ member)

/-- At the beginning no request is waiting for its callback. -/
theorem initial_attended : Attended (Traffic.initial : Traffic Callback) :=
  ⟨loopInit_consistent.coherent, nofun, nofun, nofun⟩

/-- At the beginning no completion was delivered. -/
theorem initial_reported : Reported (Traffic.initial : Traffic Callback) := nofun

/-- Over every run, every completion is reported to its caller exactly when none of
them comes after the wrapper was destroyed or assigned over. -/
theorem reported_iff (actions : List (TrafficAction Callback))
    (legal : trafficSystem.Legal Traffic.initial actions) :
    trafficSystem.Throughout Reported Traffic.initial actions ↔
      trafficSystem.Guarded (fun traffic action => action.FindsOwner traffic) Traffic.initial
        actions := by
  refine trafficSystem.throughout_iff_guarded Attended Reported _ ?_ ?_ initial_attended
    initial_reported legal
  · intro traffic action attended reported enabled
    obtain ⟨final, ran, _, reports⟩ := attended.run enabled
    rw [← reports reported]
    constructor
    · intro kept
      exact ⟨final, ran, kept⟩
    · rintro ⟨next, ran', kept⟩
      obtain rfl : final = next := Except.ok.inj (ran.symm.trans ran')
      exact kept
  · intro traffic action next attended _ enabled _ stepped
    obtain ⟨final, ran, kept, _⟩ := attended.run enabled
    obtain rfl : final = next := Except.ok.inj (ran.symm.trans stepped)
    exact kept

/-- A wrapper that is moved during a callback and then closed: one request succeeds,
the other is cancelled by the close. -/
theorem reported_moved :
    trafficSystem.Throughout Reported (Traffic.initial : Traffic Nat)
      [.operate (.construct wrapperA true), .writeNoCopy wrapperA 4 (some 7) 0,
        .writeNoCopy wrapperA 9 (some 8) 0, .complete 0 0,
        .operate (.moveConstruct wrapperB wrapperA), .resume, .operate (.close wrapperB),
        .complete 1 UV_ECANCELED, .resume, .resume, .operate (.deliverClose 2),
        .operate (.destroy wrapperB)] :=
  (reported_iff _ (trafficSystem.legal_of_check (by decide))).mpr
    (trafficSystem.guarded_of_check (by decide))

/-- The wrapper is destroyed while the request is pending, and the cancelled
request is never reported. -/
theorem reported_false_destroyed :
    let actions : List (TrafficAction Nat) :=
      [.operate (.construct wrapperA true), .writeNoCopy wrapperA 4 (some 7) 0,
        .operate (.destroy wrapperA), .complete 0 UV_ECANCELED]
    trafficSystem.Legal Traffic.initial actions ∧
      (trafficSystem.exec Traffic.initial actions).map Traffic.requests =
        .ok [⟨.write, 2, some 7, some UV_ECANCELED, []⟩] ∧
      ¬ trafficSystem.Throughout Reported Traffic.initial actions := by
  intro actions
  refine ⟨trafficSystem.legal_of_check (by decide), rfl, ?_⟩
  intro throughout
  obtain ⟨final, executed⟩ := throughout.1
  have reported : Reported final := System.Throughout.final trafficSystem throughout executed
  have requests : (trafficSystem.exec Traffic.initial actions).map Traffic.requests =
      .ok [⟨.write, 2, some 7, some UV_ECANCELED, []⟩] := rfl
  rw [executed] at requests
  have unreported := reported ⟨.write, 2, some 7, some UV_ECANCELED, []⟩
    (Except.ok.inj requests ▸ List.mem_singleton_self _) rfl
  cases unreported

end Runs

end MoeUV
