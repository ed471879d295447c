import MoeUV.Dns.Resolve
import MoeUV.Foundation.Trace

/-!
# The completion of a resolution

The completion of `uv_getaddrinfo` owns two things: the request, and the list
that the resolver allocated. It reads the list, calls one of two callbacks, and
must give both back whatever happens in between. Here the callback is run with
a trace of what it does: which nodes it reads, what it appends, which callback
it invokes with which arguments, and when it frees the list and releases the
request.

A user callback that throws is caught where it was called, and so is the call of
an empty function. When the result has no room for another endpoint, the list is
freed on the spot and the function returns from the middle of the loop.
-/

namespace MoeUV

open Foundation.Memory Foundation.Trace

/-- A user callback returns, or throws one of the exceptions. -/
abbrev UserCallback := Resolution → Except ThrownException Unit

/-- What the completion does, in its order. -/
inductive ResolveEvent where
  | readNode
  | append (stored : Bool)
  | invoke (slot : ResolveMode) (arguments : Resolution)
  | logError (exception : ThrownException)
  | freeAddrInfo
  | releaseRequest
deriving DecidableEq

/-- `UVGetAddrInfoReq`, whose two callbacks may be empty. -/
structure UVGetAddrInfoRequest where
  onResolveOne : Option UserCallback
  onResolveAll : Option UserCallback

/-- Exactly one of the two callbacks is set. -/
def UVGetAddrInfoRequest.Single (request : UVGetAddrInfoRequest) : Prop :=
  request.onResolveOne.isSome ≠ request.onResolveAll.isSome

/-- The callback that is set, by the test that the source makes. -/
def UVGetAddrInfoRequest.mode (request : UVGetAddrInfoRequest) : ResolveMode :=
  if request.onResolveOne.isSome then .one else .all

section Code

variable (memory : ResolveMemory) (request : UVGetAddrInfoRequest)

/-- The call of a `std::function`, which throws when it is empty. -/
def callFunction (slot : ResolveMode) (callback : Option UserCallback) (arguments : Resolution) :
    Traced ResolveEvent (Except ThrownException Unit) :=
  match callback with
  | none => pure (.error .badFunctionCall)
  | some user => do
    Traced.emit (.invoke slot arguments)
    pure (user arguments)

/-- `MOE_UV_CATCH_ALL_BEGIN` and `MOE_UV_CATCH_ALL_END` around a statement. -/
def catchAll (body : Traced ResolveEvent (Except ThrownException Unit)) :
    Traced ResolveEvent Unit := do
  match ← body with
  | .ok _ => pure ()
  | .error exception => Traced.emit (.logError exception)

/-- `if (res) ::uv_freeaddrinfo(res)`. -/
def freeList (res : List AddrInfo) : Traced ResolveEvent Unit :=
  if res = [] then pure () else Traced.emit .freeAddrInfo

/-- `while (node)`: the carried endpoint and the result after the loop, or
nothing when the function has returned from inside it. -/
def walkList (res : List AddrInfo) (ep : EndPoint) (result : List EndPoint) :
    List AddrInfo → Traced ResolveEvent (Option (EndPoint × List EndPoint))
  | [] => pure (some (ep, result))
  | node :: next => do
    Traced.emit .readNode
    let ep := UVGetAddrInfoReq.assign (memory.temporary (node :: next)) ep node
    if request.onResolveOne.isSome then pure (some (ep, result))
    else if result.any (·.equals ep) then do
      Traced.emit .readNode
      walkList res ep result next
    else if memory.room result then do
      Traced.emit (.append true)
      Traced.emit .readNode
      walkList res ep (result ++ [ep]) next
    else do
      Traced.emit (.append false)
      catchAll (callFunction .all request.onResolveAll (.all UV_ENOMEM none))
      freeList res
      pure none

/-- The statements of `UVGetAddrInfoReq::Callback`. -/
def callbackBody (status : Int) (res : List AddrInfo) : Traced ResolveEvent Unit := do
  if status ≠ 0 then
    catchAll (
      if request.onResolveOne.isSome then
        callFunction .one request.onResolveOne (.one status none)
      else callFunction .all request.onResolveAll (.all status none))
    freeList res
  else
    match ← walkList memory request res (EndPoint.ofDefault memory.ep) [] res with
    | none => pure ()
    | some (ep, result) =>
      if request.onResolveOne.isSome then
        catchAll (callFunction .one request.onResolveOne (.one 0 (some ep)))
      else catchAll (callFunction .all request.onResolveAll (.all 0 (some result)))
      freeList res

/-- `UVGetAddrInfoReq::Callback`: `self` gives the request back to its pool when
the body is left, by whichever way. -/
def callbackTrace (status : Int) (res : List AddrInfo) : List ResolveEvent :=
  (do
    callbackBody memory request status res
    Traced.emit .releaseRequest : Traced ResolveEvent Unit).events

end Code

section Specification

/-- The arguments with which a callback is invoked. -/
def ResolveEvent.invocation? : ResolveEvent → Option (ResolveMode × Resolution)
  | .invoke slot arguments => some (slot, arguments)
  | _ => none

/-- The arguments owed to the callback: the error status, or `UV_ENOMEM` and no
endpoints if an append failed, or status zero. -/
def Owed (mode : ResolveMode) (status : Int) (failed : Prop) : Resolution → Prop
  | .one reported _ => mode = .one ∧ ¬ failed ∧ reported = status
  | .all reported endPoints =>
    mode = .all ∧
      (status ≠ 0 ∧ reported = status ∨
        status = 0 ∧ failed ∧ reported = UV_ENOMEM ∧ endPoints = none ∨
        status = 0 ∧ ¬ failed ∧ reported = 0)

/-- The trace of a completion that happens exactly once and reports the
arguments. -/
structure CompletesOnce (mode : ResolveMode) (status : Int) (res : List AddrInfo)
    (arguments : Resolution) (trace : List ResolveEvent) : Prop where
  invoked : trace.filterMap ResolveEvent.invocation? = [(mode, arguments)]
  owed : Owed mode status (.append false ∈ trace) arguments
  freed : trace.count .freeAddrInfo = if res = [] then 0 else 1
  unread : .readNode ∉ trace.dropWhile (· ≠ .freeAddrInfo)
  released : trace.count .releaseRequest = 1

end Specification

section Traces

/-- Events of the walk through the list: reads, and appends that succeed. -/
def Quiet (events : List ResolveEvent) : Prop :=
  ∀ event ∈ events, event = .readNode ∨ event = .append true

/-- What a caught exception leaves behind. -/
def ErrorLog (events : List ResolveEvent) : Prop :=
  ∀ event ∈ events, ∃ exception, event = .logError exception

variable {events logs : List ResolveEvent}

/-- One more event of the walk keeps it quiet. -/
theorem Quiet.cons {event : ResolveEvent} (first : event = .readNode ∨ event = .append true)
    (rest : Quiet events) : Quiet (event :: events) := List.forall_mem_cons.mpr ⟨first, rest⟩

/-- The walk invokes no callback. -/
theorem Quiet.invocations (quiet : Quiet events) :
    events.filterMap ResolveEvent.invocation? = [] := by
  apply List.filterMap_eq_nil_iff.mpr
  intro event member
  rcases quiet event member with rfl | rfl
  · rfl
  · rfl

/-- Logging an error invokes no callback. -/
theorem ErrorLog.invocations (logged : ErrorLog logs) :
    logs.filterMap ResolveEvent.invocation? = [] := by
  apply List.filterMap_eq_nil_iff.mpr
  intro event member
  obtain ⟨exception, rfl⟩ := logged event member
  rfl

/-- Whether it returns or throws, a set callback is invoked once, and at most an
error is logged. -/
theorem catchAll_events (slot : ResolveMode) (user : UserCallback) (arguments : Resolution) :
    ∃ logs, ErrorLog logs ∧
      (catchAll (callFunction slot (some user) arguments)).events =
        .invoke slot arguments :: logs := by
  cases ended : user arguments with
  | ok _ =>
    refine ⟨[], List.forall_mem_nil _, ?_⟩
    simp [catchAll, callFunction, ended]
  | error exception =>
    refine ⟨[.logError exception], ?_, ?_⟩
    · intro event member
      exact ⟨exception, List.mem_singleton.mp member⟩
    · simp [catchAll, callFunction, ended]

/-- The failed append of the walk, if there was one. -/
def failure (failed : Bool) : List ResolveEvent := if failed then [.append false] else []

/-- The events before anything is given back. -/
def beginning (events : List ResolveEvent) (failed : Bool) (mode : ResolveMode)
    (arguments : Resolution) (logs : List ResolveEvent) : List ResolveEvent :=
  events ++ failure failed ++ .invoke mode arguments :: logs

section Beginning

variable (mode : ResolveMode) (arguments : Resolution) (failed : Bool)

/-- Nothing is released before the guards go out of scope. -/
theorem beginning_keeps (quiet : Quiet events) (logged : ErrorLog logs) :
    ∀ event ∈ beginning events failed mode arguments logs,
      event ≠ .freeAddrInfo ∧ event ≠ .releaseRequest := by
  intro event member
  rcases List.mem_append.mp member with walked | reported
  · rcases List.mem_append.mp walked with quietly | failing
    · rcases quiet event quietly with rfl | rfl
      · decide
      · decide
    · cases failed with
      | false => cases failing
      | true =>
        obtain rfl := List.mem_singleton.mp failing
        decide
  · rcases List.mem_cons.mp reported with rfl | log
    · exact ⟨nofun, nofun⟩
    · obtain ⟨exception, rfl⟩ := logged event log
      exact ⟨nofun, nofun⟩

/-- The callback is invoked exactly once, with these arguments. -/
theorem beginning_invokes (quiet : Quiet events) (logged : ErrorLog logs) :
    (beginning events failed mode arguments logs).filterMap ResolveEvent.invocation? =
      [(mode, arguments)] := by
  have silent : (failure failed).filterMap ResolveEvent.invocation? = [] := by
    cases failed with
    | false => rfl
    | true => rfl
  simp only [beginning, List.filterMap_append, List.filterMap_cons, ResolveEvent.invocation?,
    quiet.invocations, silent, logged.invocations, List.nil_append]

/-- A failed append shows in the trace, and nothing else looks like one. -/
theorem beginning_fails (quiet : Quiet events) (logged : ErrorLog logs) :
    .append false ∈ beginning events failed mode arguments logs ↔ failed = true := by
  have quietly : .append false ∉ events := by
    intro member
    rcases quiet _ member with same | same
    · cases same
    · cases same
  have silently : .append false ∉ logs := by
    intro member
    obtain ⟨exception, same⟩ := logged _ member
    cases same
  cases failed with
  | false => simp [beginning, failure, quietly, silently]
  | true => simp [beginning, failure]

end Beginning

/-- After a quiet walk, which may end with a failed append, the callback is
invoked, the list is freed and the request is released. -/
theorem completesOnce_of_shape {mode : ResolveMode} {status : Int} (res : List AddrInfo)
    {arguments : Resolution} (failed : Bool) (quiet : Quiet events) (logged : ErrorLog logs)
    (owed : Owed mode status (failed = true) arguments) :
    CompletesOnce mode status res arguments (beginning events failed mode arguments logs ++
      ((freeList res).events ++ [.releaseRequest])) := by
  have freeing : (freeList res).events = if res = [] then [] else [.freeAddrInfo] := by
    unfold freeList
    split
    · rfl
    · rfl
  have invokes := beginning_invokes mode arguments failed quiet logged
  have fails := beginning_fails mode arguments failed quiet logged
  have keeps := beginning_keeps mode arguments failed quiet logged
  generalize beginning events failed mode arguments logs = started at invokes fails keeps
  have unfreed : started.count .freeAddrInfo = 0 :=
    List.count_eq_zero_of_not_mem fun member => (keeps _ member).1 rfl
  have unreleased : started.count .releaseRequest = 0 :=
    List.count_eq_zero_of_not_mem fun member => (keeps _ member).2 rfl
  have passed : ∀ event ∈ started, decide (event ≠ .freeAddrInfo) = true := fun event member =>
    decide_eq_true (keeps event member).1
  rw [freeing]
  by_cases empty : res = []
  · rw [if_pos empty]
    refine ⟨?_, ?_, ?_, ?_, ?_⟩
    · simp [invokes, ResolveEvent.invocation?]
    · simpa [fails] using owed
    · simp [unfreed, empty]
    · rw [List.dropWhile_append_of_pos passed]
      decide
    · simp [unreleased]
  · rw [if_neg empty]
    refine ⟨?_, ?_, ?_, ?_, ?_⟩
    · simp [invokes, ResolveEvent.invocation?]
    · simpa [fails] using owed
    · simp [unfreed, empty]
    · rw [List.dropWhile_append_of_pos passed]
      decide
    · simp [unreleased]

end Traces

section Completion

variable (memory : ResolveMemory) (request : UVGetAddrInfoRequest)

/-- The walk either goes on to the report, with a quiet trace, or has reported a
failed append and freed the list. A request with `OnResolveOne` never appends. -/
theorem walkList_events (res : List AddrInfo) (ep : EndPoint) (result : List EndPoint)
    (nodes : List AddrInfo) :
    (∃ last, (walkList memory request res ep result nodes).value = some last ∧
      Quiet (walkList memory request res ep result nodes).events) ∨
    (request.onResolveOne.isSome = false ∧
      (walkList memory request res ep result nodes).value = none ∧
      ∃ quiet, Quiet quiet ∧ (walkList memory request res ep result nodes).events =
        quiet ++ failure true ++
          ((catchAll (callFunction .all request.onResolveAll (.all UV_ENOMEM none))).events ++
            (freeList res).events)) := by
  induction nodes generalizing ep result with
  | nil => exact Or.inl ⟨_, rfl, List.forall_mem_nil _⟩
  | cons node next inductionHypothesis =>
    simp only [walkList]
    generalize UVGetAddrInfoReq.assign (memory.temporary (node :: next)) ep node = after
    by_cases first : request.onResolveOne.isSome = true
    · left
      rw [if_pos first]
      exact ⟨_, rfl, Quiet.cons (Or.inl rfl) (List.forall_mem_nil _)⟩
    · rw [if_neg first]
      by_cases known : result.any (·.equals after) = true
      · rw [if_pos known]
        rcases inductionHypothesis after result with walked | failed
        · obtain ⟨last, value, quiet⟩ := walked
          exact Or.inl ⟨last, value, Quiet.cons (Or.inl rfl) (Quiet.cons (Or.inl rfl) quiet)⟩
        · obtain ⟨all, value, events, quiet, split⟩ := failed
          refine Or.inr ⟨all, value, .readNode :: .readNode :: events,
            Quiet.cons (Or.inl rfl) (Quiet.cons (Or.inl rfl) quiet), ?_⟩
          simp only [Traced.events_bind, Traced.events_emit, split, List.cons_append,
            List.nil_append]
      · rw [if_neg known]
        by_cases room : memory.room result = true
        · rw [if_pos room]
          rcases inductionHypothesis after (result ++ [after]) with walked | failed
          · obtain ⟨last, value, quiet⟩ := walked
            exact Or.inl ⟨last, value, Quiet.cons (Or.inl rfl)
              (Quiet.cons (Or.inr rfl) (Quiet.cons (Or.inl rfl) quiet))⟩
          · obtain ⟨all, value, events, quiet, split⟩ := failed
            refine Or.inr ⟨all, value, .readNode :: .append true :: .readNode :: events,
              Quiet.cons (Or.inl rfl) (Quiet.cons (Or.inr rfl) (Quiet.cons (Or.inl rfl) quiet)),
              ?_⟩
            simp only [Traced.events_bind, Traced.events_emit, split, List.cons_append,
              List.nil_append]
        · rw [if_neg room]
          refine Or.inr ⟨Bool.not_eq_true _ ▸ first, rfl, [.readNode],
            Quiet.cons (Or.inl rfl) (List.forall_mem_nil _), ?_⟩
          simp only [Traced.events_bind, Traced.events_emit, Traced.events_pure, failure, if_true,
            List.cons_append, List.nil_append, List.append_nil]

/-- The walk ends as the loop of the resolution does. -/
theorem walkList_scan (res : List AddrInfo) (ep : EndPoint) (result : List EndPoint)
    (nodes : List AddrInfo) :
    UVGetAddrInfoReq.scan memory request.mode ep result nodes =
      match (walkList memory request res ep result nodes).value with
      | some (last, collected) => UVGetAddrInfoReq.finish last collected request.mode
      | none => .all UV_ENOMEM none := by
  induction nodes generalizing ep result with
  | nil => rfl
  | cons node next inductionHypothesis =>
    simp only [walkList, UVGetAddrInfoReq.scan]
    generalize UVGetAddrInfoReq.assign (memory.temporary (node :: next)) ep node = after
    by_cases first : request.onResolveOne.isSome = true
    · have mode : request.mode = .one := if_pos first
      simp only [mode, if_pos first, Traced.value_bind, Traced.value_pure]
    · have mode : request.mode = .all := if_neg first
      rw [mode] at inductionHypothesis
      simp only [mode, if_neg first]
      by_cases known : result.any (·.equals after) = true
      · simp only [if_pos known, Traced.value_bind]
        exact inductionHypothesis after result
      · by_cases room : memory.room result = true
        · simp only [if_neg known, if_pos room, Traced.value_bind]
          exact inductionHypothesis after (result ++ [after])
        · simp only [if_neg known, if_neg room, Traced.value_bind, Traced.value_pure]

/-- A request with one callback, by the callback that is set. -/
theorem UVGetAddrInfoRequest.Single.cases {request : UVGetAddrInfoRequest}
    (single : request.Single) :
    (∃ user, request = ⟨some user, none⟩) ∨ ∃ user, request = ⟨none, some user⟩ := by
  obtain ⟨one, all⟩ := request
  cases one with
  | none =>
    cases all with
    | none => exact absurd rfl single
    | some user => exact Or.inr ⟨user, rfl⟩
  | some user =>
    cases all with
    | none => exact Or.inl ⟨user, rfl⟩
    | some other => exact absurd rfl single

/-- A body that walks, reports to the set callback and frees the list. -/
theorem completesOnce_of_body {mode : ResolveMode} {status : Int} {res : List AddrInfo}
    (user : UserCallback) (arguments : Resolution) {walked : List ResolveEvent} (failed : Bool)
    (quiet : Quiet walked) (owed : Owed mode status (failed = true) arguments)
    (body : (callbackBody memory request status res).events = walked ++ failure failed ++
      ((catchAll (callFunction mode (some user) arguments)).events ++ (freeList res).events)) :
    CompletesOnce mode status res arguments (callbackTrace memory request status res) := by
  obtain ⟨logs, logged, invoked⟩ := catchAll_events mode user arguments
  have shape := completesOnce_of_shape res failed quiet logged owed
  have same : callbackTrace memory request status res =
      beginning walked failed mode arguments logs ++
        ((freeList res).events ++ [.releaseRequest]) := by
    simp only [callbackTrace, Traced.events_bind, Traced.events_emit, body, invoked, beginning,
      List.append_assoc]
  rw [same]
  exact shape

/-- A request with `OnResolveOne` reports the first node or the initial
endpoint. -/
theorem completesOnce_one (user : UserCallback) (status : Int) (res : List AddrInfo) :
    CompletesOnce .one status res (UVGetAddrInfoReq.callback memory .one status res)
      (callbackTrace memory ⟨some user, none⟩ status res) := by
  by_cases broken : status ≠ 0
  · have report : UVGetAddrInfoReq.callback memory .one status res = .one status none := by
      rw [UVGetAddrInfoReq.callback, if_pos broken]
    rw [report]
    apply completesOnce_of_body memory _ user (.one status none) false (List.forall_mem_nil _)
    · exact ⟨rfl, Bool.false_ne_true, rfl⟩
    · simp only [callbackBody, if_pos broken, Option.isSome_some, if_true, failure,
        Bool.false_eq_true, if_false, List.nil_append, Traced.events_bind]
  · obtain rfl : status = 0 := Decidable.not_not.mp broken
    have scanned := walkList_scan memory ⟨some user, none⟩ res (EndPoint.ofDefault memory.ep) [] res
    rcases walkList_events memory ⟨some user, none⟩ res
        (EndPoint.ofDefault memory.ep) [] res with walked | failed
    · obtain ⟨⟨ep, result⟩, value, quiet⟩ := walked
      have report : UVGetAddrInfoReq.callback memory .one 0 res = .one 0 (some ep) := by
        rw [value] at scanned
        exact scanned
      rw [report]
      apply completesOnce_of_body memory _ user (.one 0 (some ep)) false quiet
      · exact ⟨rfl, Bool.false_ne_true, rfl⟩
      · simp only [callbackBody, if_neg broken, Traced.events_bind, value, Option.isSome_some,
          if_true, failure, Bool.false_eq_true, if_false, List.append_nil]
    · exact absurd failed.1 (by simp)

/-- A request with `OnResolveAll` reports the whole result, or the append that
failed. -/
theorem completesOnce_all (user : UserCallback) (status : Int) (res : List AddrInfo) :
    CompletesOnce .all status res (UVGetAddrInfoReq.callback memory .all status res)
      (callbackTrace memory ⟨none, some user⟩ status res) := by
  by_cases broken : status ≠ 0
  · have report : UVGetAddrInfoReq.callback memory .all status res = .all status none := by
      rw [UVGetAddrInfoReq.callback, if_pos broken]
    rw [report]
    apply completesOnce_of_body memory _ user (.all status none) false (List.forall_mem_nil _)
    · exact ⟨rfl, Or.inl ⟨broken, rfl⟩⟩
    · simp only [callbackBody, if_pos broken, Option.isSome_none, failure,
        Bool.false_eq_true, if_false, List.nil_append, Traced.events_bind]
  · obtain rfl : status = 0 := Decidable.not_not.mp broken
    have scanned := walkList_scan memory ⟨none, some user⟩ res (EndPoint.ofDefault memory.ep) [] res
    rcases walkList_events memory ⟨none, some user⟩ res
        (EndPoint.ofDefault memory.ep) [] res with walked | failed
    · obtain ⟨⟨ep, result⟩, value, quiet⟩ := walked
      have report : UVGetAddrInfoReq.callback memory .all 0 res = .all 0 (some result) := by
        rw [value] at scanned
        exact scanned
      rw [report]
      apply completesOnce_of_body memory _ user (.all 0 (some result)) false quiet
      · exact ⟨rfl, Or.inr (Or.inr ⟨rfl, Bool.false_ne_true, rfl⟩)⟩
      · simp only [callbackBody, if_neg broken, Traced.events_bind, value, Option.isSome_none,
          failure, Bool.false_eq_true, if_false, List.append_nil]
    · obtain ⟨_, value, walked, quiet, split⟩ := failed
      have report : UVGetAddrInfoReq.callback memory .all 0 res = .all UV_ENOMEM none := by
        rw [value] at scanned
        exact scanned
      rw [report]
      apply completesOnce_of_body memory _ user (.all UV_ENOMEM none) true quiet
      · exact ⟨rfl, Or.inr (Or.inl ⟨rfl, rfl, rfl, rfl⟩)⟩
      · simp only [callbackBody, if_neg broken, Traced.events_bind, value, split,
          Traced.events_pure, List.append_nil]

end Completion

/-- On every path of the completion the callback that is set is invoked once,
with the report of the resolution, which is what it is owed; a list is freed
once and not read afterwards, and the request is released once. -/
theorem completes_once (memory : ResolveMemory) (request : UVGetAddrInfoRequest) (status : Int)
    (res : List AddrInfo) (single : request.Single) :
    CompletesOnce request.mode status res
      (UVGetAddrInfoReq.callback memory request.mode status res)
      (callbackTrace memory request status res) := by
  rcases single.cases with ⟨user, rfl⟩ | ⟨user, rfl⟩
  · exact completesOnce_one memory user status res
  · exact completesOnce_all memory user status res

/-- No room for the second endpoint, and a callback that throws. -/
theorem completes_once_exhausted :
    CompletesOnce .all 0
      [.inet (sockaddrIn 0x7F000001 80) rfl, .inet (sockaddrIn 0x7F000002 80) rfl]
      (UVGetAddrInfoReq.callback
        ⟨blankStorage, fun _ => blankStorage, fun result => result.isEmpty⟩ .all 0
        [.inet (sockaddrIn 0x7F000001 80) rfl, .inet (sockaddrIn 0x7F000002 80) rfl])
      (callbackTrace ⟨blankStorage, fun _ => blankStorage, fun result => result.isEmpty⟩
        ⟨none, some fun _ => .error .unknown⟩ 0
        [.inet (sockaddrIn 0x7F000001 80) rfl, .inet (sockaddrIn 0x7F000002 80) rfl]) :=
  completes_once _ ⟨none, some fun _ => .error .unknown⟩ 0 _ (by
    simp [UVGetAddrInfoRequest.Single])

end MoeUV
