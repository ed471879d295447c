import MoeUV.Completion.Service

/-!
# Callbacks that throw

Every callback is called inside a `try` block whose handlers catch everything, so a
handler should do the same whether its callbacks return or throw. In all handlers but
one the block ends with the call. `Stream::OnUVRead` closes the handle inside the block
that `OnError` was called in, and an exception skips that.

Two executions are compared: one in which some callbacks throw, and the same one with
all of them returning.
-/

namespace MoeUV

open Foundation.Execution

variable {Callback : Type}

/-- The handle is open and belongs to the wrapper. -/
def Heap.ownsOpen (heap : Heap) (self : Pointer) (id : HandleId) : Bool :=
  (heap.blocks id).any fun block =>
    decide (block.phase = .opened) && decide (dataToHandle block.data = some self)

/-- The same step with a callback that returns. -/
def SocketAction.calm : SocketAction Callback → SocketAction Callback
  | .resume _ => .resume false
  | action => action

/-- The handle and the wrapper of a handler that goes on inside the `try` block of its
callback. -/
def Point.inTry : Point → Option (HandleId × Pointer)
  | .errorInTry handle self => some (handle, self)
  | _ => none

/-- `OnError` does not throw where the handler has yet to close the handle inside the
same `try` block. -/
def SocketAction.Harmless (sockets : Sockets Callback) : SocketAction Callback → Prop
  | .resume true => ∀ frame ∈ sockets.frame, ∀ site ∈ frame.point.inTry,
      sockets.heap.ownsOpen site.2 site.1 = false
  | _ => True

instance (sockets : Sockets Callback) :
    (action : SocketAction Callback) → Decidable (action.Harmless sockets)
  | .resume true => inferInstanceAs (Decidable (∀ frame ∈ sockets.frame,
      ∀ site ∈ frame.point.inTry, sockets.heap.ownsOpen site.2 site.1 = false))
  | .resume false | .operate _ | .setCallback _ _ _ | .submit _ | .allocBuffer _ _
  | .complete _ _ | .read _ _ | .receive _ _ _ _ | .connection _ _ => .isTrue trivial

variable {sockets : Sockets Callback} {handle : HandleId} {self : Pointer}

/-- A wrapper owns an open handle if the handle is open and its `data` names the wrapper. -/
theorem ownsOpen_iff {block : Block} {heap : Heap} (present : heap.blocks handle = some block) :
    heap.ownsOpen self handle = true ↔
      block.phase = .opened ∧ dataToHandle block.data = some self := by
  simp [Heap.ownsOpen, present]

/-- The last act of a handler does nothing exactly when the handle is closing already or
belongs to another wrapper. -/
theorem closeIfOwner_eq_leave_iff (coherent : Coherent sockets.heap)
    (served : Served sockets.heap handle) (owned : List BlockId) (self : Pointer) :
    .ok (sockets.leave owned (some handle)) = sockets.closeIfOwner owned handle self ↔
      sockets.heap.ownsOpen self handle = false := by
  obtain ⟨block, present, _⟩ := served.1
  rw [← Bool.not_eq_true, ownsOpen_iff present]
  by_cases named : dataToHandle block.data = some self
  · obtain ⟨wrapper, live, holds⟩ := coherent.owned.named_by present named
    have entered {result : Bool} {heap : Heap}
        (closed : sockets.heap.close self = .ok (result, heap)) :
        sockets.closeIfOwner owned handle self =
          .ok ({ sockets with heap := heap }.leave owned (some handle)) := by
      simp only [Sockets.closeIfOwner, getSelf_ok present, ok_bind, if_pos named,
        invoke_named coherent.owned present named, closed]
      rfl
    by_cases opened : block.phase = .opened
    · obtain ⟨result, heap, changed, closed, _, _, present', phase⟩ :=
        close_held coherent live holds present
      rw [entered closed]
      refine iff_of_false ?_ (not_not.mpr ⟨opened, named⟩)
      intro same
      have heaps : sockets.heap = heap := congrArg Sockets.heap (Except.ok.inj same)
      rw [← heaps, present] at present'
      obtain rfl : block = changed := Option.some.inj present'
      simp [opened] at phase
    · rw [entered (close_closing live holds present opened)]
      exact iff_of_true rfl fun both => opened both.1
  · refine iff_of_true ?_ fun both => named both.2
    simp only [Sockets.closeIfOwner, getSelf_ok present, ok_bind, if_neg named]
    rfl

/-- A step does the same whether its callback throws or returns, but for the harm that
`Stream::OnUVRead` suffers. -/
theorem run_calm_iff (sound : Sound sockets) {action : SocketAction Callback}
    (enabled : action.Enabled sockets) :
    action.run sockets = action.calm.run sockets ↔ action.Harmless sockets := by
  cases action with
  | resume threw =>
    cases threw with
    | false => exact iff_of_true rfl trivial
    | true =>
      obtain ⟨frame, current⟩ := Option.ne_none_iff_exists'.mp enabled.2
      simp only [SocketAction.run, SocketAction.calm, SocketAction.Harmless, current,
        Option.mem_some_iff, forall_eq']
      cases point : frame.point with
      | done => simp [Sockets.resume, Point.inTry, point]
      | completion handle self status => simp [Sockets.resume, Point.inTry, point]
      | error handle self => simp [Sockets.resume, Point.inTry, point]
      | errorInTry handle self =>
        have served := sound.running frame current (handle, self) (by rw [point]; rfl)
        have closes := closeIfOwner_eq_leave_iff sound.coherent served frame.owned self
        simp only [Sockets.resume, Point.inTry, point, if_true, Bool.false_eq_true, if_false,
          Option.mem_some_iff, forall_eq', pure_eq_ok]
        exact closes
  | _ => exact iff_of_true rfl trivial

section Runs

/-- Over every run, throwing callbacks leave the same states behind as returning ones,
step by step, exactly when no `OnError` of `Stream::OnUVRead` throws while the handle is
open and still belongs to the wrapper. -/
theorem throwing_iff {start : Sockets Callback} (sound : Sound start)
    (actions : List (SocketAction Callback)) (legal : socketSystem.Legal start actions) :
    (∀ taken, taken <+: actions →
      socketSystem.exec start taken = socketSystem.exec start (taken.map SocketAction.calm)) ↔
    socketSystem.Guarded (fun sockets action => action.Harmless sockets) start actions := by
  rw [socketSystem.agree_iff_guarded SocketAction.calm]
  refine socketSystem.guarded_congr Sound ?_ ?_ sound legal
  · intro sockets action sound enabled
    obtain ⟨next, ran, kept, _⟩ := sound.run enabled
    exact ⟨next, ran, kept⟩
  · intro sockets action sound enabled
    exact run_calm_iff sound enabled

/-- A failed write whose callback and `OnError` throw, after the first of them has moved
the wrapper, and a failed read whose `OnError` destroys the wrapper and throws. -/
theorem throwing_harmless :
    let actions : List (SocketAction Nat) :=
      [.operate (.construct wrapperA true), .setCallback wrapperA .onError (some 1),
        .submit (.writeNoCopy wrapperA 4 (some 7) 0), .complete 0 UV_ECANCELED,
        .operate (.moveConstruct wrapperB wrapperA), .resume true, .allocBuffer 2 true,
        .read 0 UV_ECANCELED, .operate (.destroy wrapperB), .resume true]
    ∀ taken, taken <+: actions → socketSystem.exec Sockets.initial taken =
      socketSystem.exec Sockets.initial (taken.map SocketAction.calm) :=
  (throwing_iff initial_sound _ (socketSystem.legal_of_check (by decide))).mpr
    (socketSystem.guarded_of_check (by decide))

/-- A read fails and `OnError` throws: the handle stays open. Had it returned, the handle
would be closing. -/
theorem throwing_false_read :
    let actions : List (SocketAction Nat) :=
      [.operate (.construct wrapperA true), .setCallback wrapperA .onError (some 1),
        .allocBuffer 2 true, .read 0 UV_ECANCELED, .resume true]
    socketSystem.Legal Sockets.initial actions ∧
      (socketSystem.exec Sockets.initial actions).map (·.heap.ownsOpen wrapperA 2) = .ok true ∧
      socketSystem.exec Sockets.initial actions ≠
        socketSystem.exec Sockets.initial (actions.map SocketAction.calm) := by
  intro actions
  have stays : (socketSystem.exec Sockets.initial actions).map (·.heap.ownsOpen wrapperA 2) =
      .ok true := rfl
  have closes : (socketSystem.exec Sockets.initial (actions.map SocketAction.calm)).map
      (·.heap.ownsOpen wrapperA 2) = .ok false := rfl
  refine ⟨socketSystem.legal_of_check (by decide), stays, ?_⟩
  intro same
  rw [← same, stays] at closes
  cases closes

end Runs

end MoeUV
