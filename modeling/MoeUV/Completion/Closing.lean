import MoeUV.Completion.Throwing

/-!
# What an error leaves behind

A handler that was called for an error closes the handle in the end, but only if the
handle still belongs to the wrapper that the handler found at its entry. Its callbacks
may have moved the handle to another wrapper, which then has to look after it.

The handles of all errors that have been dealt with are on record. The rule of exactness
gives the runs in which none of these handles is left open.
-/

namespace MoeUV

open Foundation.Execution

variable {Callback : Type}

/-- No error has left its handle open. -/
def Settled (sockets : Sockets Callback) : Prop := ∀ id ∈ sockets.failed, Shut sockets.heap id

/-- The handles on record exist. -/
def Born (sockets : Sockets Callback) : Prop :=
  ∀ id ∈ sockets.failed, id < sockets.heap.fresh

instance (heap : Heap) (self : Pointer) (id : HandleId) : Decidable (heap.StillOwns self id) :=
  inferInstanceAs (Decidable (∀ block ∈ heap.blocks id, block.phase = .opened →
    dataToHandle block.data = some self))

/-- After a callback on the way, no other wrapper has the handle, unless it is closing
already. -/
def SocketAction.KeepsOwner (sockets : Sockets Callback) : SocketAction Callback → Prop
  | .resume _ => ∀ frame ∈ sockets.frame, ∀ site ∈ frame.point.site,
      sockets.heap.StillOwns site.2 site.1
  | _ => True

instance (sockets : Sockets Callback) :
    (action : SocketAction Callback) → Decidable (action.KeepsOwner sockets)
  | .resume _ => inferInstanceAs (Decidable (∀ frame ∈ sockets.frame,
      ∀ site ∈ frame.point.site, sockets.heap.StillOwns site.2 site.1))
  | .operate _ | .setCallback _ _ _ | .submit _ | .allocBuffer _ _
  | .complete _ _ | .read _ _ | .receive _ _ _ _ | .connection _ _ => .isTrue trivial

/-- A handler that goes on leaves the handle shut, if it returns. -/
def SocketAction.Settles (sockets : Sockets Callback) : SocketAction Callback → Prop
  | .resume threw => ∀ frame ∈ sockets.frame, sockets.Settles frame threw
  | _ => True

section Steps

variable {sockets next : Sockets Callback}

/-- Where the callback returned, the condition is that no other wrapper has the handle. -/
theorem settles_iff_keepsOwner {action : SocketAction Callback} (returns : action ≠ .resume true)
    (sockets : Sockets Callback) : action.Settles sockets ↔ action.KeepsOwner sockets := by
  cases action with
  | resume threw =>
    cases threw with
    | true => exact absurd rfl returns
    | false =>
      have each (frame : Frame) : sockets.Settles frame false ↔
          ∀ site ∈ frame.point.site, sockets.heap.StillOwns site.2 site.1 := by
        cases point : frame.point <;> simp [Sockets.Settles, point, Point.site]
      simp only [SocketAction.Settles, SocketAction.KeepsOwner, each]
  | _ => exact Iff.rfl

/-- A step that puts no handle on record. -/
theorem unrecorded (born : Born sockets) (evolves : Evolves sockets.heap next.heap)
    (fresh : sockets.heap.fresh ≤ next.heap.fresh) (failed : next.failed = sockets.failed) :
    Born next ∧ (Settled sockets → Settled next) := by
  constructor
  · intro id member
    exact Nat.lt_of_lt_of_le (born id (failed ▸ member)) fresh
  · intro settled id member
    have earlier : id ∈ sockets.failed := failed ▸ member
    exact (settled id earlier).evolves evolves (born id earlier)

/-- What a segment puts on record is shut under its condition. A segment that records nothing
asks nothing; one that records its handle leaves it shut exactly under the condition of the
segment. -/
theorem Segment.recorded {owned : List BlockId} {handle : Option HandleId} {settles : Prop}
    (segment : Segment sockets next owned handle settles) (coherent : Coherent sockets.heap)
    (born : Born sockets) (served : ∀ id ∈ handle, Served sockets.heap id) :
    Born next ∧ (Settled sockets → (settles ↔ Settled next)) := by
  have moves := moves_of_user segment.moves
  have fresh := fresh_le_of_moves moves
  have evolves := Evolves.of_moves moves
  rcases segment.failed with ⟨failed, settled⟩ | ⟨id, site, failed, exactly⟩
  · obtain ⟨born, kept⟩ := unrecorded born evolves fresh failed
    exact ⟨born, fun before => iff_of_true settled (kept before)⟩
  · constructor
    · intro other member
      rw [failed] at member
      rcases List.mem_cons.mp member with rfl | earlier
      · exact Nat.lt_of_lt_of_le ((served other site).born coherent.linked) fresh
      · exact Nat.lt_of_lt_of_le (born other earlier) fresh
    · intro before
      rw [← exactly]
      constructor
      · intro shut other member
        rw [failed] at member
        rcases List.mem_cons.mp member with rfl | earlier
        · exact shut
        · exact (before other earlier).evolves evolves (born other earlier)
      · intro after
        exact after id (failed ▸ List.mem_cons_self)

/-- A step keeps all handles on record shut exactly under its condition. Only the handlers put a
handle on record or decide about one, so the cases are those of the effect, and the condition is
read off the segment of the handler. -/
theorem settles_iff (sound : Sound sockets) (born : Born sockets) {action : SocketAction Callback}
    (enabled : action.Enabled sockets) :
    ∃ next, action.run sockets = .ok next ∧ Sound next ∧ Born next ∧
      (Settled sockets → (action.Settles sockets ↔ Settled next)) := by
  obtain ⟨next, ran, kept, effect⟩ := sound.run enabled
  refine ⟨next, ran, kept, ?_⟩
  cases effect with
  | beside outside evolves fresh _ _ _ _ _ failed =>
    obtain ⟨born, kept⟩ := unrecorded born evolves fresh failed
    have settles : action.Settles sockets := by
      cases action with
      | resume threw => cases outside
      | _ => trivial
    exact ⟨born, fun before => iff_of_true settles (kept before)⟩
  | submitted operation copied callback code =>
    have same : (sockets.submit operation copied callback code).2.heap = sockets.heap ∧
        (sockets.submit operation copied callback code).2.failed = sockets.failed := by
      by_cases refused : code < 0 <;> simp [Sockets.submit, refused]
    obtain ⟨born, kept⟩ := unrecorded born (same.1 ▸ .refl sockets.heap) (by rw [same.1]) same.2
    exact ⟨born, fun before => iff_of_true trivial (kept before)⟩
  | lent handle granted =>
    have same : (sockets.onUVAllocBuffer handle granted).heap = sockets.heap ∧
        (sockets.onUVAllocBuffer handle granted).failed = sockets.failed := by
      cases granted <;> exact ⟨rfl, rfl⟩
    obtain ⟨born, kept⟩ := unrecorded born (same.1 ▸ .refl sockets.heap) (by rw [same.1]) same.2
    exact ⟨born, fun before => iff_of_true trivial (kept before)⟩
  | completed request present idle own segment =>
    obtain ⟨_, served⟩ := sound.pending request (List.mem_of_getElem? present)
    exact segment.recorded sound.coherent born served
  | returned buf kind present idle segment =>
    have served := sound.lent buf (List.mem_of_getElem? present)
    have settles : action.Settles sockets := by
      cases action with
      | resume threw => cases kind
      | _ => trivial
    obtain ⟨born, kept⟩ := segment.recorded sound.coherent born (by rintro _ ⟨⟩; exact served)
    exact ⟨born, fun before => iff_of_true settles ((kept before).mp trivial)⟩
  | connected idle segment =>
    have served := serves_iff.mp enabled.2.2
    exact segment.recorded sound.coherent born (by rintro _ ⟨⟩; exact served)
  | resumed frame current segment =>
    obtain ⟨born, kept⟩ := segment.recorded sound.coherent born (by
      intro id member
      obtain ⟨site, waiting, rfl⟩ := Option.map_eq_some_iff.mp member
      exact sound.running frame current site waiting)
    refine ⟨born, fun before => ?_⟩
    rw [← kept before]
    simp only [SocketAction.Settles, current, Option.mem_some_iff, forall_eq']

end Steps

section Runs

/-- Over every run whose callbacks return, every error leaves its handle closing or
closed exactly when no callback on the way leaves the handle open with another
wrapper. -/
theorem error_closes_iff {start : Sockets Callback} (sound : Sound start)
    (unfailed : start.failed = []) (actions : List (SocketAction Callback))
    (returns : ∀ action ∈ actions, action ≠ .resume true)
    (legal : socketSystem.Legal start actions) :
    socketSystem.Throughout Settled start actions ↔
      socketSystem.Guarded (fun sockets action => action.KeepsOwner sockets) start actions := by
  rw [← socketSystem.guarded_congr_mem fun action member sockets =>
    settles_iff_keepsOwner (returns action member) sockets]
  refine socketSystem.throughout_iff_guarded (fun sockets => Sound sockets ∧ Born sockets) Settled _
    ?_ ?_ ⟨sound, ?_⟩ ?_ legal
  · rintro sockets action ⟨sound, born⟩ settled enabled
    obtain ⟨final, ran, _, _, settles⟩ := settles_iff sound born enabled
    rw [settles settled]
    constructor
    · intro kept
      exact ⟨final, ran, kept⟩
    · rintro ⟨next, ran', kept⟩
      obtain rfl : final = next := Except.ok.inj (ran.symm.trans ran')
      exact kept
  · rintro sockets action next ⟨sound, born⟩ _ enabled _ stepped
    obtain ⟨final, ran, kept, born, _⟩ := settles_iff sound born enabled
    obtain rfl : final = next := Except.ok.inj (ran.symm.trans stepped)
    exact ⟨kept, born⟩
  · intro id member
    rw [unfailed] at member
    cases member
  · intro id member
    rw [unfailed] at member
    cases member

/-- A failed read whose `OnError` destroys the wrapper, and a failed write of the next
wrapper, whose callback moves that one away and back again. -/
theorem error_closes_moved :
    socketSystem.Throughout Settled (Sockets.initial : Sockets Nat)
      [.operate (.construct wrapperA true), .setCallback wrapperA .onError (some 1),
        .allocBuffer 2 true, .read 0 UV_ECANCELED, .operate (.destroy wrapperA), .resume false,
        .operate (.construct wrapperA true), .setCallback wrapperA .onError (some 1),
        .submit (.writeNoCopy wrapperA 4 (some 7) 0), .complete 0 UV_ECANCELED,
        .operate (.moveConstruct wrapperB wrapperA), .operate (.moveAssign wrapperA wrapperB),
        .resume false, .resume false] :=
  (error_closes_iff initial_sound rfl _ (by simp) (socketSystem.legal_of_check (by decide))).mpr
    (socketSystem.guarded_of_check (by decide))

/-- `OnError` moves the wrapper: the handler returns and the handle stays open. -/
theorem error_closes_false_moved :
    let actions : List (SocketAction Nat) :=
      [.operate (.construct wrapperA true), .setCallback wrapperA .onError (some 1),
        .submit (.write wrapperA 4 0), .complete 0 UV_ECANCELED,
        .operate (.moveConstruct wrapperB wrapperA), .resume false]
    socketSystem.Legal Sockets.initial actions ∧
      (socketSystem.exec Sockets.initial actions).map (fun sockets =>
        (sockets.failed, sockets.heap.ownsOpen wrapperB 2)) = .ok ([2], true) ∧
      ¬ socketSystem.Throughout Settled Sockets.initial actions := by
  intro actions
  have outcome : (socketSystem.exec Sockets.initial actions).map (fun sockets =>
      (sockets.failed, sockets.heap.ownsOpen wrapperB 2)) = .ok ([2], true) := rfl
  refine ⟨socketSystem.legal_of_check (by decide), outcome, ?_⟩
  intro throughout
  obtain ⟨final, executed⟩ := throughout.1
  have settled : Settled final := System.Throughout.final socketSystem throughout executed
  rw [executed] at outcome
  obtain ⟨failed, opened⟩ := Prod.mk.inj (Except.ok.inj outcome)
  have shut : Shut final.heap 2 := settled 2 (failed ▸ List.mem_singleton_self 2)
  obtain ⟨block, present, both⟩ := (Option.any_eq_true _ _).mp opened
  rw [Bool.and_eq_true, decide_eq_true_eq] at both
  exact shut block present both.1

end Runs

end MoeUV
