import MoeUV.Transparency.History

/-!
# Moving a wrapper is transparent

A wrapper that owns a handle and the handle itself make one object, wherever the wrapper
is at the time. A call or a callback does to this object what it does, and a move does
nothing to it, since every class carries all its members over and `AsyncHandle` makes
the handle's `data` name the destination. What a wrapper leaves behind when it is moved
from is closed and has no handle, so nothing done with it reaches one.
-/

namespace MoeUV.Transparency

open Foundation.Execution

variable {Callback : Type} {wrapperClass : WrapperClass Callback}

/-- The state of a history is that of one object, and the wrappers it was moved out of
are empty. -/
structure Represents (handle : HandleId) (history : History wrapperClass)
    (plain : Plain wrapperClass) : Prop where
  coherent : Coherent history.heap
  followed : history.handle = handle
  owner : ∃ wrapper, history.heap.wrappers history.current = some wrapper ∧
    wrapper.handle = some handle
  phase : ∃ block, history.heap.blocks handle = some block ∧ block.phase = plain.phase ∧
    block.referenced = plain.referenced
  members : history.members history.current = plain.members
  log : history.log = plain.log
  left : ∀ self ∈ history.left,
    self ≠ history.current ∧ history.heap.wrappers self = some ⟨none, true⟩

section Base

variable {heap : Heap} {self org : Pointer} {wrapper : Wrapper} {id : HandleId} {block : Block}

/-- `Close` on the owner of a handle. The result tells whether the handle was open; one that is
closing or closed is left as it is. -/
theorem close_owner (coherent : Coherent heap) (live : heap.wrappers self = some wrapper)
    (holds : wrapper.handle = some id) (allocated : heap.blocks id = some block) :
    ∃ next changed, heap.close self = .ok (decide (block.phase = .opened), next) ∧
      Coherent next ∧ next.wrappers = heap.wrappers ∧ next.blocks id = some changed ∧
      changed.phase = (if block.phase = .closed then .closed else .closing) ∧
      changed.referenced = block.referenced := by
  obtain ⟨result, next, changed, closed, moves, wrappers, present, phase⟩ :=
    close_held coherent live holds allocated
  have after := coherent.moves (moves_of_user moves)
  by_cases opened : block.phase = .opened
  · obtain ⟨found, found', _, _, _, agrees⟩ := coherent.owned.holds live holds
    obtain rfl : block = found := Option.some.inj (allocated.symm.trans found')
    have notClosed : wrapper.handleClosed = false := by simpa [opened] using agrees
    have answer := close_opened live holds notClosed allocated opened
    obtain ⟨rfl, rfl⟩ := Prod.mk.inj (Except.ok.inj (closed.symm.trans answer))
    rw [heap.markClosing_blocks, if_pos rfl] at present
    refine ⟨_, changed, ?_, after, wrappers, ?_, phase, ?_⟩
    · rw [closed, decide_eq_true opened]
    · exact (heap.markClosing_blocks id id block _).trans ((if_pos rfl).trans present)
    · rw [← Option.some.inj present]
  · have answer := close_closing live holds allocated opened
    obtain ⟨rfl, rfl⟩ := Prod.mk.inj (Except.ok.inj (closed.symm.trans answer))
    refine ⟨_, changed, ?_, after, wrappers, present, phase, ?_⟩
    · rw [closed, decide_eq_false opened]
    · rw [Option.some.inj (present.symm.trans allocated)]

/-- `Ref` and `Unref` of the owner of a handle reach it as long as it is not closed. -/
theorem setReferenced_owner (coherent : Coherent heap) (live : heap.wrappers self = some wrapper)
    (holds : wrapper.handle = some id) (allocated : heap.blocks id = some block)
    (referenced : Bool) :
    ∃ next changed, heap.setReferenced self referenced = .ok next ∧ Coherent next ∧
      next.wrappers = heap.wrappers ∧ next.blocks id = some changed ∧
      changed.phase = block.phase ∧
      changed.referenced = (if block.phase = .closed then block.referenced else referenced) := by
  obtain ⟨found, found', _, _, _, agrees⟩ := coherent.owned.holds live holds
  obtain rfl : block = found := Option.some.inj (allocated.symm.trans found')
  obtain ⟨next, ran, moves⟩ := setReferenced_moves coherent live referenced
  have after := coherent.moves (moves_of_user moves)
  by_cases closed : wrapper.handleClosed = true
  · have same : heap.setReferenced self referenced = .ok heap := by
      simp only [Heap.setReferenced, Heap.wrapper_ok live, ok_bind, closed, if_true, pure_eq_ok]
    obtain rfl := Except.ok.inj (ran.symm.trans same)
    exact ⟨_, block, ran, after, rfl, allocated, rfl, (if_pos (agrees.mp closed)).symm⟩
  · have reached : heap.setReferenced self referenced =
        .ok (heap.setBlock id { block with referenced := referenced }) := by
      simp only [Heap.setReferenced, Heap.wrapper_ok live, ok_bind, if_neg closed, holds,
        Heap.uvSetReferenced, Heap.deref_ok allocated, pure_eq_ok]
    obtain rfl := Except.ok.inj (ran.symm.trans reached)
    refine ⟨_, { block with referenced := referenced }, ran, after, rfl, ?_, rfl, ?_⟩
    · exact (heap.setBlock_blocks id id _).trans (if_pos rfl)
    · exact (if_neg fun phase => closed (agrees.mpr phase)).symm

/-- The owner of a handle is told that it is closed. -/
theorem deliverClose_owner (coherent : Coherent heap) (live : heap.wrappers self = some wrapper)
    (holds : wrapper.handle = some id) (closing : id ∈ heap.closingHandles) :
    ∃ next changed, heap.deliverClose id = .ok next ∧ Coherent next ∧
      (∀ other, next.wrappers other =
        if other = self then some { wrapper with handleClosed := true } else heap.wrappers other) ∧
      next.blocks id = some changed ∧ changed.phase = .closed ∧ changed.referenced = false := by
  obtain ⟨reached, delivered, move, _⟩ := deliverClose_move coherent closing
  obtain ⟨block, allocated, phase⟩ := coherent.linked.allocated_closing closing
  obtain ⟨found, found', _, pooled, data, _⟩ := coherent.owned.holds live holds
  obtain rfl : block = found := Option.some.inj (allocated.symm.trans found')
  have closeCb := coherent.owned.closeCb_pooled allocated (by simp [phase]) pooled
  have named : dataToHandle block.data = some self := by rw [data, dataToHandle_handleToData]
  have owned := deliverClose_owned allocated closeCb named live
  obtain rfl := Except.ok.inj (delivered.symm.trans owned)
  refine ⟨_, { block with phase := .closed, referenced := false }, owned, coherent.move move, ?_,
    ?_, rfl, rfl⟩
  · intro other
    rw [Heap.setWrapper, Heap.putWrapper_wrappers]
    rfl
  · exact (heap.markClosed_blocks id id block).trans (if_pos rfl)

/-- Both moves do the same to the handle: it goes with the source's wrapper, and nothing
is left there. -/
theorem handOver_owner (self : Pointer) (holds : wrapper.handle = some id)
    (allocated : heap.blocks id = some block) :
    ∃ next changed, heap.handOver self org wrapper = .ok next ∧
      (∀ other, next.wrappers other = if other = org then some ⟨none, true⟩
        else if other = self then some wrapper else heap.wrappers other) ∧
      next.blocks id = some changed ∧ changed.phase = block.phase ∧
      changed.referenced = block.referenced := by
  refine ⟨((heap.putWrapper self (some wrapper)).putWrapper org (some ⟨none, true⟩)).setBlock id
    { block with data := handleToData self }, { block with data := handleToData self }, ?_, ?_, ?_,
    rfl, rfl⟩
  · simp only [Heap.handOver, holds]
    exact Heap.setData_ok (by exact allocated) _
  · intro other
    rw [Heap.setBlock_wrappers, Heap.putWrapper_wrappers, Heap.putWrapper_wrappers]
  · rw [Heap.setBlock_blocks, if_pos rfl]

/-- The destructor of an empty wrapper does nothing else. -/
theorem destroy_empty (live : heap.wrappers self = some ⟨none, true⟩) :
    heap.destroy self = .ok (heap.putWrapper self none) := by
  simp only [Heap.destroy, Heap.wrapper_ok live, ok_bind]
  rfl

/-- Neither do `Ref` and `Unref` of one reach a handle. -/
theorem setReferenced_empty (live : heap.wrappers self = some ⟨none, true⟩) (referenced : Bool) :
    heap.setReferenced self referenced = .ok heap := by
  simp only [Heap.setReferenced, Heap.wrapper_ok live, ok_bind]
  rfl

end Base

section Calls

variable (codes : List (Observation Callback) → Int) {handle : HandleId}
  {history : History wrapperClass} {plain : Plain wrapperClass}

/-- `data` names the current wrapper. -/
theorem Represents.named (represents : Represents handle history plain) :
    history.heap.getSelf handle = .ok (some history.current) := by
  obtain ⟨wrapper, live, holds⟩ := represents.owner
  obtain ⟨block, allocated, _, _, data, _⟩ := represents.coherent.owned.holds live holds
  rw [getSelf_ok allocated, data, dataToHandle_handleToData]

/-- Something is added to the log. -/
theorem Represents.observe (represents : Represents handle history plain)
    (observation : Observation Callback) :
    Represents handle { history with log := history.log ++ [observation] }
      { plain with log := plain.log ++ [observation] } :=
  ⟨represents.coherent, represents.followed, represents.owner, represents.phase,
    represents.members, by rw [represents.log], represents.left⟩

/-- The current wrapper closes its handle, or has closed it before. -/
theorem Represents.close (represents : Represents handle history plain) :
    ∃ heap, history.heap.close history.current = .ok (decide (plain.phase = .opened), heap) ∧
      Represents handle { history with heap := heap }
        { plain with phase := if plain.phase = .closed then .closed else .closing } := by
  obtain ⟨wrapper, live, holds⟩ := represents.owner
  obtain ⟨block, allocated, phase, referenced⟩ := represents.phase
  obtain ⟨heap, changed, closed, coherent, wrappers, present, after, same⟩ :=
    close_owner represents.coherent live holds allocated
  rw [phase] at closed after
  refine ⟨heap, closed, coherent, represents.followed, ⟨wrapper, ?_, holds⟩,
    ⟨changed, present, after, same.trans referenced⟩, represents.members, represents.log, ?_⟩
  · rw [wrappers]
    exact live
  · intro self member
    rw [wrappers]
    exact represents.left self member

/-- The current wrapper references its handle or gives it up, unless it is closed. -/
theorem Represents.setReferenced (represents : Represents handle history plain)
    (referenced : Bool) :
    ∃ heap, history.heap.setReferenced history.current referenced = .ok heap ∧
      Represents handle { history with heap := heap } (plain.setReferenced referenced) := by
  obtain ⟨wrapper, live, holds⟩ := represents.owner
  obtain ⟨block, allocated, phase, before⟩ := represents.phase
  obtain ⟨heap, changed, ran, coherent, wrappers, present, same, after⟩ :=
    setReferenced_owner represents.coherent live holds allocated referenced
  rw [phase, before] at after
  have alike : plain.setReferenced referenced =
      { plain with referenced := if plain.phase = .closed then plain.referenced
        else referenced } := by
    rw [Plain.setReferenced]
    split
    · rfl
    · rfl
  rw [alike]
  refine ⟨heap, ran, coherent, represents.followed, ⟨wrapper, ?_, holds⟩,
    ⟨changed, present, same.trans phase, after⟩, represents.members, represents.log, ?_⟩
  · rw [wrappers]
    exact live
  · intro self member
    rw [wrappers]
    exact represents.left self member

/-- A member of the current wrapper is set. -/
theorem Represents.assign (represents : Represents handle history plain)
    (members : wrapperClass.Members) :
    Represents handle
      { history with members := Function.update history.members history.current members }
      { plain with members := members } :=
  ⟨represents.coherent, represents.followed, represents.owner, represents.phase,
    Function.update_self history.current members history.members, represents.log, represents.left⟩

/-- Closing a plain object: one that is closed stays closed, and any other begins to close. -/
theorem Plain.call_close (codes : List (Observation Callback) → Int) (handle : HandleId)
    (plain : Plain wrapperClass) :
    plain.call codes handle .close =
      Plain.answer { plain with phase := if plain.phase = .closed then .closed else .closing }
        (.boolean (decide (plain.phase = .opened))) := by
  obtain ⟨phase, referenced, members, log⟩ := plain
  cases phase with
  | opened => rfl
  | closing => rfl
  | closed => rfl

/-- What a call on the current wrapper does before its result is seen. The cases are the calls:
those of the class see its members, which are the same, and those of the handle see the block,
whose phase is the same. -/
theorem Represents.perform (represents : Represents handle history plain)
    (call : WrapperCall wrapperClass) :
    ∃ answer next done, history.perform codes history.current call = .ok (answer, next) ∧
      next.current = history.current ∧ Represents handle next done ∧
      plain.call codes handle call = done.answer answer := by
  obtain ⟨wrapper, live, holds⟩ := represents.owner
  obtain ⟨block, allocated, phase, _⟩ := represents.phase
  have closing := isClosing_held represents.coherent live holds allocated
  rw [phase] at closing
  cases call with
  | own call =>
    cases method : wrapperClass.method call plain.members with
    | assign members =>
      refine ⟨.nothing, _, _, ?_, ?_, represents.assign members, ?_⟩
      · simp only [History.perform, represents.members, method]
        rfl
      · rfl
      · simp only [Plain.call, method]
    | ask closed work =>
      have entered : history.perform codes history.current (.own call) =
          if plain.phase ≠ .opened then .ok (closed, history)
          else .ok (history.work codes handle work) := by
        simp only [History.perform, represents.members, method, Heap.wrapper_ok live, ok_bind,
          closing, holds, decide_eq_true_eq, pure_eq_ok]
      by_cases opened : plain.phase = .opened
      · rw [if_neg (not_not.mpr opened)] at entered
        cases work with
        | skip answer =>
          refine ⟨answer, history, plain, entered, rfl, represents, ?_⟩
          simp only [Plain.call, method, if_neg (not_not.mpr opened)]
        | uv call answer =>
          have asked := represents.observe (.requested handle call)
          refine ⟨_, _, _, entered, rfl, asked, ?_⟩
          simp only [Plain.call, method, if_neg (not_not.mpr opened), represents.log]
      · rw [if_pos opened] at entered
        refine ⟨closed, history, plain, entered, rfl, represents, ?_⟩
        simp only [Plain.call, method, if_pos opened]
  | close =>
    obtain ⟨heap, closed, after⟩ := represents.close
    refine ⟨.boolean (decide (plain.phase = .opened)), _, _, ?_, ?_, after, ?_⟩
    · simp only [History.perform, closed, ok_bind]
      rfl
    · rfl
    · exact Plain.call_close codes handle plain
  | isClosing =>
    refine ⟨_, history, plain, ?_, rfl, represents, rfl⟩
    simp only [History.perform, Heap.wrapper_ok live, ok_bind, closing]
    rfl
  | isClosed =>
    obtain ⟨found, found', _, _, _, agrees⟩ := represents.coherent.owned.holds live holds
    obtain rfl : block = found := Option.some.inj (allocated.symm.trans found')
    have known : wrapper.handleClosed = decide (plain.phase = .closed) := by
      rw [Bool.eq_iff_iff, decide_eq_true_eq, ← phase]
      exact agrees
    refine ⟨.boolean wrapper.handleClosed, history, plain, ?_, rfl, represents, ?_⟩
    · simp only [History.perform, Heap.wrapper_ok live, ok_bind]
      rfl
    · rw [known]
      rfl
  | ref =>
    obtain ⟨heap, ran, after⟩ := represents.setReferenced true
    refine ⟨.nothing, _, _, ?_, ?_, after, rfl⟩
    · simp only [History.perform, Heap.ref, ran, ok_bind]
      rfl
    · rfl
  | unref =>
    obtain ⟨heap, ran, after⟩ := represents.setReferenced false
    refine ⟨.nothing, _, _, ?_, ?_, after, rfl⟩
    · simp only [History.perform, Heap.unref, ran, ok_bind]
      rfl
    · rfl

/-- A call on the current wrapper does to the object what it does. -/
theorem Represents.call (represents : Represents handle history plain)
    (call : WrapperCall wrapperClass) :
    ∃ next, history.call codes history.current call = .ok next ∧
      next.current = history.current ∧ Represents handle next (plain.call codes handle call) := by
  obtain ⟨answer, next, done, performed, same, after, called⟩ := represents.perform codes call
  refine ⟨{ next with log := next.log ++ [.answered answer] }, ?_, same, ?_⟩
  · simp only [History.call, performed, ok_bind]
    rfl
  · rw [called]
    exact after.observe (.answered answer)

/-- So do the calls of a callback. -/
theorem Represents.script (represents : Represents handle history plain)
    (calls : List (WrapperCall wrapperClass)) :
    ∃ next, History.script codes history.current calls history = .ok next ∧
      next.current = history.current ∧
      Represents handle next (calls.foldl (Plain.call codes handle) plain) := by
  induction calls generalizing history plain with
  | nil => exact ⟨history, rfl, rfl, represents⟩
  | cons call rest inductionHypothesis =>
    obtain ⟨middle, called, same, after⟩ := represents.call codes call
    obtain ⟨next, ran, same', ends⟩ := inductionHypothesis after
    rw [same] at ran same'
    refine ⟨next, ?_, same', ends⟩
    simp only [History.script, called, ok_bind, ran]

/-- A handler does to the object what it does. The induction is on what it does, one act after
the other; a callback that it makes runs the script of the program for it. -/
theorem Represents.handler (represents : Represents handle history plain)
    (acts : List (Act wrapperClass.Members Callback))
    (scripts : List (List (WrapperCall wrapperClass))) :
    ∃ next, History.handler codes history.current acts scripts history = .ok next ∧
      Represents handle next (Plain.handler codes handle acts scripts plain) := by
  induction acts generalizing history plain scripts with
  | nil => exact ⟨history, rfl, represents⟩
  | cons act rest inductionHypothesis =>
    have named := represents.named
    rw [← represents.followed] at named
    cases act with
    | call callback arguments =>
      cases registered : callback plain.members with
      | none =>
        obtain ⟨next, ran, ends⟩ := inductionHypothesis represents scripts
        refine ⟨next, ?_, ?_⟩
        · simp only [History.handler, named, ok_bind, represents.members, registered, ran,
            ne_eq, not_true_eq_false, if_false]
        · simp only [Plain.handler, registered]
          exact ends
      | some callback =>
        obtain ⟨middle, scripted, same, after⟩ :=
          (represents.observe (.invoked callback arguments)).script codes (scripts.headD [])
        obtain ⟨next, ran, ends⟩ := inductionHypothesis after scripts.tail
        rw [same] at ran
        refine ⟨next, ?_, ?_⟩
        · simp only [History.handler, named, ok_bind, represents.members, registered, ne_eq,
            not_true_eq_false, if_false, scripted, ran]
        · simp only [Plain.handler, registered]
          exact ends
    | close =>
      obtain ⟨heap, closed, after⟩ := represents.close
      obtain ⟨next, ran, ends⟩ := inductionHypothesis after scripts
      refine ⟨next, ?_, ends⟩
      simp only [History.handler, named, ok_bind, ne_eq, not_true_eq_false, if_false, closed, ran]

end Calls

section Steps

variable (codes : List (Observation Callback) → Int) {handle : HandleId}
  {history : History wrapperClass} {plain : Plain wrapperClass}

/-- A call on an empty wrapper ends before it reaches a handle. One that needs a handle asks
first whether the wrapper is closed, and one that only concerns the members concerns those of
the empty wrapper. -/
theorem Represents.aside (represents : Represents handle history plain) {self : Pointer}
    (member : self ∈ history.left) (call : WrapperCall wrapperClass) :
    ∃ next, history.run codes (.aside self call) = .ok next ∧ Represents handle next plain := by
  obtain ⟨other, empty⟩ := represents.left self member
  have closing : history.heap.isClosing ⟨none, true⟩ = .ok true := rfl
  cases call with
  | own call =>
    cases method : wrapperClass.method call (history.members self) with
    | assign members =>
      refine ⟨{ history with members := Function.update history.members self members }, ?_,
        represents.coherent, represents.followed, represents.owner, represents.phase,
        (Function.update_of_ne other.symm members history.members).trans represents.members,
        represents.log, represents.left⟩
      simp only [History.run, History.perform, method, pure_eq_ok, ok_bind]
    | ask closed work =>
      refine ⟨history, ?_, represents⟩
      simp only [History.run, History.perform, method, Heap.wrapper_ok empty, closing, ok_bind,
        if_true, pure_eq_ok]
  | close =>
    refine ⟨history, ?_, represents⟩
    simp only [History.run, History.perform, close_idle empty rfl, ok_bind, pure_eq_ok]
  | isClosing =>
    refine ⟨history, ?_, represents⟩
    simp only [History.run, History.perform, Heap.wrapper_ok empty, closing, ok_bind, pure_eq_ok]
  | isClosed =>
    refine ⟨history, ?_, represents⟩
    simp only [History.run, History.perform, Heap.wrapper_ok empty, ok_bind, pure_eq_ok]
  | ref =>
    refine ⟨history, ?_, represents⟩
    simp only [History.run, History.perform, Heap.ref, setReferenced_empty empty, ok_bind,
      pure_eq_ok]
  | unref =>
    refine ⟨history, ?_, represents⟩
    simp only [History.run, History.perform, Heap.unref, setReferenced_empty empty, ok_bind,
      pure_eq_ok]

/-- libuv closes the handle. -/
theorem Represents.closed (represents : Represents handle history plain)
    (closing : history.handle ∈ history.heap.closingHandles) :
    ∃ next, history.run codes .closed = .ok next ∧
      Represents handle next { plain with phase := .closed, referenced := false } := by
  obtain ⟨wrapper, live, holds⟩ := represents.owner
  rw [represents.followed] at closing
  obtain ⟨heap, changed, delivered, coherent, wrappers, present, phase⟩ :=
    deliverClose_owner represents.coherent live holds closing
  refine ⟨{ history with heap := heap }, ?_, coherent, represents.followed, ?_,
    ⟨changed, present, phase⟩, represents.members, represents.log, ?_⟩
  · simp only [History.run, represents.followed, delivered, ok_bind]
    rfl
  · exact ⟨_, (wrappers history.current).trans (if_pos rfl), holds⟩
  · intro self member
    obtain ⟨other, empty⟩ := represents.left self member
    refine ⟨other, ?_⟩
    rw [wrappers, if_neg other]
    exact empty

/-- A wrapper that was moved from is destroyed. -/
theorem Represents.discard (represents : Represents handle history plain) {self : Pointer}
    (member : self ∈ history.left) :
    ∃ next, history.run codes (.discard self) = .ok next ∧ Represents handle next plain := by
  obtain ⟨wrapper, live, holds⟩ := represents.owner
  obtain ⟨other, empty⟩ := represents.left self member
  have destroyed := destroy_empty empty
  obtain ⟨heap, destroyed', moves⟩ := destroy_moves represents.coherent empty
  obtain rfl : heap = history.heap.putWrapper self none :=
    Except.ok.inj (destroyed'.symm.trans destroyed)
  refine ⟨{ history with
    heap := history.heap.putWrapper self none
    left := history.left.filter (· ≠ self) }, ?_,
    represents.coherent.moves (moves_of_user moves), represents.followed, ⟨wrapper, ?_, holds⟩,
    represents.phase, represents.members, represents.log, ?_⟩
  · simp only [History.run, destroyed, ok_bind]
    rfl
  · rw [Heap.putWrapper_wrappers, if_neg other.symm]
    exact live
  · intro remaining kept
    obtain ⟨earlier, apart⟩ := List.mem_filter.mp kept
    obtain ⟨other', empty'⟩ := represents.left remaining earlier
    refine ⟨other', ?_⟩
    rw [Heap.putWrapper_wrappers, if_neg (of_decide_eq_true apart)]
    exact empty'

/-- After a move, all that counts is with the destination. The destination has the members and
the handle, the source is empty from now on, and libuv has been asked for nothing. -/
theorem Represents.moved (represents : Represents handle history plain) {self : Pointer}
    {wrapper : Wrapper} {heap : Heap} {block : Block} (left : List Pointer)
    (members : wrapperClass.Members × wrapperClass.Members) (apart : self ≠ history.current)
    (holds : wrapper.handle = some handle) (coherent : Coherent heap)
    (wrappers : ∀ other, heap.wrappers other = if other = history.current then some ⟨none, true⟩
      else if other = self then some wrapper else history.heap.wrappers other)
    (present : heap.blocks handle = some block)
    (phase : block.phase = plain.phase ∧ block.referenced = plain.referenced)
    (carried : members.1 = history.members history.current)
    (empty : ∀ other ∈ left, other ≠ self ∧ other ∈ history.left) :
    Represents handle { history with
      heap := heap
      members := history.carry self history.current members
      current := self
      left := history.current :: left } plain := by
  refine ⟨coherent, represents.followed, ⟨wrapper, ?_, holds⟩, ⟨block, present, phase⟩, ?_,
    represents.log, ?_⟩
  · exact (wrappers self).trans ((if_neg apart).trans (if_pos rfl))
  · have destination : history.carry self history.current members self = members.1 :=
      (Function.update_of_ne apart _ _).trans (Function.update_self ..)
    exact destination.trans (carried.trans represents.members)
  · intro other member
    rcases List.mem_cons.mp member with rfl | earlier
    · exact ⟨apart.symm, (wrappers history.current).trans (if_pos rfl)⟩
    · obtain ⟨different, earlier⟩ := empty other earlier
      obtain ⟨apart', vacant⟩ := represents.left other earlier
      refine ⟨different, ?_⟩
      rw [wrappers, if_neg apart', if_neg different]
      exact vacant

/-- The current wrapper is moved into new memory. The new wrapper was nowhere before, so it is
none of those that were moved from. -/
theorem Represents.moveConstruct (carries : wrapperClass.CarriesOver)
    (represents : Represents handle history plain) {self : Pointer}
    (vacant : history.heap.wrappers self = none) :
    ∃ next, history.run codes (.moveConstruct self) = .ok next ∧
      Represents handle next plain := by
  obtain ⟨wrapper, live, holds⟩ := represents.owner
  obtain ⟨block, allocated, phase⟩ := represents.phase
  have occupied {other : Pointer} {found : Wrapper}
      (live : history.heap.wrappers other = some found) : other ≠ self := by
    rintro rfl
    rw [vacant] at live
    cases live
  obtain ⟨heap, moved, moves⟩ := moveConstruct_moves represents.coherent vacant live
  obtain ⟨heap', changed, handed, wrappers, present, same⟩ :=
    handOver_owner self holds allocated
  obtain rfl : heap = heap' :=
    Except.ok.inj (moved.symm.trans ((moveConstruct_eq live).trans handed))
  refine ⟨_, ?_, represents.moved history.left
    (wrapperClass.moveConstruct (history.members history.current)) (occupied live).symm holds
    (represents.coherent.moves (moves_of_user moves)) wrappers present
    ⟨same.1.trans phase.1, same.2.trans phase.2⟩
    (carries.constructed _) ?_⟩
  · simp only [History.run, moved, ok_bind]
    rfl
  · intro other member
    exact ⟨occupied (represents.left other member).2, member⟩

/-- The current wrapper is moved into an empty one. -/
theorem Represents.moveAssign (carries : wrapperClass.CarriesOver)
    (represents : Represents handle history plain) {self : Pointer}
    (member : self ∈ history.left) :
    ∃ next, history.run codes (.moveAssign self) = .ok next ∧
      Represents handle next plain := by
  obtain ⟨wrapper, live, holds⟩ := represents.owner
  obtain ⟨block, allocated, phase⟩ := represents.phase
  obtain ⟨apart, empty⟩ := represents.left self member
  obtain ⟨heap, moved, moves⟩ := moveAssign_moves represents.coherent empty live nofun
  obtain ⟨heap', changed, handed, wrappers, present, same⟩ :=
    handOver_owner self holds allocated
  have assigned : history.heap.moveAssign self history.current = .ok heap' := by
    rw [Heap.moveAssign, release_idle empty rfl, ok_bind, takeOver_apart apart empty live, handed]
  obtain rfl : heap = heap' := Except.ok.inj (moved.symm.trans assigned)
  refine ⟨_, ?_, represents.moved (history.left.filter (· ≠ self))
    (wrapperClass.moveAssign (history.members self) (history.members history.current)) apart holds
    (represents.coherent.moves (moves_of_user moves)) wrappers present
    ⟨same.1.trans phase.1, same.2.trans phase.2⟩
    (carries.assigned _ _) ?_⟩
  · simp only [History.run, moved, ok_bind]
    rfl
  · intro other member
    obtain ⟨earlier, different⟩ := List.mem_filter.mp member
    exact ⟨of_decide_eq_true different, earlier⟩

/-- libuv calls back while the object is not closed. -/
theorem Represents.serves_iff (represents : Represents handle history plain) :
    history.heap.serves history.handle = true ↔ plain.phase ≠ .closed := by
  obtain ⟨wrapper, live, holds⟩ := represents.owner
  obtain ⟨block, allocated, phase, _⟩ := represents.phase
  obtain ⟨found, found', _, pooled, _⟩ := represents.coherent.owned.holds live holds
  obtain rfl : block = found := Option.some.inj (allocated.symm.trans found')
  rw [represents.followed, ← phase]
  simp [Heap.serves, allocated, pooled]

/-- libuv delivers the close while the object is closing. -/
theorem Represents.closing_iff (represents : Represents handle history plain) :
    history.handle ∈ history.heap.closingHandles ↔ plain.phase = .closing := by
  obtain ⟨block, allocated, phase, _⟩ := represents.phase
  rw [represents.followed, represents.coherent.linked.mem_closing allocated, phase]

/-- A class whose moves carry all members over refines the object without moves. A call or a
delivery is one step of both; a move, and whatever is done with a wrapper that was moved from,
is a step of the history only. -/
theorem CarriesOver.refines (carries : wrapperClass.CarriesOver) (handle : HandleId) :
    (historySystem codes wrapperClass).Refines (Represents handle) HistoryStep.visible
      (Plain.advance codes handle) := by
  constructor
  · intro history plain step represents permitted
    cases step with
    | call call =>
      obtain ⟨next, called, _, after⟩ := represents.call codes call
      exact ⟨next, called, after⟩
    | event event scripts =>
      obtain ⟨next, handled, after⟩ :=
        represents.handler codes (wrapperClass.handler event) scripts
      refine ⟨next, ?_, after⟩
      have named := represents.named
      rw [← represents.followed] at named
      simp only [historySystem, History.run, named, ok_bind, handled]
    | closed => exact represents.closed codes permitted
    | moveConstruct self => exact represents.moveConstruct codes carries permitted
    | moveAssign self => exact represents.moveAssign codes carries permitted
    | aside self call => exact represents.aside codes permitted call
    | discard self => exact represents.discard codes permitted
  · intro history other plain step represents represents' visible permitted
    cases step with
    | call call => trivial
    | event event scripts => exact represents'.serves_iff.mpr (represents.serves_iff.mp permitted)
    | closed => exact represents'.closing_iff.mpr (represents.closing_iff.mp permitted)
    | moveConstruct self => cases visible
    | moveAssign self => cases visible
    | aside self call => cases visible
    | discard self => cases visible

end Steps

section Runs

/-- A history begins as the object that it will be followed as. -/
theorem History.Begun.represents {history : History wrapperClass} (begun : history.Begun) :
    ∃ plain, Represents history.handle history plain := by
  obtain ⟨wrapper, live, holds⟩ := Option.bind_eq_some_iff.mp begun.holds
  obtain ⟨block, allocated, _⟩ := begun.coherent.owned.holds live holds
  refine ⟨⟨block.phase, block.referenced, history.members history.current, history.log⟩,
    begun.coherent, rfl, ⟨wrapper, live, holds⟩, ⟨block, allocated, rfl, rfl⟩, rfl, rfl, ?_⟩
  intro self member
  rw [begun.alone] at member
  cases member

/-- A wrapper that a class has just built begins a history. -/
theorem create_begun {heap : Heap} (coherent : Coherent heap) {self : Pointer}
    (vacant : heap.wrappers self = none) (active : Bool) (members : wrapperClass.Members) :
    ∃ history, History.create wrapperClass heap self active members = .ok history ∧
      history.Begun := by
  obtain ⟨next, constructed, move, _⟩ := construct_move vacant active
  refine ⟨⟨next, fun _ => members, heap.fresh, self, [], []⟩, ?_, coherent.move move, ?_, rfl⟩
  · simp only [History.create, constructed, ok_bind]
    rfl
  · exact (held_construct constructed).trans (if_pos rfl)

/-- What a wrapper that was moved from says of itself. -/
def MovedFrom (heap : Heap) (self : Pointer) : Prop :=
  ∃ wrapper, heap.wrappers self = some wrapper ∧ wrapper.handleClosed = true ∧
    heap.isClosing wrapper = .ok true

/-- For every class and every history of a wrapper: with the moves, and whatever is done
with the wrappers that were moved from, the program sees the same results and the same
callbacks and libuv is asked for the same as without them, the members end up the same
and the handle is in the same phase and referenced as well. The wrappers that were moved
from are closed. -/
theorem moving_transparent (kind : Kind) (codes : List (Observation Callback) → Int)
    (start : History (kind.wrapperClass Callback)) (begun : start.Begun)
    (steps : List (HistoryStep (kind.wrapperClass Callback)))
    (legal : (historySystem codes (kind.wrapperClass Callback)).Legal start steps) :
    ∃ final plain, (historySystem codes (kind.wrapperClass Callback)).exec start steps = .ok final ∧
      (historySystem codes (kind.wrapperClass Callback)).exec start
        (steps.filter HistoryStep.visible) = .ok plain ∧
      final.log = plain.log ∧
      final.members final.current = plain.members plain.current ∧
      (final.heap.blocks start.handle).map Block.phase =
        (plain.heap.blocks start.handle).map Block.phase ∧
      (final.heap.blocks start.handle).map Block.referenced =
        (plain.heap.blocks start.handle).map Block.referenced ∧
      ∀ self ∈ final.left, MovedFrom final.heap self := by
  obtain ⟨model, begins⟩ := begun.represents
  obtain ⟨final, plain, reached, executed, executed', ends, ends'⟩ :=
    (CarriesOver.refines codes (kind.carriesOver Callback) start.handle).agrees begins legal
  refine ⟨final, plain, executed, executed', ends.log.trans ends'.log.symm,
    ends.members.trans ends'.members.symm, ?_, ?_, ?_⟩
  · obtain ⟨block, allocated, phase, _⟩ := ends.phase
    obtain ⟨block', allocated', phase', _⟩ := ends'.phase
    rw [allocated, allocated', Option.map_some, Option.map_some, phase, phase']
  · obtain ⟨block, allocated, _, referenced⟩ := ends.phase
    obtain ⟨block', allocated', _, referenced'⟩ := ends'.phase
    rw [allocated, allocated', Option.map_some, Option.map_some, referenced, referenced']
  · intro self member
    exact ⟨⟨none, true⟩, (ends.left self member).2, rfl, rfl⟩

/-- A timer on a new loop. -/
def newTimer : History (Kind.timer.wrapperClass Nat) where
  heap := (Heap.loopInit.construct wrapperA false).toOption.getD Heap.loopInit
  members _ := ⟨0, 0, none⟩
  handle := 2
  current := wrapperA
  left := []
  log := []

/-- A timer that was just created is owned by its wrapper. -/
theorem newTimer_begun : newTimer.Begun := by
  have known : History.create (Kind.timer.wrapperClass Nat) Heap.loopInit wrapperA false
      ⟨0, 0, none⟩ = .ok newTimer := rfl
  obtain ⟨history, created, begun⟩ := @create_begun Nat (Kind.timer.wrapperClass Nat)
    Heap.loopInit loopInit_consistent.coherent wrapperA rfl false ⟨0, 0, none⟩
  obtain rfl : newTimer = history := Except.ok.inj (known.symm.trans created)
  exact begun

/-- The timer is moved between its times being set and its start, before which it is
unreferenced, and again before it expires; its callback closes it, and it is moved back
before the close is delivered. -/
theorem moving_transparent_timer :
    let steps : List (HistoryStep (Kind.timer.wrapperClass Nat)) :=
      [.call (.own (.setFirstTime 5)), .call (.own (.setOnTimeCallback (some 1))),
        .moveConstruct wrapperB, .call .unref, .call (.own .start), .aside wrapperA .isClosed,
        .aside wrapperA .ref, .moveAssign wrapperA, .event () [[.close, .own .start]],
        .moveAssign wrapperB, .closed, .discard wrapperA, .call .isClosed]
    ∃ final plain,
      (historySystem (fun _ => 0) (Kind.timer.wrapperClass Nat)).exec newTimer steps = .ok final ∧
      (historySystem (fun _ => 0) (Kind.timer.wrapperClass Nat)).exec newTimer
        (steps.filter HistoryStep.visible) = .ok plain ∧
      final.log = plain.log ∧
      final.members final.current = plain.members plain.current ∧
      (final.heap.blocks newTimer.handle).map Block.phase =
        (plain.heap.blocks newTimer.handle).map Block.phase ∧
      (final.heap.blocks newTimer.handle).map Block.referenced =
        (plain.heap.blocks newTimer.handle).map Block.referenced ∧
      ∀ self ∈ final.left, MovedFrom final.heap self :=
  moving_transparent .timer (fun _ => 0) newTimer newTimer_begun _
    (System.legal_of_check _ (by decide))

end Runs

end MoeUV.Transparency
